import Mathlib
import CacheKeys.Proofs.Rule.Registration
import CacheKeys.Proofs.Rule.Warnings

/-! # Loading configured rules

`RuleConfig.Fault` says what can be wrong with a configuration that comes after others, and which of
several faults is reported.  Loading a list of configurations either succeeds, because none of them
is at fault, and then holds a rule for each (`Describes`), or it reports the fault of the first one
that is (`ofConfigs_reports_first_fault`). -/

namespace CacheKeys

open Template

variable {compiler : Compiler}

/-! ### Reading a list until one fails -/

section

variable {α β ε : Type} {f : α → Except ε β}

theorem mapM_cons_of_error {a : α} {l : List α} {e : ε} (ha : f a = .error e) :
    (a :: l).mapM f = .error e := by
  rw [List.mapM_cons, ha]
  rfl

theorem mapM_cons_of_ok {a : α} {l : List α} {b : β} (ha : f a = .ok b) :
    (a :: l).mapM f = (l.mapM f).map (b :: ·) := by
  rw [List.mapM_cons, ha]
  rfl

theorem mapM_eq_ok_iff {l : List α} {out : List β} :
    l.mapM f = .ok out ↔ List.Forall₂ (fun a b => f a = .ok b) l out := by
  induction l generalizing out with
  | nil => cases out <;> simp [pure, Except.pure]
  | cons a l ih =>
      rw [List.forall₂_cons_left_iff]
      cases ha : f a with
      | error e => simp [mapM_cons_of_error ha]
      | ok b =>
          simp only [mapM_cons_of_ok ha, ← ih]
          cases l.mapM f <;> simp [Except.map, eq_comm]

/-- Reading fails at the first element that cannot be read. -/
theorem mapM_eq_error_iff {l : List α} {e : ε} :
    l.mapM f = .error e ↔ ∃ before a after, l = before ++ a :: after ∧
      (∀ b ∈ before, ∃ c, f b = .ok c) ∧ f a = .error e := by
  constructor
  · intro h
    induction l with
    | nil => cases h
    | cons a l ih =>
        cases ha : f a with
        | error e' =>
            rw [mapM_cons_of_error ha] at h
            cases h
            exact ⟨[], a, l, rfl, List.forall_mem_nil _, ha⟩
        | ok c =>
            have hl : l.mapM f = .error e := by
              rw [mapM_cons_of_ok ha] at h
              cases hl : l.mapM f with
              | error e' => rwa [hl] at h
              | ok out =>
                  rw [hl] at h
                  cases h
            obtain ⟨before, a', after, rfl, hb, ha'⟩ := ih hl
            exact ⟨a :: before, a', after, rfl, List.forall_mem_cons.2 ⟨⟨c, ha⟩, hb⟩, ha'⟩
  · rintro ⟨before, a, after, rfl, hb, ha⟩
    induction before with
    | nil => exact mapM_cons_of_error ha
    | cons b before ih =>
        obtain ⟨⟨c, hc⟩, hb⟩ := List.forall_mem_cons.1 hb
        rw [List.cons_append, mapM_cons_of_ok hc, ih hb]
        rfl

theorem exists_mapM_iff {l : List α} :
    (∃ out, l.mapM f = .ok out) ↔ ∀ a ∈ l, ∃ b, f a = .ok b := by
  simp only [mapM_eq_ok_iff]
  induction l with
  | nil => simp
  | cons a l ih =>
      rw [List.forall_mem_cons, ← ih]
      constructor
      · rintro ⟨_, h⟩
        cases h with
        | cons ha hl => exact ⟨⟨_, ha⟩, _, hl⟩
      · rintro ⟨⟨b, hb⟩, out, hout⟩
        exact ⟨b :: out, .cons hb hout⟩

end

/-! ### One configuration -/

def NamesField (text : String) : Prop := ∃ f, Field.parse text = .ok f

theorem Field.parse_eq_error_iff {text : String} {e : UnknownField} :
    parse text = .error e ↔ ¬NamesField text ∧ e = ⟨text⟩ := by
  unfold NamesField parse
  cases ofText? text <;> simp [eq_comm]

/-- What is wrong with a configuration that comes after others: the first input that names no
field, else the template, else the name. -/
inductive RuleConfig.Fault (compiler : Compiler) (earlier : List RuleConfig) (c : RuleConfig) :
    RuleError → Prop
  | unknownField {before after : List String} {text : String} :
      c.inputs = before ++ text :: after → (∀ t ∈ before, NamesField t) → ¬NamesField text →
      Fault compiler earlier c (.unknownField c.name ⟨text⟩)
  | compile {cause : CompileError} :
      (∀ t ∈ c.inputs, NamesField t) → compiler.compile c.template = .error cause →
      Fault compiler earlier c (.compile c.name cause)
  | duplicate {k : Compiled} :
      (∀ t ∈ c.inputs, NamesField t) → compiler.compile c.template = .ok k →
      c.name ∈ earlier.map (·.name) → Fault compiler earlier c (.duplicate c.name)

/-- A fault names the configuration that it is found in. -/
theorem RuleConfig.Fault.rule_eq {earlier : List RuleConfig} {c : RuleConfig} {e : RuleError}
    (h : c.Fault compiler earlier e) : e.rule = c.name := by
  cases h <;> rfl

/-- The rule that a configuration stands for. -/
structure RuleConfig.Describes (compiler : Compiler) (c : RuleConfig) (r : Rule) : Prop where
  name : r.name = c.name
  inputs : List.Forall₂ (fun t f => Field.parse t = .ok f) c.inputs r.inputs
  template : compiler.compile c.template = .ok r.template
  source : r.template.source = c.template

theorem exists_inputs_iff {c : RuleConfig} :
    (∃ inputs, c.inputs.mapM Field.parse = .ok inputs) ↔ ∀ t ∈ c.inputs, NamesField t :=
  exists_mapM_iff

theorem RuleConfig.Describes.namesField {c : RuleConfig} {r : Rule}
    (h : c.Describes compiler r) : ∀ t ∈ c.inputs, NamesField t :=
  exists_inputs_iff.1 ⟨_, mapM_eq_ok_iff.2 h.inputs⟩

theorem Rule.ofConfig_eq_ok_iff_describes {c : RuleConfig} {r : Rule} :
    ofConfig compiler c = .ok r ↔ c.Describes compiler r := by
  rw [ofConfig_eq_ok_iff]
  constructor
  · rintro ⟨inputs, hi, hm⟩
    obtain ⟨k, hk, rfl⟩ := make_eq_ok_iff.1 hm
    have hsource : k.source = c.template := by
      obtain ⟨_, _, -, -, rfl⟩ := compile_eq_ok_iff.1 hk
      rfl
    exact ⟨rfl, mapM_eq_ok_iff.1 hi, hk, hsource⟩
  · rintro ⟨hn, hi, hk, -⟩
    exact ⟨r.inputs, mapM_eq_ok_iff.2 hi, make_eq_ok_iff.2 ⟨_, hk, by rw [← hn]⟩⟩

theorem Rule.ofConfig_eq_error_iff {c : RuleConfig} {e : RuleError} :
    ofConfig compiler c = .error e ↔
      (∃ cause, c.inputs.mapM Field.parse = .error cause ∧ e = .unknownField c.name cause) ∨
      ((∀ t ∈ c.inputs, NamesField t) ∧
        ∃ cause, compiler.compile c.template = .error cause ∧ e = .compile c.name cause) := by
  rw [← exists_inputs_iff]
  unfold ofConfig make
  cases c.inputs.mapM Field.parse with
  | error cause => simp [eq_comm]
  | ok inputs =>
      cases compiler.compile c.template with
      | error cause => simp [eq_comm]
      | ok k => simp

/-- The first input that names no field is the reason why inputs are refused. -/
theorem mapM_parse_eq_error_iff {inputs : List String} {cause : UnknownField} :
    inputs.mapM Field.parse = .error cause ↔ ∃ before text after,
      inputs = before ++ text :: after ∧ (∀ t ∈ before, NamesField t) ∧ ¬NamesField text ∧
        cause = ⟨text⟩ := by
  rw [mapM_eq_error_iff]
  simp only [Field.parse_eq_error_iff]
  rfl

/-- A configuration stands for a rule if its inputs and its template can be read. -/
theorem RuleConfig.exists_describes_iff {c : RuleConfig} :
    (∃ r, c.Describes compiler r) ↔
      (∀ t ∈ c.inputs, NamesField t) ∧ ∃ k, compiler.compile c.template = .ok k := by
  constructor
  · rintro ⟨r, hd⟩
    exact ⟨hd.namesField, _, hd.template⟩
  · rintro ⟨hi, k, hk⟩
    obtain ⟨inputs, hm⟩ := exists_inputs_iff.2 hi
    have hr := Rule.ofConfig_eq_ok_iff.2 ⟨inputs, hm, Rule.make_eq_ok_iff.2 ⟨k, hk, rfl⟩⟩
    exact ⟨_, Rule.ofConfig_eq_ok_iff_describes.1 hr⟩

/-- A fault is found either in the configuration itself or in its name. -/
theorem RuleConfig.fault_iff {earlier : List RuleConfig} {c : RuleConfig} {e : RuleError} :
    c.Fault compiler earlier e ↔ Rule.ofConfig compiler c = .error e ∨
      (∃ r, c.Describes compiler r) ∧ c.name ∈ earlier.map (·.name) ∧ e = .duplicate c.name := by
  rw [Rule.ofConfig_eq_error_iff, exists_describes_iff]
  constructor
  · intro h
    cases h with
    | unknownField hl hb ht =>
        exact .inl (.inl ⟨_, mapM_parse_eq_error_iff.2 ⟨_, _, _, hl, hb, ht, rfl⟩, rfl⟩)
    | compile hi hc => exact .inl (.inr ⟨hi, _, hc, rfl⟩)
    | duplicate hi hk hm => exact .inr ⟨⟨hi, _, hk⟩, hm, rfl⟩
  · rintro ((⟨cause, hc, rfl⟩ | ⟨hi, cause, hc, rfl⟩) | ⟨⟨hi, k, hk⟩, hm, rfl⟩)
    · obtain ⟨before, text, after, hl, hb, ht, rfl⟩ := mapM_parse_eq_error_iff.1 hc
      exact .unknownField hl hb ht
    · exact .compile hi hc
    · exact .duplicate hi hk hm

namespace RuleSet

/-- A configuration is refused after others exactly for its fault. -/
theorem insertConfig_eq_error_iff {s : RuleSet} {earlier : List RuleConfig} (hs : s.IsIndexed)
    (hn : s.names = earlier.map (·.name)) {c : RuleConfig} {e : RuleError} :
    insertConfig compiler s c = .error e ↔ c.Fault compiler earlier e := by
  rw [RuleConfig.fault_iff, ← hn]
  unfold insertConfig
  cases hr : Rule.ofConfig compiler c with
  | error e' =>
      have hnone : ¬∃ r, c.Describes compiler r := by
        rintro ⟨r, hd⟩
        rw [← Rule.ofConfig_eq_ok_iff_describes, hr] at hd
        cases hd
      simp [hnone]
  | ok r =>
      have hd := Rule.ofConfig_eq_ok_iff_describes.1 hr
      have hsome : ∃ r, c.Describes compiler r := ⟨r, hd⟩
      show s.insert r = .error e ↔ _
      rw [insert_eq, hd.name]
      by_cases hm : c.name ∈ s.names
      · rw [if_pos (hs.contains_iff.2 hm)]
        simp [hsome, hm, eq_comm]
      · rw [if_neg fun ht => hm (hs.contains_iff.1 ht)]
        simp [hm]

/-- A configuration that is taken gives its rule a new name and the last place. -/
theorem insertConfig_eq_ok {s s' : RuleSet} (hs : s.IsIndexed) {c : RuleConfig}
    (h : insertConfig compiler s c = .ok s') :
    ∃ r, c.Describes compiler r ∧ r.name ∉ s.names ∧ s' = s.add r := by
  unfold insertConfig at h
  cases hr : Rule.ofConfig compiler c with
  | error e =>
      rw [hr] at h
      cases h
  | ok r =>
      rw [hr] at h
      change s.insert r = .ok s' at h
      rw [insert_eq] at h
      split at h
      · cases h
      · next ht =>
        cases h
        exact ⟨r, Rule.ofConfig_eq_ok_iff_describes.1 hr, fun hm => ht (hs.contains_iff.2 hm), rfl⟩

/-! ### Lists of configurations -/

/-- The collection holds the rules of the configurations, in order. -/
structure Loaded (compiler : Compiler) (configs : List RuleConfig) (s : RuleSet) : Prop where
  isIndexed : s.IsIndexed
  rules : List.Forall₂ (RuleConfig.Describes compiler) configs s.rules

theorem map_name_of_describes {configs : List RuleConfig} {rules : List Rule}
    (h : List.Forall₂ (RuleConfig.Describes compiler) configs rules) :
    rules.map (·.name) = configs.map (·.name) := by
  induction h with
  | nil => rfl
  | cons hd _ ih => rw [List.map_cons, List.map_cons, hd.name, ih]

theorem exists_describes {configs : List RuleConfig} {rules : List Rule}
    (h : List.Forall₂ (RuleConfig.Describes compiler) configs rules) {c : RuleConfig}
    (hc : c ∈ configs) : ∃ r, c.Describes compiler r := by
  induction h with
  | nil => cases hc
  | cons hd _ ih =>
      rcases List.mem_cons.1 hc with rfl | hc
      · exact ⟨_, hd⟩
      · exact ih hc

theorem Loaded.names_eq {configs : List RuleConfig} {s : RuleSet}
    (h : Loaded compiler configs s) : s.names = configs.map (·.name) :=
  map_name_of_describes h.rules

theorem loaded_empty : Loaded compiler [] empty := ⟨isIndexed_empty, .nil⟩

/-- A configuration that is taken extends what is loaded. -/
theorem Loaded.insertConfig {earlier : List RuleConfig} {s s' : RuleSet} {c : RuleConfig}
    (h : Loaded compiler earlier s) (hc : insertConfig compiler s c = .ok s') :
    Loaded compiler (earlier ++ [c]) s' := by
  obtain ⟨r, hd, hn, rfl⟩ := insertConfig_eq_ok h.isIndexed hc
  exact ⟨h.isIndexed.add hn, List.rel_append h.rules (.cons hd .nil)⟩

/-- The fault of the configuration at an index of a list that comes after others. -/
def FaultAt (compiler : Compiler) (earlier configs : List RuleConfig) (i : ℕ) (e : RuleError) :
    Prop :=
  ∃ c, configs[i]? = some c ∧ c.Fault compiler (earlier ++ configs.take i) e

theorem faultAt_cons_zero {earlier configs : List RuleConfig} {c : RuleConfig} {e : RuleError} :
    FaultAt compiler earlier (c :: configs) 0 e ↔ c.Fault compiler earlier e := by
  simp [FaultAt]

theorem faultAt_cons_succ {earlier configs : List RuleConfig} {c : RuleConfig} {i : ℕ}
    {e : RuleError} :
    FaultAt compiler earlier (c :: configs) (i + 1) e ↔
      FaultAt compiler (earlier ++ [c]) configs i e := by
  simp [FaultAt]

theorem foldlM_cons_of_ok {s s' : RuleSet} {c : RuleConfig} {configs : List RuleConfig}
    (hc : insertConfig compiler s c = .ok s') :
    (c :: configs).foldlM (insertConfig compiler) s =
      configs.foldlM (insertConfig compiler) s' := by
  rw [List.foldlM_cons, hc]
  rfl

theorem foldlM_cons_of_error {s : RuleSet} {c : RuleConfig} {configs : List RuleConfig}
    {e : RuleError} (hc : insertConfig compiler s c = .error e) :
    (c :: configs).foldlM (insertConfig compiler) s = .error e := by
  rw [List.foldlM_cons, hc]
  rfl

/-- What is loaded in the end are all configurations. -/
theorem Loaded.of_foldlM {earlier configs : List RuleConfig} {s s' : RuleSet}
    (h : Loaded compiler earlier s)
    (hc : configs.foldlM (RuleSet.insertConfig compiler) s = .ok s') :
    Loaded compiler (earlier ++ configs) s' := by
  induction configs generalizing earlier s with
  | nil =>
      cases hc
      rwa [List.append_nil]
  | cons c configs ih =>
      cases hi : RuleSet.insertConfig compiler s c with
      | error e =>
          rw [foldlM_cons_of_error hi] at hc
          cases hc
      | ok s₁ =>
          rw [foldlM_cons_of_ok hi] at hc
          rw [List.append_cons]
          exact ih (h.insertConfig hi) hc

/-- Loading fails exactly with the fault of the first configuration that is at fault. -/
theorem Loaded.foldlM_eq_error_iff {earlier configs : List RuleConfig} {s : RuleSet}
    {e : RuleError} (h : Loaded compiler earlier s) :
    configs.foldlM (RuleSet.insertConfig compiler) s = .error e ↔
      ∃ i, FaultAt compiler earlier configs i e ∧
        ∀ j < i, ∀ e', ¬FaultAt compiler earlier configs j e' := by
  induction configs generalizing earlier s with
  | nil =>
      constructor
      · intro hc
        cases hc
      · rintro ⟨i, ⟨c, hc, -⟩, -⟩
        cases hc
  | cons c configs ih =>
      have hfault : ∀ e', RuleSet.insertConfig compiler s c = .error e' ↔
          FaultAt compiler earlier (c :: configs) 0 e' := fun e' => by
        rw [insertConfig_eq_error_iff h.isIndexed h.names_eq, faultAt_cons_zero]
      cases hi : RuleSet.insertConfig compiler s c with
      | error e₀ =>
          rw [foldlM_cons_of_error hi]
          constructor
          · intro hc
            cases hc
            exact ⟨0, (hfault _).1 hi, fun j hj => absurd hj (Nat.not_lt_zero j)⟩
          · rintro ⟨i, hf, hfirst⟩
            cases i with
            | zero =>
                rw [(hfault e).2 hf] at hi
                cases hi
                rfl
            | succ i => exact absurd ((hfault _).1 hi) (hfirst 0 (Nat.succ_pos i) e₀)
      | ok s₁ =>
          have hnone : ∀ e', ¬FaultAt compiler earlier (c :: configs) 0 e' := by
            intro e' hf
            rw [(hfault e').2 hf] at hi
            cases hi
          rw [foldlM_cons_of_ok hi, ih (h.insertConfig hi)]
          constructor
          · rintro ⟨i, hf, hfirst⟩
            refine ⟨i + 1, faultAt_cons_succ.2 hf, fun j hj e' => ?_⟩
            cases j with
            | zero => exact hnone e'
            | succ j => exact fun hj' => hfirst j (by omega) e' (faultAt_cons_succ.1 hj')
          · rintro ⟨i, hf, hfirst⟩
            cases i with
            | zero => exact absurd hf (hnone e)
            | succ i =>
                refine ⟨i, faultAt_cons_succ.1 hf, fun j hj e' hj' => ?_⟩
                exact hfirst (j + 1) (by omega) e' (faultAt_cons_succ.2 hj')

/-- Configurations that are right in themselves and differ in their names have no faults. -/
theorem not_faultAt {configs : List RuleConfig}
    (hc : ∀ c ∈ configs, (∀ t ∈ c.inputs, NamesField t) ∧
      ∃ k, compiler.compile c.template = .ok k)
    (hn : (configs.map (·.name)).Nodup) (i : ℕ) (e : RuleError) :
    ¬FaultAt compiler [] configs i e := by
  rintro ⟨c, hi, hf⟩
  obtain ⟨hinputs, k, hk⟩ := hc c (List.mem_of_getElem? hi)
  cases hf with
  | unknownField hl _ ht => exact ht (hinputs _ (by simp [hl]))
  | compile _ he =>
      rw [hk] at he
      cases he
  | duplicate _ _ hm =>
      rw [List.nil_append, List.map_take] at hm
      have hlater : c.name ∈ (configs.map (·.name)).drop i := by
        refine List.mem_of_getElem? (i := 0) ?_
        rw [List.getElem?_drop, Nat.add_zero, List.getElem?_map, hi]
        rfl
      exact List.disjoint_take_drop hn le_rfl hm hlater

/-- Loading succeeds exactly if all inputs name fields, all templates compile and all names differ,
and then holds the rules of the configurations, in order.  Otherwise the first configuration at
fault gives its fault, which names it. -/
theorem ofConfigs_reports_first_fault (compiler : Compiler) (configs : List RuleConfig) :
    ((∃ s, ofConfigs compiler configs = .ok s) ↔
      (∀ c ∈ configs, (∀ t ∈ c.inputs, NamesField t) ∧
        ∃ k, compiler.compile c.template = .ok k) ∧ (configs.map (·.name)).Nodup) ∧
    (∀ s, ofConfigs compiler configs = .ok s →
      s.IsIndexed ∧ List.Forall₂ (RuleConfig.Describes compiler) configs s.rules) ∧
    ∀ e, ofConfigs compiler configs = .error e ↔
      ∃ (i : ℕ) (c : RuleConfig), configs[i]? = some c ∧ c.Fault compiler (configs.take i) e ∧
        e.rule = c.name ∧ ∀ j < i, ∀ c' : RuleConfig, configs[j]? = some c' →
          ∀ e', ¬c'.Fault compiler (configs.take j) e' := by
  have hloaded : ∀ s, ofConfigs compiler configs = .ok s → Loaded compiler configs s :=
    fun s hs => loaded_empty.of_foldlM hs
  have herror : ∀ e, ofConfigs compiler configs = .error e ↔
      ∃ i, FaultAt compiler [] configs i e ∧ ∀ j < i, ∀ e', ¬FaultAt compiler [] configs j e' :=
    fun e => loaded_empty.foldlM_eq_error_iff
  refine ⟨⟨?_, ?_⟩, fun s hs => ⟨(hloaded s hs).isIndexed, (hloaded s hs).rules⟩, fun e => ?_⟩
  · rintro ⟨s, hs⟩
    have h := hloaded s hs
    refine ⟨fun c hc => ?_, ?_⟩
    · exact RuleConfig.exists_describes_iff.1 (exists_describes h.rules hc)
    · rw [← h.names_eq]
      exact h.isIndexed.nodup_names
  · rintro ⟨hc, hn⟩
    cases hs : ofConfigs compiler configs with
    | ok s => exact ⟨s, rfl⟩
    | error e =>
        obtain ⟨i, hf, -⟩ := (herror e).1 hs
        exact absurd hf (not_faultAt hc hn i e)
  · rw [herror]
    simp only [FaultAt, List.nil_append]
    constructor
    · rintro ⟨i, ⟨c, hi, hf⟩, hfirst⟩
      exact ⟨i, c, hi, hf, hf.rule_eq, fun j hj c' hc' e' hf' => hfirst j hj e' ⟨c', hc', hf'⟩⟩
    · rintro ⟨i, c, hi, hf, -, hfirst⟩
      exact ⟨i, ⟨c, hi, hf⟩, fun j hj e' ⟨c', hc', hf'⟩ => hfirst j hj c' hc' e' hf'⟩

end RuleSet

end CacheKeys
