import Mathlib
import CacheKeys.Proofs.Builtin.Functions
import CacheKeys.Proofs.Template.Markers
import CacheKeys.Proofs.Template.Pieces
import CacheKeys.Proofs.Template.RoundTrip

/-! # Specimens of faults

For every list of calls around a fault there is a template that leaves of the marker no more than
`visibility` tells.  `specimen path` is a call without the argument it needs, inside calls of the
functions of `path` whose other arguments hide as much as the function can hide; its text is one of
few (`exists_value_specimen`), and it can be written as a template (`exists_compile_specimen`). -/

namespace CacheKeys.Template

/-! ### Calls that hide an argument -/

/-- An argument of a call that is built around a node: a text, or the node between two texts. -/
inductive Slot where
  | text (text : String)
  | hole (before after : String)

def Slot.expr (e : Expr) : Slot → Expr
  | .text s => .literal s
  | .hole before after => .concat [.literal before, e, .literal after]

/-- The text of the argument, from the text of the node. -/
def Slot.fill (text : String) : Slot → String
  | .text s => s
  | .hole before after => before ++ text ++ after

/-- Arguments that hide the one at the position. -/
def Passage.slots (p : Passage) : List Slot :=
  match p.function, p.position with
  | "substr", 0 => [.hole "" "", .text "0", .text "0"]
  | "substr", 1 => [.text "", .hole "1" ""]
  | "substr", 2 => [.text "", .text "0", .hole "1" ""]
  | "select", 0 => [.hole "" "", .text "-1"]
  | "select", 1 => [.text "", .hole "1" ""]
  | "path_base", 0 => [.hole "" "/7"]
  | "path_dir", 0 => [.hole "7/" ""]
  | _, i => List.replicate i (.text "") ++ [.hole "" ""]

/-- The call of the function with these arguments. -/
def Passage.wrap (p : Passage) (e : Expr) : Expr := .call p.function (p.slots.map (Slot.expr e)) 0

/-- A fault with calls around it. -/
def specimen (path : List Passage) : Expr := path.foldr Passage.wrap (.call "len" [] 0)

/-- Texts that hold what is left of a marker, and no more; specimens have these texts. -/
def Visibility.samples : Visibility → List String
  | plain => ["<ARGN>", "<BAD-TYPE>"]
  | folded => ["<argn>", "<bad-type>"]
  | lost => ["", "0", "1", "2", "6", "7", "10"]

theorem Visibility.isPresentIn_sample {v : Visibility} (hv : v ≠ plain) {text : String}
    (h : text ∈ v.samples) : Sentinel.isPresentIn text = false := by
  have hs : ∀ text ∈ folded.samples ++ lost.samples, Sentinel.isPresentIn text = false := by
    decide +kernel
  cases v with
  | plain => exact absurd rfl hv
  | folded => exact hs text (List.mem_append_left _ h)
  | lost => exact hs text (List.mem_append_right _ h)

/-! ### Texts of specimens -/

theorem exists_hole (p : Passage) :
    ∃ before after, p.slots[p.position]? = some (.hole before after) := by
  unfold Passage.slots
  split <;> simp_all

/-- The function hides all samples in the argument at the position. -/
def Hides (f : TextFunction) (i : ℕ) : Prop :=
  ∀ v ∈ [Visibility.plain, .folded, .lost], ∀ text ∈ v.samples,
    answer f ((Passage.slots ⟨f.name, i⟩).map (Slot.fill text)) ∈
      (Passage.carry ⟨f.name, i⟩ v).samples

instance (f : TextFunction) (i : ℕ) : Decidable (Hides f i) := by
  unfold Hides
  infer_instance

/-- An argument that the function does not take is hidden by a fault. -/
theorem hides_of_refused {f : TextFunction} {i max : ℕ} (hf : f.arity.max = some max) (hi : max ≤ i)
    (hs : Passage.slots ⟨f.name, i⟩ = List.replicate i (.text "") ++ [.hole "" ""])
    (hc : ∀ v, Passage.carry ⟨f.name, i⟩ v = .plain) : Hides f i := by
  intro v _ text _
  have ha : f.arity.accepts (Passage.slots ⟨f.name, i⟩).length = false := by
    simp [Arity.accepts, hf, hs]
    omega
  rw [answer, List.length_map, ha, if_neg Bool.false_ne_true, hc]
  exact List.mem_cons_self

/-- Every builtin function hides the samples as far as `Passage.carry` tells, in arguments that it
takes by evaluation on each of them. -/
theorem Builtin.hides {f : TextFunction} (hf : f ∈ Builtin.functions) (i : ℕ) : Hides f i := by
  simp only [Builtin.functions, List.mem_cons, List.not_mem_nil, or_false] at hf
  rcases hf with rfl | rfl | rfl | rfl | rfl | rfl | rfl | rfl
  · rcases i with _ | _ | _ | i
    · decide +kernel
    · decide +kernel
    · decide +kernel
    · exact hides_of_refused rfl (Nat.le_add_left 3 i) rfl fun v => rfl
  · rcases i with _ | _ | i
    · decide +kernel
    · decide +kernel
    · exact hides_of_refused rfl (Nat.le_add_left 2 i) rfl fun v => rfl
  all_goals
    rcases i with _ | i
    · decide +kernel
    · exact hides_of_refused rfl (Nat.le_add_left 1 i) rfl fun v => rfl

/-- All functions of the passages are builtin functions. -/
def AreBuiltin (path : List Passage) : Prop :=
  ∀ p ∈ path, ∃ f ∈ Builtin.functions, f.name = p.function

/-- A template of the builtin functions has calls of no other functions around its faults. -/
theorem FaultAt.areBuiltin {n : ℕ} {path : List Passage} {s : Stage} (h : FaultAt n path s)
    (hs : s.Calls (· ∈ Builtin.functions)) : AreBuiltin path := by
  induction h with
  | lookup hn => exact List.forall_mem_nil _
  | count hc => exact List.forall_mem_nil _
  | @argument f args s i path hi _ ih =>
      cases hs with
      | call hf hargs =>
          exact List.forall_mem_cons.2 ⟨⟨f, hf, rfl⟩, ih (hargs s (List.mem_of_getElem? hi))⟩
  | @part parts s path hm _ ih =>
      cases hs with
      | concat hparts => exact ih (hparts s hm)

theorem value_slot {R : Registry} {ctx : Context} {e : Expr} {text : String}
    (h : value R ctx e = some text) (s : Slot) :
    value R ctx (s.expr e) = some (s.fill text) := by
  cases s with
  | text s => exact value_literal R ctx s
  | hole before after =>
      simp [Slot.expr, Slot.fill, value_concat, keyOf_cons, keyOf_nil, value_literal, h,
        String.append_assoc]

theorem values_slots {R : Registry} {ctx : Context} {e : Expr} {text : String}
    (h : value R ctx e = some text) (ss : List Slot) :
    values R ctx (ss.map (Slot.expr e)) = some (ss.map (Slot.fill text)) := by
  induction ss with
  | nil => rfl
  | cons s ss ih => simp [values_cons, value_slot h, ih]

/-- The text of a specimen is one of the samples. -/
theorem exists_value_specimen (ctx : Context) {path : List Passage} (h : AreBuiltin path) :
    ∃ text ∈ (visibility path).samples,
      value Registry.builtin ctx (specimen path) = some text := by
  induction path with
  | nil =>
      refine ⟨"<ARGN>", List.mem_cons_self, ?_⟩
      have hl : Registry.builtin.get? "len" = some Builtin.len := Registry.get?_builtin "len"
      rw [specimen, List.foldr_nil, value_call, hl]
      rfl
  | cons p path ih =>
      obtain ⟨⟨f, hf, hn⟩, hpath⟩ := List.forall_mem_cons.1 h
      obtain ⟨text, ht, hv⟩ := ih hpath
      obtain ⟨function, i⟩ := p
      obtain rfl : f.name = function := hn
      have hm : visibility path ∈ [Visibility.plain, .folded, .lost] := by
        cases visibility path <;> simp
      refine ⟨_, Builtin.hides hf i _ hm text ht, ?_⟩
      rw [specimen, List.foldr_cons, Passage.wrap, value_call, Registry.get?_builtin_of_mem hf,
        Option.bind_some]
      show (values _ ctx (List.map (Slot.expr (specimen path)) _)).map _ = _
      rw [values_slots hv]
      rfl

/-! ### Faults of specimens -/

/-- A fault in the node of a slot is a fault in the argument. -/
theorem FaultAt.of_hole {R : Registry} {n : ℕ} {path : List Passage} {e : Expr}
    (he : ∀ r, lower R e = .ok r → FaultAt n path r.1) {before after : String}
    {r : Stage × List Diagnostic} (h : lower R ((Slot.hole before after).expr e) = .ok r) :
    FaultAt n path r.1 := by
  obtain ⟨rs, hrs, rfl⟩ := lower_concat_eq_ok_iff.1 h
  obtain ⟨s, hs, hl⟩ := getElem?_lowerAll hrs (i := 1) rfl
  exact .part (List.mem_of_getElem? hs) (he s hl)

/-- A specimen has a fault with the calls of the path around it. -/
theorem faultAt_specimen (n : ℕ) {path : List Passage} (h : AreBuiltin path)
    {r : Stage × List Diagnostic} (hr : lower Registry.builtin (specimen path) = .ok r) :
    FaultAt n path r.1 := by
  induction path generalizing r with
  | nil =>
      obtain ⟨f, rs, hf, hrs, rfl⟩ := lower_call_eq_ok_iff.1 hr
      cases hrs
      have hl : Registry.builtin.get? "len" = some Builtin.len := Registry.get?_builtin "len"
      obtain rfl : f = Builtin.len := Option.some.inj (hf.symm.trans hl)
      exact .count rfl
  | cons p path ih =>
      obtain ⟨f, rs, hf, hrs, rfl⟩ := lower_call_eq_ok_iff.1 hr
      obtain ⟨before, after, hh⟩ := exists_hole p
      have ha : (p.slots.map (Slot.expr (specimen path)))[p.position]? =
          some ((Slot.hole before after).expr (specimen path)) := by
        rw [List.getElem?_map, hh, Option.map_some]
      obtain ⟨s, hs, hl⟩ := getElem?_lowerAll hrs ha
      have hn := (Registry.mem_of_get?_builtin hf).2
      obtain ⟨function, i⟩ := p
      obtain rfl : f.name = function := hn
      exact .argument hs (.of_hole (fun r => ih (List.forall_mem_cons.1 h).2) hl)

/-! ### Specimens as templates -/

theorem isName_of_mem {f : TextFunction} (h : f ∈ Builtin.functions) : IsName f.name := by
  have hs : ∀ f ∈ Builtin.functions, f.name ≠ "" ∧ f.name.toList.all isWordChar = true := by
    decide +kernel
  exact ⟨(hs f h).1, List.all_eq_true.1 (hs f h).2⟩

theorem isNumeral_of_mem {f : TextFunction} (h : f ∈ Builtin.functions) :
    Text.isNumeral f.name.toList = false := by
  have hs : ∀ f ∈ Builtin.functions, Text.isNumeral f.name.toList = false := by decide +kernel
  exact hs f h

theorem specimen_eq_call (path : List Passage) :
    ∃ name args, specimen path = .call name args 0 := by
  cases path with
  | nil => exact ⟨_, _, rfl⟩
  | cons p path => exact ⟨_, _, rfl⟩

/-- A property of trees that calls of builtin functions and their slots have, if the node in the
slots has it, holds of specimens. -/
theorem specimen_induction {P : ℕ → Expr → Prop}
    (hcall : ∀ f ∈ Builtin.functions, ∀ n args, (∀ e ∈ args, P n e) →
      P (n + 1) (.call f.name args 0))
    (hslot : ∀ n e s, P n e → (∃ name args, e = .call name args 0) → P n (Slot.expr e s))
    {path : List Passage} (h : AreBuiltin path) : P (path.length + 1) (specimen path) := by
  induction path with
  | nil => exact hcall Builtin.len (by simp [Builtin.functions]) 0 [] (by simp)
  | cons p path ih =>
      obtain ⟨⟨f, hf, hn⟩, hpath⟩ := List.forall_mem_cons.1 h
      rw [specimen, List.foldr_cons, Passage.wrap, ← hn]
      refine hcall f hf _ _ fun e he => ?_
      obtain ⟨s, -, rfl⟩ := List.mem_map.1 he
      exact hslot _ _ s (ih hpath) (specimen_eq_call path)

theorem printable_specimen {path : List Passage} (h : AreBuiltin path) :
    Printable (path.length + 1) (specimen path) := by
  refine specimen_induction (fun f hf n args hargs => ?_) (fun n e s he _ => ?_) h
  · exact .call (isName_of_mem hf) (fun _ => isNumeral_of_mem hf) hargs
  · cases s with
    | text s => exact .literal n s
    | hole before after =>
        refine .concat (by simp) ?_
        simp [he, Printable.literal]

theorem canonical_specimen {path : List Passage} (h : AreBuiltin path) :
    (specimen path).Canonical := by
  refine specimen_induction (P := fun _ => Expr.Canonical) (fun f hf n args hargs => ?_)
    (fun n e s he hc => ?_) h
  · exact .call (isName_of_mem hf) (fun _ => isNumeral_of_mem hf) hargs
  · obtain ⟨name, args, rfl⟩ := hc
    cases s with
    | text s => exact .literal s
    | hole before after =>
        refine .concat (by simp) ?_ ?_ ?_
        · simp [Expr.isConcat]
        · simp [Expr.isLiteral]
        · simp [he, Expr.Canonical.literal]

/-- Trees that differ in positions only have the same stages. -/
theorem exists_lower_of_forget_eq {R : Registry} {e e' : Expr} (he : e'.forget = e.forget)
    {r : Stage × List Diagnostic} (h : lower R e = .ok r) :
    ∃ ds, lower R e' = .ok (r.1, ds) := by
  have hl : relocateResult _ _ (lower R e') = relocateResult _ _ (lower R e) :=
    (lower_relocate _ R e').symm.trans ((congrArg (lower R) he).trans (lower_relocate _ R e))
  rw [h] at hl
  cases hs : lower R e' with
  | error err => simp [hs] at hl
  | ok r' =>
      have hr : r'.1 = r.1 := (Prod.mk.inj (Except.ok.inj (hs ▸ hl))).1
      exact ⟨r'.2, by rw [← hr]⟩

/-- A specimen is read from its text. -/
theorem exists_read_specimen {path : List Passage} (h : AreBuiltin path) :
    ∃ e, read (path.length + 1) (specimen path).text.toList = .ok [e] ∧
      e.forget = (specimen path).forget := by
  obtain ⟨name, args, hc⟩ := specimen_eq_call path
  have hn : PrintableNode (path.length + 1) (specimen path) :=
    ⟨printable_specimen h, by rw [hc]; rfl, fun _ => Nat.le_add_left 1 _⟩
  obtain ⟨e, hg, hf⟩ := exists_derivesGroup_text hn (by rw [hc]; rfl) 0
  obtain ⟨body, hb⟩ := hg.exists_body
  refine ⟨e, read_eq_ok_iff.2 (.inr ⟨by simp [hb], .group .nil hg⟩), ?_⟩
  rw [hf, normal_of_canonical _ (canonical_specimen h)]

/-- The template of a specimen has the fault and gives one of the samples as its key. -/
theorem exists_compile_specimen (ctx : Context) {path : List Passage} (h : AreBuiltin path) :
    ∃ limits template k, Compiler.compile ⟨Registry.builtin, limits⟩ template = .ok k ∧
      (∃ s ∈ k.stages, FaultAt ctx.size path s) ∧ k.evaluate ctx ∈ (visibility path).samples := by
  obtain ⟨e, hread, he⟩ := exists_read_specimen h
  obtain ⟨text, ht, hv⟩ := exists_value_specimen ctx h
  cases hl : lower Registry.builtin (specimen path) with
  | error err => simp [value, hl, Except.toOption] at hv
  | ok r =>
      obtain ⟨ds, hds⟩ := exists_lower_of_forget_eq he hl
      have hrender : r.1.renderWith Sentinel.marker ctx = text := by
        simpa [value, hl, Except.toOption] using hv
      have hp : parse ⟨path.length + 1, (specimen path).text.utf8ByteSize⟩ (specimen path).text =
          .ok [e] := by
        rw [parse_eq_read le_rfl]
        exact hread
      have hs : lowerAll Registry.builtin [e] = .ok ([r.1], ds) := by simp [lowerAll, hds]
      refine ⟨_, _, _, compile_eq_ok_iff.2 ⟨_, _, hp, hs, rfl⟩,
        ⟨r.1, List.mem_singleton_self _, faultAt_specimen _ h hl⟩, ?_⟩
      simpa [Compiled.evaluate, Compiled.evaluateWith, Stage.renderAllWith, hrender] using ht

end CacheKeys.Template
