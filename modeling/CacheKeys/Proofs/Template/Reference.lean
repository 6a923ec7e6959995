import Mathlib
import CacheKeys.Proofs.Builtin.Functions
import CacheKeys.Proofs.Template.Faults

/-! # What templates mean, and which functions it depends on

`Means R ctx e text` says in rules what text a tree stands for: a literal for itself, an index for
the value of the context, a call for what its function answers, a juxtaposition for its parts in
order.  Compiling keeps this meaning (`means_iff_of_lower`).  A registry takes part only through the
arities and the meanings of the functions that are called: through the name that is not registered
(`lower_eq_error_iff`), through the diagnostics (`diagnostics_of_lower`) and through the meaning
(`means_congr`).  `compile_means` puts them together. -/

namespace CacheKeys.Template

/-! ### Meanings -/

mutual

/-- The tree stands for the text. -/
inductive Means (R : Registry) (ctx : Context) : Expr → String → Prop
  | literal {text : String} : Means R ctx (.literal text) text
  | value {index : ℕ} {text : String} :
      ctx.get? index = some text → Means R ctx (.argRef index) text
  | missing {index : ℕ} :
      ctx.get? index = none → Means R ctx (.argRef index) Sentinel.argCount.marker
  | refused {name : String} {args : List Expr} {offset : ℕ} {f : TextFunction} :
      R.get? name = some f → f.arity.accepts args.length = false →
      Means R ctx (.call name args offset) Sentinel.argCount.marker
  | answered {name text : String} {args : List Expr} {offset : ℕ} {f : TextFunction}
      {texts : List String} :
      R.get? name = some f → f.arity.accepts args.length = true → MeansAll R ctx args texts →
      f.meaning ⟨texts⟩ = .ok text → Means R ctx (.call name args offset) text
  | failed {name : String} {args : List Expr} {offset : ℕ} {f : TextFunction}
      {texts : List String} {s : Sentinel} :
      R.get? name = some f → f.arity.accepts args.length = true → MeansAll R ctx args texts →
      f.meaning ⟨texts⟩ = .error s → Means R ctx (.call name args offset) s.marker
  | concat {parts : List Expr} {texts : List String} :
      MeansAll R ctx parts texts → Means R ctx (.concat parts) (String.join texts)

/-- The trees stand for the texts, one each. -/
inductive MeansAll (R : Registry) (ctx : Context) : List Expr → List String → Prop
  | nil : MeansAll R ctx [] []
  | cons {e : Expr} {es : List Expr} {text : String} {texts : List String} :
      Means R ctx e text → MeansAll R ctx es texts → MeansAll R ctx (e :: es) (text :: texts)

end

variable {R : Registry} {ctx : Context}

mutual

/-- A resolved tree evaluates to the text that the tree stands for, and to no other. -/
theorem means_iff_of_lower : ∀ (e : Expr) {r : Stage × List Diagnostic}, lower R e = .ok r →
    ∀ {text : String}, Means R ctx e text ↔ r.1.renderWith Sentinel.marker ctx = text
  | .literal t, r, h, text => by
      cases h
      rw [Stage.renderWith]
      constructor
      · intro hm
        cases hm
        rfl
      · rintro rfl
        exact .literal
  | .argRef index, r, h, text => by
      cases h
      rw [Stage.renderWith]
      constructor
      · intro hm
        cases hm with
        | value hv => rw [hv, Option.getD_some]
        | missing hv => rw [hv, Option.getD_none]
      · rintro rfl
        cases hv : ctx.get? index with
        | none => exact .missing hv
        | some v => exact .value hv
  | .call name args offset, r, h, text => by
      obtain ⟨f, rs, hf, hrs, rfl⟩ := lower_call_eq_ok_iff.1 h
      have hargs := @meansAll_iff_of_lowerAll args rs hrs
      have hlen : rs.1.length = args.length := length_of_lowerAll hrs
      have hsize : Arguments.size ⟨Stage.renderAllWith Sentinel.marker ctx rs.1⟩ = args.length := by
        rw [Arguments.size, Stage.length_renderAllWith, hlen]
      rw [Stage.renderWith, hlen]
      constructor
      · intro hm
        cases hm with
        | refused hf' hc =>
            cases hf.symm.trans hf'
            rw [if_neg (by simp [hc])]
        | answered hf' hc ha ho =>
            cases hf.symm.trans hf'
            rw [← hargs.1 ha] at ho
            rw [if_pos hc, TextFunction.invokeWith_of_ok (hsize.symm ▸ hc) ho]
        | failed hf' hc ha ho =>
            cases hf.symm.trans hf'
            rw [← hargs.1 ha] at ho
            rw [if_pos hc, TextFunction.invokeWith_of_error (hsize.symm ▸ hc) ho]
      · rintro rfl
        cases hc : f.arity.accepts args.length with
        | false =>
            rw [if_neg (by simp)]
            exact .refused hf hc
        | true =>
            have hs := hsize.symm ▸ hc
            rw [if_pos rfl]
            cases ho : f.meaning ⟨Stage.renderAllWith Sentinel.marker ctx rs.1⟩ with
            | ok t =>
                rw [TextFunction.invokeWith_of_ok hs ho]
                exact .answered hf hc (hargs.2 rfl) ho
            | error s =>
                rw [TextFunction.invokeWith_of_error hs ho]
                exact .failed hf hc (hargs.2 rfl) ho
  | .concat parts, r, h, text => by
      obtain ⟨rs, hrs, rfl⟩ := lower_concat_eq_ok_iff.1 h
      have hparts := @meansAll_iff_of_lowerAll parts rs hrs
      rw [Stage.renderWith]
      constructor
      · intro hm
        cases hm with
        | concat ha => rw [hparts.1 ha]
      · rintro rfl
        exact .concat (hparts.2 rfl)

theorem meansAll_iff_of_lowerAll : ∀ (es : List Expr) {r : List Stage × List Diagnostic},
    lowerAll R es = .ok r → ∀ {texts : List String},
      MeansAll R ctx es texts ↔ Stage.renderAllWith Sentinel.marker ctx r.1 = texts
  | [], r, h, texts => by
      cases h
      constructor
      · intro hm
        cases hm
        rfl
      · rintro rfl
        exact .nil
  | e :: es, r, h, texts => by
      obtain ⟨s, rs, hs, hrs, rfl⟩ := lowerAll_cons_eq_ok_iff.1 h
      have he := @means_iff_of_lower e s hs
      have hes := @meansAll_iff_of_lowerAll es rs hrs
      rw [Stage.renderAllWith]
      constructor
      · intro hm
        cases hm with
        | cons hm hms => rw [he.1 hm, hes.1 hms]
      · rintro rfl
        exact .cons (he.2 rfl) (hes.2 rfl)

end

/-! ### Names that are not registered -/

def firstUnknown? (R : Registry) (sites : List Expr.CallSite) : Option Expr.CallSite :=
  sites.find? fun site => !R.contains site.name

theorem firstUnknown?_append (R : Registry) (sites sites' : List Expr.CallSite) :
    firstUnknown? R (sites ++ sites') = (firstUnknown? R sites).or (firstUnknown? R sites') :=
  List.find?_append

theorem firstUnknown?_eq_none_iff {sites : List Expr.CallSite} :
    firstUnknown? R sites = none ↔ ∀ site ∈ sites, R.contains site.name = true := by
  simp [firstUnknown?]

/-- The error for a call whose name is not registered. -/
def unknownCall (site : Expr.CallSite) : CompileError := .unknownFunction site.name site.offset

theorem contains_eq_isSome (R : Registry) (name : String) :
    R.contains name = (R.get? name).isSome := rfl

mutual

/-- Resolving names fails exactly at the first one that is not registered. -/
theorem lower_eq_error_iff : ∀ (e : Expr) {err : CompileError},
    lower R e = .error err ↔ (firstUnknown? R e.calls).map unknownCall = some err
  | .literal _, err => by simp [lower, Expr.calls, firstUnknown?]
  | .argRef _, err => by simp [lower, Expr.calls, firstUnknown?]
  | .call name args offset, err => by
      have hargs := @lowerAll_eq_error_iff args err
      rw [lower, Expr.calls, firstUnknown?, List.find?_cons, contains_eq_isSome]
      cases R.get? name with
      | none => simp [unknownCall]
      | some f =>
          show _ ↔ (firstUnknown? R (Expr.callsAll args)).map unknownCall = some err
          rw [← hargs]
          cases lowerAll R args <;> simp
  | .concat parts, err => by
      have hparts := @lowerAll_eq_error_iff parts err
      rw [lower, Expr.calls, ← hparts]
      cases lowerAll R parts <;> simp

theorem lowerAll_eq_error_iff : ∀ (es : List Expr) {err : CompileError},
    lowerAll R es = .error err ↔ (firstUnknown? R (Expr.callsAll es)).map unknownCall = some err
  | [], err => by simp [lowerAll, Expr.callsAll, firstUnknown?]
  | e :: es, err => by
      have he := fun err => @lower_eq_error_iff e err
      have hes := @lowerAll_eq_error_iff es err
      rw [lowerAll, Expr.callsAll, firstUnknown?_append]
      cases hl : lower R e with
      | error err' =>
          obtain ⟨site, hsite, rfl⟩ := Option.map_eq_some_iff.1 ((he err').1 hl)
          simp [hsite]
      | ok s =>
          have hnone : firstUnknown? R e.calls = none := by
            cases hsite : firstUnknown? R e.calls with
            | none => rfl
            | some site =>
                have herr := (he (unknownCall site)).2 (by rw [hsite, Option.map_some])
                rw [hl] at herr
                cases herr
          rw [hnone, Option.none_or, ← hes]
          cases lowerAll R es <;> simp

end

/-- Names can be resolved exactly if all are registered. -/
theorem exists_lowerAll_iff {es : List Expr} :
    (∃ r, lowerAll R es = .ok r) ↔ ∀ site ∈ Expr.callsAll es, R.contains site.name = true := by
  rw [← firstUnknown?_eq_none_iff]
  have herror := fun err => @lowerAll_eq_error_iff R es err
  cases hr : lowerAll R es with
  | ok r =>
      refine ⟨fun _ => ?_, fun _ => ⟨r, rfl⟩⟩
      cases hs : firstUnknown? R (Expr.callsAll es) with
      | none => rfl
      | some site =>
          have herr := (herror (unknownCall site)).2 (by rw [hs, Option.map_some])
          rw [hr] at herr
          cases herr
  | error err =>
      have hsome := (herror err).1 hr
      constructor
      · rintro ⟨r, h⟩
        cases h
      · intro hnone
        rw [hnone] at hsome
        cases hsome

/-! ### Diagnostics -/

/-- What is reported of a call: a number of arguments that its function does not take. -/
def diagnostic? (R : Registry) (site : Expr.CallSite) : Option Diagnostic :=
  (R.get? site.name).bind fun f =>
    if f.arity.accepts site.argCount then none
    else some ⟨site.offset, site.name, f.arity, site.argCount⟩

mutual

/-- The diagnostics of a tree are those of its calls, in order. -/
theorem diagnostics_of_lower : ∀ (e : Expr) {r : Stage × List Diagnostic}, lower R e = .ok r →
    r.2 = e.calls.filterMap (diagnostic? R)
  | .literal _, r, h => by
      cases h
      rfl
  | .argRef _, r, h => by
      cases h
      rfl
  | .call name args offset, r, h => by
      obtain ⟨f, rs, hf, hrs, rfl⟩ := lower_call_eq_ok_iff.1 h
      have hargs := diagnostics_of_lowerAll args hrs
      rw [Expr.calls, List.filterMap_cons, ← hargs]
      simp only [diagnostic?, hf, Option.bind_some]
      cases f.arity.accepts args.length <;> rfl
  | .concat parts, r, h => by
      obtain ⟨rs, hrs, rfl⟩ := lower_concat_eq_ok_iff.1 h
      exact diagnostics_of_lowerAll parts hrs

theorem diagnostics_of_lowerAll : ∀ (es : List Expr) {r : List Stage × List Diagnostic},
    lowerAll R es = .ok r → r.2 = (Expr.callsAll es).filterMap (diagnostic? R)
  | [], r, h => by
      cases h
      rfl
  | e :: es, r, h => by
      obtain ⟨s, rs, hs, hrs, rfl⟩ := lowerAll_cons_eq_ok_iff.1 h
      rw [Expr.callsAll, List.filterMap_append, ← diagnostics_of_lower e hs,
        ← diagnostics_of_lowerAll es hrs]

end

/-! ### Registries that agree -/

/-- What a template can notice of the function of a name: its arity and its meaning. -/
def signature? (R : Registry) (name : String) :
    Option (Arity × (Arguments → Except Sentinel String)) :=
  (R.get? name).map fun f => (f.arity, f.meaning)

/-- The registries have the same functions for the names that are called. -/
def AgreeOn (R R' : Registry) (sites : List Expr.CallSite) : Prop :=
  ∀ site ∈ sites, signature? R site.name = signature? R' site.name

variable {R' : Registry}

theorem AgreeOn.symm {sites : List Expr.CallSite} (h : AgreeOn R R' sites) : AgreeOn R' R sites :=
  fun site hs => (h site hs).symm

theorem agreeOn_append {sites sites' : List Expr.CallSite} :
    AgreeOn R R' (sites ++ sites') ↔ AgreeOn R R' sites ∧ AgreeOn R R' sites' :=
  List.forall_mem_append

theorem agreeOn_cons {site : Expr.CallSite} {sites : List Expr.CallSite} :
    AgreeOn R R' (site :: sites) ↔
      signature? R site.name = signature? R' site.name ∧ AgreeOn R R' sites :=
  List.forall_mem_cons

theorem contains_eq_isSome_signature (R : Registry) (name : String) :
    R.contains name = (signature? R name).isSome := by
  rw [signature?, Option.isSome_map, contains_eq_isSome]

theorem exists_get?_of_signature {name : String} {f : TextFunction}
    (h : signature? R name = signature? R' name) (hf : R.get? name = some f) :
    ∃ f', R'.get? name = some f' ∧ f'.arity = f.arity ∧ f'.meaning = f.meaning := by
  unfold signature? at h
  rw [hf, Option.map_some, eq_comm, Option.map_eq_some_iff] at h
  obtain ⟨f', hf', he⟩ := h
  exact ⟨f', hf', (Prod.mk.inj he).1, (Prod.mk.inj he).2⟩

theorem firstUnknown?_congr {sites : List Expr.CallSite} (h : AgreeOn R R' sites) :
    firstUnknown? R sites = firstUnknown? R' sites := by
  unfold firstUnknown?
  refine List.find?_congr fun site hs => ?_
  rw [contains_eq_isSome_signature, contains_eq_isSome_signature, h site hs]

theorem diagnostic?_eq_bind_signature (R : Registry) (site : Expr.CallSite) :
    diagnostic? R site = (signature? R site.name).bind fun s =>
      if s.1.accepts site.argCount then none
      else some ⟨site.offset, site.name, s.1, site.argCount⟩ := by
  unfold diagnostic? signature?
  cases R.get? site.name <;> rfl

theorem diagnostics_congr {sites : List Expr.CallSite} (h : AgreeOn R R' sites) :
    sites.filterMap (diagnostic? R) = sites.filterMap (diagnostic? R') := by
  refine List.filterMap_congr fun site hs => ?_
  rw [diagnostic?_eq_bind_signature, diagnostic?_eq_bind_signature, h site hs]

mutual

theorem means_of_agreeOn : ∀ (e : Expr) {text : String}, AgreeOn R R' e.calls →
    Means R ctx e text → Means R' ctx e text
  | .literal _, _, _, h => by
      cases h
      exact .literal
  | .argRef _, _, _, h => by
      cases h with
      | value hv => exact .value hv
      | missing hv => exact .missing hv
  | .call name args offset, text, ha, h => by
      rw [Expr.calls, agreeOn_cons] at ha
      cases h with
      | refused hf hc =>
          obtain ⟨f', hf', hr, -⟩ := exists_get?_of_signature ha.1 hf
          exact .refused hf' (hr ▸ hc)
      | answered hf hc hm ho =>
          obtain ⟨f', hf', hr, hmean⟩ := exists_get?_of_signature ha.1 hf
          exact .answered hf' (hr ▸ hc) (meansAll_of_agreeOn args ha.2 hm) (hmean ▸ ho)
      | failed hf hc hm ho =>
          obtain ⟨f', hf', hr, hmean⟩ := exists_get?_of_signature ha.1 hf
          exact .failed hf' (hr ▸ hc) (meansAll_of_agreeOn args ha.2 hm) (hmean ▸ ho)
  | .concat parts, text, ha, h => by
      cases h with
      | concat hm => exact .concat (meansAll_of_agreeOn parts ha hm)

theorem meansAll_of_agreeOn : ∀ (es : List Expr) {texts : List String},
    AgreeOn R R' (Expr.callsAll es) → MeansAll R ctx es texts → MeansAll R' ctx es texts
  | [], _, _, h => by
      cases h
      exact .nil
  | e :: es, _, ha, h => by
      rw [Expr.callsAll, agreeOn_append] at ha
      cases h with
      | cons hm hms => exact .cons (means_of_agreeOn e ha.1 hm) (meansAll_of_agreeOn es ha.2 hms)

end

/-- Registries that agree on the names that are called give the same meanings. -/
theorem meansAll_congr {es : List Expr} {texts : List String}
    (h : AgreeOn R R' (Expr.callsAll es)) : MeansAll R ctx es texts ↔ MeansAll R' ctx es texts :=
  ⟨meansAll_of_agreeOn es h, meansAll_of_agreeOn es h.symm⟩

/-! ### Compiled templates -/

variable {limits : Limits} {template : String} {nodes : List Expr} {k : Compiled}

theorem compile_eq_error_iff (hp : parse limits template = .ok nodes) {err : CompileError} :
    Compiler.compile ⟨R, limits⟩ template = .error err ↔
      (firstUnknown? R (Expr.callsAll nodes)).map unknownCall = some err := by
  rw [← lowerAll_eq_error_iff]
  unfold Compiler.compile
  rw [hp]
  dsimp only
  cases lowerAll R nodes <;> simp

theorem exists_compile_iff_registered (hp : parse limits template = .ok nodes) :
    (∃ k, Compiler.compile ⟨R, limits⟩ template = .ok k) ↔
      ∀ site ∈ Expr.callsAll nodes, R.contains site.name = true := by
  rw [← exists_lowerAll_iff]
  constructor
  · rintro ⟨k, hk⟩
    obtain ⟨ks, r, hks, hr, -⟩ := compile_eq_ok_iff.1 hk
    cases hp.symm.trans hks
    exact ⟨r, hr⟩
  · rintro ⟨r, hr⟩
    exact ⟨_, compile_eq_ok_iff.2 ⟨nodes, r, hp, hr, rfl⟩⟩

/-- The diagnostics of a compiled template are those of its calls. -/
theorem diagnostics_of_compile (hp : parse limits template = .ok nodes)
    (hk : Compiler.compile ⟨R, limits⟩ template = .ok k) :
    k.diagnostics = (Expr.callsAll nodes).filterMap (diagnostic? R) := by
  obtain ⟨ks, r, hks, hr, rfl⟩ := compile_eq_ok_iff.1 hk
  cases hp.symm.trans hks
  exact diagnostics_of_lowerAll nodes hr

/-- The key of a compiled template is what its nodes mean, side by side. -/
theorem evaluate_eq_iff (hp : parse limits template = .ok nodes)
    (hk : Compiler.compile ⟨R, limits⟩ template = .ok k) {key : String} :
    k.evaluate ctx = key ↔ ∃ texts, MeansAll R ctx nodes texts ∧ String.join texts = key := by
  obtain ⟨ks, r, hks, hr, rfl⟩ := compile_eq_ok_iff.1 hk
  cases hp.symm.trans hks
  have hm := fun texts => @meansAll_iff_of_lowerAll R ctx nodes r hr texts
  constructor
  · intro h
    exact ⟨_, (hm _).2 rfl, h⟩
  · rintro ⟨texts, ht, rfl⟩
    rw [← (hm texts).1 ht]
    rfl

/-- A template whose names are all registered compiles, and its key for any context is what its
nodes mean, side by side.  Registries that agree on these names give the same result: the same
error, or the same diagnostics and the same keys. -/
theorem compile_means (hp : parse limits template = .ok nodes) :
    ((∀ site ∈ Expr.callsAll nodes, R.contains site.name = true) →
      ∃ k, Compiler.compile ⟨R, limits⟩ template = .ok k ∧
        ∀ ctx key, k.evaluate ctx = key ↔
          ∃ texts, MeansAll R ctx nodes texts ∧ String.join texts = key) ∧
    ∀ R' : Registry, AgreeOn R R' (Expr.callsAll nodes) →
      (Compiler.compile ⟨R, limits⟩ template).map Compiled.diagnostics =
        (Compiler.compile ⟨R', limits⟩ template).map Compiled.diagnostics ∧
      ∀ ctx, (Compiler.compile ⟨R, limits⟩ template).map (·.evaluate ctx) =
        (Compiler.compile ⟨R', limits⟩ template).map (·.evaluate ctx) := by
  constructor
  · intro hreg
    obtain ⟨k, hk⟩ := (exists_compile_iff_registered hp).2 hreg
    exact ⟨k, hk, fun ctx key => evaluate_eq_iff hp hk⟩
  · intro R' ha
    cases hk : Compiler.compile ⟨R, limits⟩ template with
    | error err =>
        have hk' : Compiler.compile ⟨R', limits⟩ template = .error err := by
          rw [compile_eq_error_iff hp, ← firstUnknown?_congr ha, ← compile_eq_error_iff hp, hk]
        rw [hk']
        exact ⟨rfl, fun _ => rfl⟩
    | ok k =>
        obtain ⟨k', hk'⟩ := (exists_compile_iff_registered hp).2 fun site hs => by
          rw [contains_eq_isSome_signature, ← ha site hs, ← contains_eq_isSome_signature]
          exact (exists_compile_iff_registered hp).1 ⟨k, hk⟩ site hs
        rw [hk']
        constructor
        · show Except.ok k.diagnostics = Except.ok k'.diagnostics
          rw [diagnostics_of_compile hp hk, diagnostics_of_compile hp hk', diagnostics_congr ha]
        · intro ctx
          show Except.ok (k.evaluate ctx) = Except.ok (k'.evaluate ctx)
          obtain ⟨texts, ht, hj⟩ := (evaluate_eq_iff hp hk).1 rfl
          rw [(evaluate_eq_iff hp hk').2 ⟨texts, (meansAll_congr ha).1 ht, hj⟩]

theorem compile_means_beside_replaced_function :
    parse Limits.standard "x\x7blower \x7b0\x7d\x7d" =
      .ok [.literal "x", .call "lower" [.argRef 0] 2] ∧
    (∃ k,
      Compiler.compile ⟨Registry.builtin, Limits.standard⟩ "x\x7blower \x7b0\x7d\x7d" = .ok k ∧
      ∀ ctx key, k.evaluate ctx = key ↔ ∃ texts,
        MeansAll Registry.builtin ctx [.literal "x", .call "lower" [.argRef 0] 2] texts ∧
          String.join texts = key) ∧
    ∀ ctx,
      (Compiler.compile ⟨Registry.builtin, Limits.standard⟩ "x\x7blower \x7b0\x7d\x7d").map
          (·.evaluate ctx) =
        (Compiler.compile ⟨Registry.builtin.register ⟨"upper", .exactly 2, "", fun _ => .ok ""⟩,
          Limits.standard⟩ "x\x7blower \x7b0\x7d\x7d").map (·.evaluate ctx) := by
  have hp : parse Limits.standard "x\x7blower \x7b0\x7d\x7d" =
      .ok [.literal "x", .call "lower" [.argRef 0] 2] := by
    decide +kernel
  have hl : Registry.builtin.get? "lower" = some Builtin.lower := Registry.get?_builtin "lower"
  have hreg : ∀ site ∈ Expr.callsAll [.literal "x", .call "lower" [.argRef 0] 2],
      Registry.builtin.contains site.name = true := by
    simp [Expr.callsAll, Expr.calls, contains_eq_isSome, hl]
  have ha : AgreeOn Registry.builtin
      (Registry.builtin.register ⟨"upper", .exactly 2, "", fun _ => .ok ""⟩)
      (Expr.callsAll [.literal "x", .call "lower" [.argRef 0] 2]) := by
    simp [AgreeOn, Expr.callsAll, Expr.calls, signature?, Registry.get?_register]
  exact ⟨hp, (compile_means hp).1 hreg, ((compile_means hp).2 _ ha).2⟩

end CacheKeys.Template
