import Mathlib
import CacheKeys.Rule.Basic
import CacheKeys.Proofs.Builtin.Functions
import CacheKeys.Proofs.Template.Faults

/-! # What the warnings of a rule tell

A rule has warnings if and only if its template has a fault, at any depth
(`warnings_eq_nil_iff`).  So a rule without warnings never reaches a fault while it derives a key:
evaluation that stops at faults gives the key all the same, and the marker of faults has no part in
it (`deriveWith_of_no_warnings`). -/

namespace CacheKeys

open Template

/-! ### Builtin functions -/

/-- A builtin function refuses arguments only because one of them is no integer. -/
theorem Builtin.keepsArity {f : TextFunction} (h : f ∈ functions) : KeepsArity f := by
  intro args _ he
  simp only [functions, List.mem_cons, List.not_mem_nil, or_false] at h
  rcases h with rfl | rfl | h
  · cases substr_eq_error he
  · cases select_eq_error he
  · rcases h with rfl | rfl | rfl | rfl | rfl | rfl <;> cases he

namespace Rule

/-! ### Rules and their faults -/

/-- A rule of the builtin functions: made from a template and fields, or configured under limits of
any kind. -/
inductive OfBuiltins : Rule → Prop
  | made {name template : String} {inputs : List Field} {r : Rule} :
      make Compiler.standard name template inputs = .ok r → OfBuiltins r
  | configured {limits : Limits} {config : RuleConfig} {r : Rule} :
      ofConfig ⟨Registry.builtin, limits⟩ config = .ok r → OfBuiltins r

theorem make_eq_ok_iff {compiler : Compiler} {name template : String} {inputs : List Field}
    {r : Rule} : make compiler name template inputs = .ok r ↔
      ∃ t, compiler.compile template = .ok t ∧ r = ⟨name, t, inputs⟩ := by
  unfold make
  cases compiler.compile template with
  | error e => simp
  | ok t => simp [eq_comm]

theorem ofConfig_eq_ok_iff {compiler : Compiler} {c : RuleConfig} {r : Rule} :
    ofConfig compiler c = .ok r ↔
      ∃ inputs, c.inputs.mapM Field.parse = .ok inputs ∧
        make compiler c.name c.template inputs = .ok r := by
  unfold ofConfig
  cases c.inputs.mapM Field.parse with
  | error e => simp
  | ok inputs => simp

theorem OfBuiltins.of_lowerAll {template : String} {nodes : List Expr}
    {r : List Stage × List Diagnostic} (hp : parse Limits.standard template = .ok nodes)
    (hl : lowerAll Registry.builtin nodes = .ok r) (name : String) (inputs : List Field) :
    OfBuiltins ⟨name, ⟨template, r.1, r.2⟩, inputs⟩ :=
  .made (make_eq_ok_iff.2 ⟨_, compile_eq_ok_iff.2 ⟨_, _, hp, hl, rfl⟩, rfl⟩)

theorem OfBuiltins.exists_lowerAll {r : Rule} (h : r.OfBuiltins) :
    ∃ nodes, lowerAll Registry.builtin nodes = .ok (r.template.stages, r.template.diagnostics) := by
  have hm : ∀ {limits : Limits} {name template : String} {inputs : List Field},
      make ⟨Registry.builtin, limits⟩ name template inputs = .ok r →
      ∃ nodes, lowerAll Registry.builtin nodes =
        .ok (r.template.stages, r.template.diagnostics) := by
    intro limits name template inputs h
    obtain ⟨t, ht, rfl⟩ := make_eq_ok_iff.1 h
    obtain ⟨nodes, lowered, -, hl, rfl⟩ := compile_eq_ok_iff.1 ht
    exact ⟨nodes, hl⟩
  cases h with
  | made h => exact hm h
  | configured h =>
      obtain ⟨inputs, -, h⟩ := ofConfig_eq_ok_iff.1 h
      exact hm h

/-- What holds of all builtin functions holds of the functions that the rule calls. -/
theorem OfBuiltins.calls {r : Rule} (h : r.OfBuiltins) {P : TextFunction → Prop}
    (hP : ∀ f ∈ Builtin.functions, P f) : ∀ s ∈ r.template.stages, s.Calls P := by
  obtain ⟨nodes, hl⟩ := h.exists_lowerAll
  exact calls_of_lowerAll (fun _ f hf => hP f (Registry.mem_of_get?_builtin hf).1) nodes hl

/-- A fault in the template of a rule. -/
def FaultAt (path : List Passage) (r : Rule) : Prop :=
  ∃ s ∈ r.template.stages, Template.FaultAt r.inputs.length path s

theorem forall_not_faultAt_iff {r : Rule} :
    (∀ path, ¬r.FaultAt path) ↔ ∀ s ∈ r.template.stages, Faultless r.inputs.length s := by
  constructor
  · intro h s hs path hp
    exact h path ⟨s, hs, hp⟩
  · rintro h path ⟨s, hs, hp⟩
    exact h s hs path hp

theorem warnings_eq_nil_iff_index {r : Rule} :
    r.warnings = [] ↔ r.template.diagnostics = [] ∧
      ∀ i ∈ r.template.maxArgIndex, i < r.inputs.length := by
  rw [warnings, List.append_eq_nil_iff, List.map_eq_nil_iff]
  cases r.template.maxArgIndex with
  | none => simp
  | some index => simp

/-- A rule has warnings exactly if its template has a fault. -/
theorem warnings_eq_nil_iff {r : Rule} (h : r.OfBuiltins) :
    r.warnings = [] ↔ ∀ path, ¬r.FaultAt path := by
  obtain ⟨nodes, hl⟩ := h.exists_lowerAll
  rw [warnings_eq_nil_iff_index, forall_not_faultAt_iff]
  exact (lowerAll_faultless_iff nodes hl).symm

/-! ### Rules without warnings -/

theorem size_context (r : Rule) (request : Request) :
    (r.context request).size = r.inputs.length := by
  simp [context, Context.size]

/-- A rule without warnings reaches no fault, whatever the request, so its keys do not depend on the
marker of faults. -/
theorem deriveWith_of_no_warnings {r : Rule} (h : r.OfBuiltins) (hw : r.warnings = [])
    (request : Request) :
    (∀ marker : Sentinel → String,
      r.template.evaluateStrictly (marker .badType) (r.context request) =
        some (r.deriveWith marker request).key) ∧
    ∀ marker marker' : Sentinel → String, marker .badType = marker' .badType →
      r.deriveWith marker request = r.deriveWith marker' request := by
  have hs : ∀ s ∈ r.template.stages, Faultless (r.context request).size s := by
    rw [size_context]
    exact forall_not_faultAt_iff.1 ((warnings_eq_nil_iff h).1 hw)
  have hc : ∀ s ∈ r.template.stages, s.Calls KeepsArity := h.calls fun f => Builtin.keepsArity
  have he : ∀ marker : Sentinel → String,
      r.template.evaluateStrictly (marker .badType) (r.context request) =
        some (r.deriveWith marker request).key := by
    intro marker
    rw [Compiled.evaluateStrictly, renderAllStrictly_eq_some marker _ _ hc hs]
    rfl
  refine ⟨he, fun marker marker' hm => ?_⟩
  have hk : (r.deriveWith marker request).key = (r.deriveWith marker' request).key := by
    rw [← Option.some_inj, ← he marker, ← he marker', hm]
  simp only [deriveWith] at hk ⊢
  rw [hk]

theorem deriveWith_of_no_warnings_nested :
    ∃ r : Rule, r.OfBuiltins ∧ r.warnings = [] ∧
      r.deriveWith (fun s => if s = .argCount then "?" else s.marker) (Request.make "GET" "/a/B") =
        r.derive (Request.make "GET" "/a/B") := by
  have hp : parse Limits.standard "\x7b0\x7d:\x7blower \x7bpath_base \x7b1\x7d\x7d\x7d" =
      .ok [.argRef 0, .literal ":", .call "lower" [.call "path_base" [.argRef 1] 12] 5] := by
    decide +kernel
  have hl : Registry.builtin.get? "lower" = some Builtin.lower := Registry.get?_builtin "lower"
  have hb : Registry.builtin.get? "path_base" = some Builtin.pathBase :=
    Registry.get?_builtin "path_base"
  have hs : lowerAll Registry.builtin
      [.argRef 0, .literal ":", .call "lower" [.call "path_base" [.argRef 1] 12] 5] =
      .ok ([.argRef 0, .literal ":", .call Builtin.lower [.call Builtin.pathBase [.argRef 1]]],
        []) := by
    simp [lowerAll, lower, hl, hb, Builtin.lower, Builtin.pathBase, Arity.accepts, Arity.exactly]
  have hr := OfBuiltins.of_lowerAll hp hs "r" [.method, .path]
  exact ⟨_, hr, rfl, (deriveWith_of_no_warnings hr rfl _).2 _ _ rfl⟩

end Rule

end CacheKeys
