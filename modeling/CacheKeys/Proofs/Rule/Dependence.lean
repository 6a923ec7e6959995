import Mathlib
import CacheKeys.Rule.Basic
import CacheKeys.Proofs.Builtin.Functions
import CacheKeys.Proofs.Template.Behaviour

/-! # What a key depends on

`Stage.indices` lists the context indices that stand anywhere in a stage, those in the arguments of
refused calls included.  Nothing else of a context can be noticed (`renderWith_congr`), and the
index that a compiled template reports is the greatest of them (`maxArgIndex_eq_max?`).  A rule
reads a request through its inputs only, so its keys depend on the inputs at these positions:
`evaluate_depends_on_indices`. -/

namespace CacheKeys.Template

/-! ### The indices of a stage -/

namespace Stage

mutual

/-- The context indices in a stage, from left to right. -/
def indices : Stage → List ℕ
  | .literal _ => []
  | .argRef index => [index]
  | .call _ args => indicesAll args
  | .concat parts => indicesAll parts

/-- The context indices in stages, from left to right. -/
def indicesAll : List Stage → List ℕ
  | [] => []
  | s :: ss => s.indices ++ indicesAll ss

end

theorem max?_append (is js : List ℕ) : (is ++ js).max? = maxIndex is.max? js.max? := by
  induction is with
  | nil => rfl
  | cons i is ih =>
      rw [List.cons_append, List.max?_cons, List.max?_cons, ih]
      cases is.max? <;> cases js.max? <;> simp [maxIndex, Nat.max_assoc]

mutual

/-- The greatest index that is reported is the greatest one that stands in the stage. -/
theorem maxArgIndex_eq_max? : ∀ s : Stage, s.maxArgIndex = s.indices.max?
  | .literal _ => rfl
  | .argRef _ => rfl
  | .call _ args => maxArgIndexAll_eq_max? args
  | .concat parts => maxArgIndexAll_eq_max? parts

theorem maxArgIndexAll_eq_max? : ∀ ss : List Stage, maxArgIndexAll ss = (indicesAll ss).max?
  | [] => rfl
  | s :: ss => by
      have hs := maxArgIndex_eq_max? s
      have hss := maxArgIndexAll_eq_max? ss
      rw [maxArgIndexAll, indicesAll, max?_append, hs, hss]

end

/-! ### Contexts that agree -/

/-- The contexts have the same values, or none, at the indices. -/
def AgreeAt (is : List ℕ) (ctx ctx' : Context) : Prop := ∀ i ∈ is, ctx.get? i = ctx'.get? i

variable (marker : Sentinel → String) {ctx ctx' : Context}

mutual

/-- A stage notices nothing of a context but the values at its indices. -/
theorem renderWith_congr : ∀ s : Stage, AgreeAt s.indices ctx ctx' →
    s.renderWith marker ctx = s.renderWith marker ctx'
  | .literal _, _ => rfl
  | .argRef index, h => by
      have hi : ctx.get? index = ctx'.get? index := h index (List.mem_singleton_self index)
      rw [renderWith, renderWith, hi]
  | .call f args, h => by
      have hargs := renderAllWith_congr args h
      rw [renderWith, renderWith, hargs]
  | .concat parts, h => by
      have hparts := renderAllWith_congr parts h
      rw [renderWith, renderWith, hparts]

theorem renderAllWith_congr : ∀ ss : List Stage, AgreeAt (indicesAll ss) ctx ctx' →
    renderAllWith marker ctx ss = renderAllWith marker ctx' ss
  | [], _ => rfl
  | s :: ss, h => by
      obtain ⟨hs, hss⟩ := List.forall_mem_append.1 h
      rw [renderAllWith, renderAllWith, renderWith_congr s hs, renderAllWith_congr ss hss]

end

end Stage

/-! ### Compiled templates -/

namespace Compiled

/-- The context indices that stand anywhere in a compiled template. -/
def indices (t : Compiled) : List ℕ := Stage.indicesAll t.stages

theorem maxArgIndex_eq_max? (t : Compiled) : t.maxArgIndex = t.indices.max? :=
  Stage.maxArgIndexAll_eq_max? t.stages

theorem evaluate_congr {t : Compiled} {ctx ctx' : Context} (h : Stage.AgreeAt t.indices ctx ctx') :
    t.evaluate ctx = t.evaluate ctx' := by
  have hs := Stage.renderAllWith_congr Sentinel.marker t.stages h
  unfold evaluate evaluateWith
  rw [hs]

end Compiled

end CacheKeys.Template

namespace CacheKeys

/-! ### Rules -/

open Template

theorem Rule.get?_context (r : Rule) (request : Request) (i : ℕ) :
    (r.context request).get? i = (r.inputs[i]?).map fun f => f.resolve request := by
  unfold context Context.get?
  exact List.getElem?_map

/-- Requests whose fields agree give contexts that agree. -/
theorem Rule.agreeAt_context {is : List ℕ} {r : Rule} {request request' : Request}
    (h : ∀ i ∈ is, ∀ f, r.inputs[i]? = some f → f.resolve request = f.resolve request') :
    Stage.AgreeAt is (r.context request) (r.context request') := by
  intro i hi
  rw [get?_context, get?_context]
  cases hf : r.inputs[i]? with
  | none => rfl
  | some f =>
      have hr := h i hi f hf
      rw [Option.map_some, Option.map_some, hr]

/-- The key for a context depends on the values at the indices that stand in the template, of which
`maxArgIndex` is the greatest; so contexts may go on behind it as they like, and without an index
all contexts give one key.  The key of a rule depends on the inputs at these indices in the same
way. -/
theorem Template.Compiled.evaluate_depends_on_indices (t : Compiled) :
    (∀ ctx ctx' : Context, (∀ i ∈ t.indices, ctx.get? i = ctx'.get? i) →
      t.evaluate ctx = t.evaluate ctx') ∧
    (∀ m, t.maxArgIndex = some m ↔ m ∈ t.indices ∧ ∀ i ∈ t.indices, i ≤ m) ∧
    (t.maxArgIndex = none ↔ t.indices = []) ∧
    (∀ m, t.maxArgIndex = some m → ∀ ctx ctx' : Context,
      (∀ i ≤ m, ctx.get? i = ctx'.get? i) → t.evaluate ctx = t.evaluate ctx') ∧
    (t.maxArgIndex = none → ∀ ctx ctx' : Context, t.evaluate ctx = t.evaluate ctx') ∧
    ∀ (name : String) (inputs : List Field) (request request' : Request),
      (∀ i ∈ t.indices, ∀ f, inputs[i]? = some f → f.resolve request = f.resolve request') →
      (Rule.derive ⟨name, t, inputs⟩ request).key =
        (Rule.derive ⟨name, t, inputs⟩ request').key := by
  have hmax : ∀ m, t.maxArgIndex = some m ↔ m ∈ t.indices ∧ ∀ i ∈ t.indices, i ≤ m := by
    intro m
    rw [t.maxArgIndex_eq_max?, List.max?_eq_some_iff]
  have hnone : t.maxArgIndex = none ↔ t.indices = [] := by
    rw [t.maxArgIndex_eq_max?, List.max?_eq_none_iff]
  refine ⟨fun ctx ctx' h => evaluate_congr h, hmax, hnone, ?_, ?_, ?_⟩
  · intro m hm ctx ctx' h
    apply evaluate_congr
    intro i hi
    have hle : i ≤ m := ((hmax m).1 hm).2 i hi
    exact h i hle
  · intro hm ctx ctx'
    apply evaluate_congr
    intro i hi
    rw [hnone.1 hm] at hi
    exact absurd hi List.not_mem_nil
  · intro name inputs request request' h
    have ha := Rule.agreeAt_context (r := ⟨name, t, inputs⟩) h
    exact evaluate_congr ha

theorem Template.Compiled.evaluate_depends_on_refused_index :
    ∃ t, Compiler.standard.compile "\x7b0\x7d:\x7blower \x7bselect \x7b2\x7d\x7d\x7d" = .ok t ∧
      t.indices = [0, 2] ∧ t.maxArgIndex = some 2 ∧
      t.evaluate ⟨["a", "x", "c"]⟩ = t.evaluate ⟨["a", "y", "c", "z"]⟩ ∧
      t.evaluate ⟨["a", "x", "c"]⟩ = t.evaluate ⟨["a", "x", "c", "z"]⟩ ∧
      (Rule.derive ⟨"r", t, [.method, .path, .user]⟩ (Request.make "GET" "/a")).key =
        (Rule.derive ⟨"r", t, [.method, .path, .user]⟩ (Request.make "GET" "/b")).key ∧
      Compiled.evaluate ⟨"x", [.literal "x"], []⟩ ⟨["a"]⟩ =
        Compiled.evaluate ⟨"x", [.literal "x"], []⟩ ⟨[]⟩ := by
  have hp : parse Limits.standard "\x7b0\x7d:\x7blower \x7bselect \x7b2\x7d\x7d\x7d" =
      .ok [.argRef 0, .literal ":", .call "lower" [.call "select" [.argRef 2] 12] 5] := by
    decide +kernel
  have hl : Registry.builtin.get? "lower" = some Builtin.lower := Registry.get?_builtin "lower"
  have hs : Registry.builtin.get? "select" = some Builtin.select := Registry.get?_builtin "select"
  have hr : lowerAll Registry.builtin
      [.argRef 0, .literal ":", .call "lower" [.call "select" [.argRef 2] 12] 5] =
      .ok ([.argRef 0, .literal ":", .call Builtin.lower [.call Builtin.select [.argRef 2]]],
        [⟨12, "select", .exactly 2, 1⟩]) := by
    simp [lowerAll, lower, hl, hs, Builtin.lower, Builtin.select, Arity.accepts, Arity.exactly]
  have ht : Compiler.standard.compile "\x7b0\x7d:\x7blower \x7bselect \x7b2\x7d\x7d\x7d" = .ok _ :=
    compile_eq_ok_iff.2 ⟨_, _, hp, hr, rfl⟩
  obtain ⟨hcongr, -, -, hupto, -, hrule⟩ := Compiled.evaluate_depends_on_indices
    ⟨"\x7b0\x7d:\x7blower \x7bselect \x7b2\x7d\x7d\x7d",
      [.argRef 0, .literal ":", .call Builtin.lower [.call Builtin.select [.argRef 2]]],
      [⟨12, "select", .exactly 2, 1⟩]⟩
  have hmem : ∀ i ∈ [0, 2], i = 0 ∨ i = 2 := by simp
  refine ⟨_, ht, rfl, rfl, hcongr _ _ ?_, hupto 2 rfl _ _ ?_, hrule "r" _ _ _ ?_, ?_⟩
  · intro i hi
    rcases hmem i hi with rfl | rfl <;> rfl
  · intro i hi
    have hlt : i < 3 := by omega
    unfold Context.get?
    interval_cases i <;> rfl
  · intro i hi f hf
    rcases hmem i hi with rfl | rfl
    · obtain rfl : Field.method = f := Option.some.inj hf
      rfl
    · obtain rfl : Field.user = f := Option.some.inj hf
      rfl
  · exact (Compiled.evaluate_depends_on_indices ⟨"x", [.literal "x"], []⟩).2.2.2.2.1 rfl _ _

end CacheKeys
