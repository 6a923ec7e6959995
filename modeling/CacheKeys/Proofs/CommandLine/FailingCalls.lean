import Mathlib
import CacheKeys.CommandLine.Templates
import CacheKeys.Proofs.Template.Reference

/-! # Calls that fail

A template that compiles is there three times: as the nodes that were read, as the outline that is
shown of them, and as the stages that are evaluated.  The lists of all their nodes, each before
those below it, go along with each other (`Outline.preorder_ofExpr`, `preorder_lower`).  A call with
a wrong number of arguments is marked in the outline, is reported in a diagnostic, and is cut short
when it is evaluated; `failing_calls_agree` says that these are the same calls. -/

namespace CacheKeys.Template

/-! ### Nodes and stages, from the root -/

mutual

/-- The nodes of a tree, a node before those below it. -/
def Expr.preorder : Expr → List Expr
  | .literal text => [.literal text]
  | .argRef index => [.argRef index]
  | .call name args offset => .call name args offset :: preorderAll args
  | .concat parts => .concat parts :: preorderAll parts

/-- The nodes of trees, from left to right. -/
def preorderAll : List Expr → List Expr
  | [] => []
  | e :: es => e.preorder ++ preorderAll es

end

mutual

/-- The stages in a stage, a stage before those below it. -/
def Stage.preorder : Stage → List Stage
  | .literal text => [.literal text]
  | .argRef index => [.argRef index]
  | .call f args => .call f args :: stagePreorderAll args
  | .concat parts => .concat parts :: stagePreorderAll parts

def stagePreorderAll : List Stage → List Stage
  | [] => []
  | s :: ss => s.preorder ++ stagePreorderAll ss

end

variable {R : Registry}

mutual

theorem length_preorder : ∀ e : Expr, e.preorder.length = e.nodeCount
  | .literal _ => rfl
  | .argRef _ => rfl
  | .call _ args _ => by
      rw [Expr.preorder, List.length_cons, length_preorderAll args, Expr.nodeCount, Nat.add_comm]
  | .concat parts => by
      rw [Expr.preorder, List.length_cons, length_preorderAll parts, Expr.nodeCount, Nat.add_comm]

theorem length_preorderAll : ∀ es : List Expr, (preorderAll es).length = Expr.nodeCountAll es
  | [] => rfl
  | e :: es => by
      rw [preorderAll, List.length_append, length_preorder e, length_preorderAll es,
        Expr.nodeCountAll]

end

/-- The stage is what the names of the node are resolved to. -/
def LowersTo (R : Registry) (e : Expr) (s : Stage) : Prop :=
  ∃ diagnostics, lower R e = .ok (s, diagnostics)

mutual

/-- A tree is resolved node by node. -/
theorem preorder_lower : ∀ (e : Expr) {r : Stage × List Diagnostic},
    lower R e = .ok r → List.Forall₂ (LowersTo R) e.preorder r.1.preorder
  | .literal text, r, h => by
      have hroot : LowersTo R (.literal text) r.1 := ⟨r.2, h⟩
      cases h
      exact .cons hroot .nil
  | .argRef index, r, h => by
      have hroot : LowersTo R (.argRef index) r.1 := ⟨r.2, h⟩
      cases h
      exact .cons hroot .nil
  | .call name args offset, r, h => by
      have hroot : LowersTo R (.call name args offset) r.1 := ⟨r.2, h⟩
      obtain ⟨f, rs, -, hrs, rfl⟩ := lower_call_eq_ok_iff.1 h
      exact .cons hroot (preorderAll_lowerAll args hrs)
  | .concat parts, r, h => by
      have hroot : LowersTo R (.concat parts) r.1 := ⟨r.2, h⟩
      obtain ⟨rs, hrs, rfl⟩ := lower_concat_eq_ok_iff.1 h
      exact .cons hroot (preorderAll_lowerAll parts hrs)

theorem preorderAll_lowerAll : ∀ (es : List Expr) {r : List Stage × List Diagnostic},
    lowerAll R es = .ok r → List.Forall₂ (LowersTo R) (preorderAll es) (stagePreorderAll r.1)
  | [], r, h => by
      cases h
      exact .nil
  | e :: es, r, h => by
      obtain ⟨s, rs, hs, hrs, rfl⟩ := lowerAll_cons_eq_ok_iff.1 h
      exact List.rel_append (preorder_lower e hs) (preorderAll_lowerAll es hrs)

end

/-! ### Diagnostics of nodes -/

def Expr.rootSite? : Expr → Option CallSite
  | .call name args offset => some ⟨name, offset, args.length⟩
  | _ => none

/-- What is reported of the root of a tree. -/
def rootDiagnostic? (R : Registry) (e : Expr) : Option Diagnostic :=
  e.rootSite?.bind (diagnostic? R)

/-- The diagnostic speaks of the call at the root of the tree. -/
def Diagnostic.IsOf (R : Registry) (d : Diagnostic) (e : Expr) : Prop :=
  ∃ name args offset f, e = .call name args offset ∧ R.get? name = some f ∧
    d = ⟨offset, name, f.arity, args.length⟩

theorem rootDiagnostic?_eq_some_iff {e : Expr} {d : Diagnostic} :
    rootDiagnostic? R e = some d ↔ ∃ name args offset f, e = .call name args offset ∧
      R.get? name = some f ∧ f.arity.accepts args.length = false ∧
      d = ⟨offset, name, f.arity, args.length⟩ := by
  constructor
  · intro h
    obtain ⟨site, hsite, hd⟩ := Option.bind_eq_some_iff.1 h
    obtain ⟨f, hf, hfd⟩ := Option.bind_eq_some_iff.1 hd
    cases e with
    | call name args offset =>
        cases hsite
        cases ha : f.arity.accepts args.length with
        | true => simp [ha] at hfd
        | false =>
            simp only [ha, Bool.false_eq_true, if_false, Option.some.injEq] at hfd
            exact ⟨name, args, offset, f, rfl, hf, ha, hfd.symm⟩
    | literal text => cases hsite
    | argRef index => cases hsite
    | concat parts => cases hsite
  · rintro ⟨name, args, offset, f, rfl, hf, ha, rfl⟩
    simp [rootDiagnostic?, Expr.rootSite?, diagnostic?, hf, ha]

/-- A call whose name is registered is reported exactly if its function does not take so many
arguments. -/
theorem exists_rootDiagnostic?_call_iff {name : String} {args : List Expr} {offset : ℕ}
    {f : TextFunction} (hf : R.get? name = some f) :
    (∃ d, rootDiagnostic? R (.call name args offset) = some d) ↔
      f.arity.accepts args.length = false := by
  constructor
  · rintro ⟨d, hd⟩
    obtain ⟨_, _, _, f', he, hf', ha, -⟩ := rootDiagnostic?_eq_some_iff.1 hd
    cases he
    cases hf.symm.trans hf'
    exact ha
  · intro ha
    exact ⟨_, rootDiagnostic?_eq_some_iff.2 ⟨name, args, offset, f, rfl, hf, ha, rfl⟩⟩

theorem not_exists_rootDiagnostic? {e : Expr} (h : e.rootSite? = none) :
    ¬∃ d, rootDiagnostic? R e = some d := by
  rintro ⟨d, hd⟩
  rw [rootDiagnostic?, h] at hd
  cases hd

mutual

theorem calls_eq_filterMap : ∀ e : Expr, e.calls = e.preorder.filterMap Expr.rootSite?
  | .literal _ => rfl
  | .argRef _ => rfl
  | .call _ args _ => by
      rw [Expr.calls, Expr.preorder, callsAll_eq_filterMap args, List.filterMap_cons]
      rfl
  | .concat parts => by
      rw [Expr.calls, Expr.preorder, callsAll_eq_filterMap parts, List.filterMap_cons]
      rfl

theorem callsAll_eq_filterMap : ∀ es : List Expr,
    Expr.callsAll es = (preorderAll es).filterMap Expr.rootSite?
  | [] => rfl
  | e :: es => by
      rw [Expr.callsAll, preorderAll, calls_eq_filterMap e, callsAll_eq_filterMap es,
        List.filterMap_append]

end

theorem diagnostics_eq_filterMap {es : List Expr} {r : List Stage × List Diagnostic}
    (h : lowerAll R es = .ok r) : r.2 = (preorderAll es).filterMap (rootDiagnostic? R) := by
  rw [diagnostics_of_lowerAll es h, callsAll_eq_filterMap, List.filterMap_filterMap]
  rfl

/-! ### Calls that are cut short -/

/-- A call has the marker of wrong argument counts for its text, without asking for the texts of its
arguments or for the value of its function. -/
def Stage.CutShort (ctx : Context) : Stage → Prop
  | .call f args => ∀ (marker : Sentinel → String) (meaning : Arguments → Except Sentinel String)
      (others : List Stage), others.length = args.length →
      (Stage.call { f with meaning := meaning } others).renderWith marker ctx = marker .argCount
  | _ => False

theorem cutShort_call_iff {ctx : Context} {f : TextFunction} {args : List Stage} :
    (Stage.call f args).CutShort ctx ↔ f.arity.accepts args.length = false := by
  constructor
  · intro h
    by_contra hne
    have ha : f.arity.accepts args.length = true := by simpa using hne
    have hvalues : f.arity.accepts
        (Stage.renderAllWith (fun _ => "") ctx args).length = true := by
      rwa [Stage.length_renderAllWith]
    -- with a good number of arguments a function that is always "x" shows
    have hx := h (fun _ => "") (fun _ => .ok "x") args rfl
    simp [Stage.renderWith, TextFunction.invokeWith, Arguments.size, ha, hvalues] at hx
  · intro ha marker meaning others hl
    rw [← hl] at ha
    simp [Stage.renderWith, ha]

/-- The calls that are reported are those that are cut short, in every context. -/
theorem cutShort_iff {ctx : Context} {e : Expr} {s : Stage} (h : LowersTo R e s) :
    s.CutShort ctx ↔ ∃ d, rootDiagnostic? R e = some d := by
  obtain ⟨diagnostics, h⟩ := h
  cases e with
  | literal text =>
      cases h
      exact iff_of_false id (not_exists_rootDiagnostic? rfl)
  | argRef index =>
      cases h
      exact iff_of_false id (not_exists_rootDiagnostic? rfl)
  | concat parts =>
      obtain ⟨rs, -, hr⟩ := lower_concat_eq_ok_iff.1 h
      cases hr
      exact iff_of_false id (not_exists_rootDiagnostic? rfl)
  | call name args offset =>
      obtain ⟨f, rs, hf, hrs, hr⟩ := lower_call_eq_ok_iff.1 h
      cases hr
      rw [cutShort_call_iff, length_of_lowerAll hrs, exists_rootDiagnostic?_call_iff hf]

end CacheKeys.Template

namespace CacheKeys.CommandLine

open Template

variable {R : Registry}

namespace Outline

/-! ### Outlines -/

mutual

/-- The nodes of an outline, a node before those below it. -/
def preorder : Outline → List Outline
  | literal text => [literal text]
  | arg index => [arg index]
  | call name note children => call name note children :: preorderAll children
  | concat children => concat children :: preorderAll children

/-- The nodes of outlines, from left to right. -/
def preorderAll : List Outline → List Outline
  | [] => []
  | o :: os => o.preorder ++ preorderAll os

end

mutual

/-- The outline of a tree has the outlines of its nodes. -/
theorem preorder_ofExpr : ∀ e : Expr, (ofExpr R e).preorder = e.preorder.map (ofExpr R)
  | .literal _ => by simp [ofExpr, preorder, Expr.preorder]
  | .argRef _ => by simp [ofExpr, preorder, Expr.preorder]
  | .call _ args _ => by
      simp only [ofExpr, preorder, Expr.preorder, List.map_cons, preorderAll_ofExprs args]
  | .concat parts => by
      simp only [ofExpr, preorder, Expr.preorder, List.map_cons, preorderAll_ofExprs parts]

theorem preorderAll_ofExprs : ∀ es : List Expr,
    preorderAll (ofExprs R es) = (Template.preorderAll es).map (ofExpr R)
  | [] => by simp [ofExprs, preorderAll, Template.preorderAll]
  | e :: es => by
      rw [ofExprs, preorderAll, preorder_ofExpr e, preorderAll_ofExprs es, Template.preorderAll,
        List.map_append]

end

/-- The outline shows that a call leaves the marker of wrong argument counts. -/
def IsMarked (o : Outline) : Prop :=
  o.kind = "call" ∧ ∃ before, o.text = before ++ ", renders <ARGN>)"

/-- A mark does not end in a number. -/
theorem append_number_ne_mark (n : ℕ) (before before' : String) :
    before ++ toString n ++ ")" ≠ before' ++ ", renders <ARGN>)" := by
  intro h
  have hne : (toString n).toList ≠ [] := by
    intro he
    exact (isName_toString n).1 (String.toList_eq_nil_iff.1 he)
  have hdigits : ∀ c ∈ (toString n).toList, c.isDigit = true := by
    have hn := isNumeral_toString n
    simp only [Text.isNumeral, Bool.and_eq_true, List.all_eq_true] at hn
    exact hn.2
  obtain ⟨digits, last, hlast⟩ : ∃ digits last, (toString n).toList = digits ++ [last] :=
    ⟨_, _, (List.dropLast_concat_getLast hne).symm⟩
  have hdigit : last.isDigit = true := by
    apply hdigits
    rw [hlast]
    simp
  -- the character before the closing parenthesis is a digit, and in a mark it is not
  have hends := congrArg (fun s : String => s.toList.reverse[1]?) h
  simp only [String.toList_append, hlast, List.reverse_append, String.reduceToList,
    List.reverse_cons, List.reverse_nil, List.nil_append, List.cons_append,
    List.getElem?_cons_succ, List.getElem?_cons_zero, Option.some.injEq] at hends
  rw [hends] at hdigit
  exact absurd hdigit (by decide)

theorem isMarked_call_iff {name : String} {args : List Expr} {offset : ℕ} {f : TextFunction}
    (hf : R.get? name = some f) :
    (ofExpr R (.call name args offset)).IsMarked ↔ f.arity.accepts args.length = false := by
  have htext : (ofExpr R (.call name args offset)).text =
      name ++ CallNote.message ⟨f.arity, args.length⟩ := by
    simp [ofExpr, text, hf]
  have hkind : (ofExpr R (.call name args offset)).kind = "call" := by
    simp [ofExpr, kind]
  unfold IsMarked
  rw [htext, hkind]
  cases ha : f.arity.accepts args.length with
  | true =>
      have hm : name ++ CallNote.message ⟨f.arity, args.length⟩ =
          (name ++ " (takes " ++ f.arity.text ++ ", got ") ++ toString args.length ++ ")" := by
        simp [CallNote.message, CallNote.fails, ha, String.append_assoc]
      rw [hm]
      constructor
      · rintro ⟨-, before, h⟩
        exact absurd h (append_number_ne_mark _ _ _)
      · intro h
        cases h
  | false =>
      have hm : name ++ CallNote.message ⟨f.arity, args.length⟩ =
          (name ++ " (takes " ++ f.arity.text ++ ", got " ++ toString args.length) ++
            ", renders <ARGN>)" := by
        simp [CallNote.message, CallNote.fails, ha, Sentinel.marker, ← String.toList_inj]
      exact ⟨fun _ => rfl, fun _ => ⟨rfl, _, hm⟩⟩

/-- The calls that are reported are those that are marked. -/
theorem isMarked_ofExpr_iff {e : Expr} {s : Stage} (h : LowersTo R e s) :
    (ofExpr R e).IsMarked ↔ ∃ d, rootDiagnostic? R e = some d := by
  obtain ⟨diagnostics, h⟩ := h
  have hkind : ∀ {o : Outline}, o.kind ≠ "call" → ¬o.IsMarked := fun hne hm => hne hm.1
  cases e with
  | literal text =>
      rw [ofExpr]
      exact iff_of_false (hkind (by simp [kind])) (not_exists_rootDiagnostic? rfl)
  | argRef index =>
      rw [ofExpr]
      exact iff_of_false (hkind (by simp [kind])) (not_exists_rootDiagnostic? rfl)
  | concat parts =>
      rw [ofExpr]
      exact iff_of_false (hkind (by simp [kind])) (not_exists_rootDiagnostic? rfl)
  | call name args offset =>
      obtain ⟨f, rs, hf, -, -⟩ := lower_call_eq_ok_iff.1 h
      rw [isMarked_call_iff hf, exists_rootDiagnostic?_call_iff hf]

end Outline

/-! ### The same calls -/

theorem exists_getElem?_of_forall₂ {α β : Type} {P : α → β → Prop} {xs : List α} {ys : List β}
    (h : List.Forall₂ P xs ys) {i : ℕ} {x : α} (hx : xs[i]? = some x) :
    ∃ y, ys[i]? = some y ∧ P x y := by
  induction h generalizing i with
  | nil => simp at hx
  | @cons x' y' xs ys hp _ ih =>
      cases i with
      | zero =>
          obtain rfl : x' = x := by simpa using hx
          exact ⟨y', rfl, hp⟩
      | succ i => exact ih (by simpa using hx)

/-- The results of a partial function along a list, with the positions that they come from. -/
theorem exists_positions {α β : Type} (f : α → Option β) (xs : List α) :
    ∃ positions : List ℕ, positions.Pairwise (· < ·) ∧
      (∀ i, i ∈ positions ↔ ∃ x, xs[i]? = some x ∧ ∃ y, f x = some y) ∧
      List.Forall₂ (fun i y => ∃ x, xs[i]? = some x ∧ f x = some y) positions
        (xs.filterMap f) := by
  induction xs with
  | nil => exact ⟨[], .nil, by simp, .nil⟩
  | cons x xs ih =>
      obtain ⟨positions, hlt, hmem, hrel⟩ := ih
      have hlt' : (positions.map (· + 1)).Pairwise (· < ·) := by
        rw [List.pairwise_map]
        exact hlt.imp fun h => by omega
      have hrel' : List.Forall₂ (fun i y => ∃ x', (x :: xs)[i]? = some x' ∧ f x' = some y)
          (positions.map (· + 1)) (xs.filterMap f) := by
        rw [List.forall₂_map_left_iff]
        exact hrel.imp fun i y h => by simpa using h
      have hsucc : ∀ i, i + 1 ∈ positions.map (· + 1) ↔
          ∃ x', (x :: xs)[i + 1]? = some x' ∧ ∃ y, f x' = some y := by
        intro i
        simp [hmem]
      cases hx : f x with
      | none =>
          refine ⟨positions.map (· + 1), hlt', ?_, by rwa [List.filterMap_cons_none hx]⟩
          intro i
          cases i with
          | zero => simp [hx]
          | succ i => exact hsucc i
      | some y =>
          refine ⟨0 :: positions.map (· + 1), ?_, ?_, ?_⟩
          · refine List.pairwise_cons.2 ⟨?_, hlt'⟩
            intro i hi
            obtain ⟨j, -, rfl⟩ := List.mem_map.1 hi
            exact Nat.succ_pos j
          · intro i
            cases i with
            | zero => simp [hx]
            | succ i =>
                rw [List.mem_cons, ← hsucc]
                simp
          · rw [List.filterMap_cons_some hx]
            exact .cons ⟨x, rfl, hx⟩ hrel'

/-- The outline of a template that compiles, its nodes and its stages are the same tree.  The calls
that the outline marks, those that are reported and those that are cut short in evaluation, whatever
the context, are at the same positions of it. -/
theorem failing_calls_agree {limits : Limits} {template : String} {k : Compiled}
    (hk : Compiler.compile ⟨R, limits⟩ template = .ok k) :
    ∃ nodes : List Expr, parse limits template = .ok nodes ∧
      (Outline.preorderAll (Outline.ofExprs R nodes)).length = Expr.nodeCountAll nodes ∧
      (stagePreorderAll k.stages).length = Expr.nodeCountAll nodes ∧
      (∀ (i : ℕ) (e : Expr), (Template.preorderAll nodes)[i]? = some e →
        (Outline.preorderAll (Outline.ofExprs R nodes))[i]? = some (Outline.ofExpr R e) ∧
        ∃ s, (stagePreorderAll k.stages)[i]? = some s ∧ LowersTo R e s) ∧
      ∃ positions : List ℕ, positions.Pairwise (· < ·) ∧
        (∀ i, i ∈ positions ↔
          ∃ o, (Outline.preorderAll (Outline.ofExprs R nodes))[i]? = some o ∧ o.IsMarked) ∧
        (∀ ctx i, i ∈ positions ↔
          ∃ s, (stagePreorderAll k.stages)[i]? = some s ∧ s.CutShort ctx) ∧
        List.Forall₂ (fun i d => ∃ e, (Template.preorderAll nodes)[i]? = some e ∧ d.IsOf R e)
          positions k.diagnostics := by
  obtain ⟨nodes, r, hp, hr, rfl⟩ := compile_eq_ok_iff.1 hk
  have hshown := Outline.preorderAll_ofExprs (R := R) nodes
  have hlower := preorderAll_lowerAll nodes hr
  have hstage : ∀ {i : ℕ} {e : Expr}, (Template.preorderAll nodes)[i]? = some e →
      ∃ s, (stagePreorderAll r.1)[i]? = some s ∧ LowersTo R e s :=
    fun he => exists_getElem?_of_forall₂ hlower he
  refine ⟨nodes, hp, ?_, ?_, ?_, ?_⟩
  · rw [hshown, List.length_map, length_preorderAll]
  · rw [← hlower.length_eq, length_preorderAll]
  · intro i e he
    exact ⟨by rw [hshown, List.getElem?_map, he]; rfl, hstage he⟩
  · obtain ⟨positions, hlt, hmem, hrel⟩ := exists_positions (rootDiagnostic? R)
      (Template.preorderAll nodes)
    refine ⟨positions, hlt, ?_, ?_, ?_⟩
    · intro i
      rw [hmem, hshown]
      simp only [List.getElem?_map, Option.map_eq_some_iff]
      constructor
      · rintro ⟨e, he, hd⟩
        obtain ⟨s, -, hs⟩ := hstage he
        exact ⟨_, ⟨e, he, rfl⟩, (Outline.isMarked_ofExpr_iff hs).2 hd⟩
      · rintro ⟨_, ⟨e, he, rfl⟩, hm⟩
        obtain ⟨s, -, hs⟩ := hstage he
        exact ⟨e, he, (Outline.isMarked_ofExpr_iff hs).1 hm⟩
    · intro ctx i
      rw [hmem]
      constructor
      · rintro ⟨e, he, hd⟩
        obtain ⟨s, hi, hs⟩ := hstage he
        exact ⟨s, hi, (cutShort_iff hs).2 hd⟩
      · rintro ⟨s, hi, hc⟩
        obtain ⟨e, he, hs⟩ := exists_getElem?_of_forall₂ hlower.flip hi
        exact ⟨e, he, (cutShort_iff hs).1 hc⟩
    · rw [diagnostics_eq_filterMap hr]
      refine hrel.imp ?_
      rintro i d ⟨e, he, hd⟩
      obtain ⟨name, args, offset, f, hcall, hf, -, hd⟩ := rootDiagnostic?_eq_some_iff.1 hd
      exact ⟨e, he, name, args, offset, f, hcall, hf, hd⟩

/-- With `select` taken over by a function of one argument, the outer call fails and the one in it
does not. -/
theorem failing_calls_agree_replaced_function :
    ∃ k, Compiler.compile
        ⟨Registry.builtin.register ⟨"select", .exactly 1, "", fun _ => .ok ""⟩, Limits.standard⟩
        "\x7blower 1 \x7bselect \x7b0\x7d\x7d\x7d\x7bupper\x7d" = .ok k ∧
      k.diagnostics = [⟨1, "lower", .exactly 1, 2⟩, ⟨23, "upper", .exactly 1, 0⟩] ∧
      (stagePreorderAll k.stages).length = 5 ∧
      ∀ ctx i, i ∈ [0, 4] ↔ ∃ s, (stagePreorderAll k.stages)[i]? = some s ∧ s.CutShort ctx := by
  have hp : parse Limits.standard "\x7blower 1 \x7bselect \x7b0\x7d\x7d\x7d\x7bupper\x7d" =
      .ok [.call "lower" [.literal "1", .call "select" [.argRef 0] 10] 1, .call "upper" [] 23] := by
    decide +kernel
  have hl : Registry.builtin.get? "lower" = some Builtin.lower := Registry.get?_builtin "lower"
  have hu : Registry.builtin.get? "upper" = some Builtin.upper := Registry.get?_builtin "upper"
  have hs : lowerAll (Registry.builtin.register ⟨"select", .exactly 1, "", fun _ => .ok ""⟩)
      [.call "lower" [.literal "1", .call "select" [.argRef 0] 10] 1, .call "upper" [] 23] =
      .ok ([.call Builtin.lower [.literal "1",
          .call ⟨"select", .exactly 1, "", fun _ => .ok ""⟩ [.argRef 0]],
          .call Builtin.upper []],
        [⟨1, "lower", .exactly 1, 2⟩, ⟨23, "upper", .exactly 1, 0⟩]) := by
    simp [lowerAll, lower, Registry.get?_register, hl, hu, Builtin.lower, Builtin.upper,
      Arity.accepts, Arity.exactly]
  have hk : Compiler.compile
      ⟨Registry.builtin.register ⟨"select", .exactly 1, "", fun _ => .ok ""⟩, Limits.standard⟩
      "\x7blower 1 \x7bselect \x7b0\x7d\x7d\x7d\x7bupper\x7d" = .ok _ :=
    compile_eq_ok_iff.2 ⟨_, _, hp, hs, rfl⟩
  obtain ⟨nodes, hnodes, -, hlength, -, positions, hlt, -, hcut, hrel⟩ := failing_calls_agree hk
  obtain rfl := Except.ok.inj (hp.symm.trans hnodes)
  refine ⟨_, hk, rfl, hlength, ?_⟩
  have hat : ∀ (i : ℕ) name args offset, (Template.preorderAll
      [.call "lower" [.literal "1", .call "select" [.argRef 0] 10] 1, .call "upper" [] 23])[i]? =
        some (.call name args offset) → (offset = 1 → i = 0) ∧ (offset = 23 → i = 4) := by
    intro i name args offset he
    simp only [Template.preorderAll, Expr.preorder, List.nil_append, List.cons_append] at he
    match i with
    | 0 | 2 | 4 => simp at he; omega
    | 1 | 3 | _ + 5 => simp at he
  have hpositions : positions = [0, 4] := by
    obtain ⟨i, _, ⟨_, hi, _, _, offset, _, rfl, -, hd⟩, hrest, rfl⟩ :=
      List.forall₂_cons_right_iff.1 hrel
    obtain ⟨j, _, ⟨_, hj, _, _, offset', _, rfl, -, hd'⟩, hnil, rfl⟩ :=
      List.forall₂_cons_right_iff.1 hrest
    obtain rfl := List.forall₂_nil_right_iff.1 hnil
    have hoffset : offset = 1 := (congrArg Diagnostic.offset hd).symm
    have hoffset' : offset' = 23 := (congrArg Diagnostic.offset hd').symm
    rw [(hat _ _ _ _ hi).1 hoffset, (hat _ _ _ _ hj).2 hoffset']
  rw [← hpositions]
  exact hcut

end CacheKeys.CommandLine
