import Mathlib
import CacheKeys.Template.Compiled
import CacheKeys.Proofs.Template.Recognition

/-! # Moving templates

Every byte position that a reader keeps or reports is moved by the same amount if the text stands
further to the right.  `Reader.after k pre r` is the reader `r` moved by `k` bytes, with the nodes
`pre` in front; `step_after` says that every character does to it what it does to `r`.  Names are
resolved the same way at every position (`lower_relocate`), so only the offsets of diagnostics and
errors move. -/

namespace CacheKeys.Template

/-! ### Positions of nodes and errors -/

mutual

/-- The node with its positions replaced by a function of them. -/
def Expr.relocate (f : ℕ → ℕ) : Expr → Expr
  | .literal text => .literal text
  | .argRef index => .argRef index
  | .call name args offset => .call name (relocateAll f args) (f offset)
  | .concat parts => .concat (relocateAll f parts)

/-- The nodes with their positions replaced by a function of them. -/
def relocateAll (f : ℕ → ℕ) : List Expr → List Expr
  | [] => []
  | e :: es => e.relocate f :: relocateAll f es

end

/-- The error with its position replaced by a function of it. -/
def CompileError.relocate (f : ℕ → ℕ) : CompileError → CompileError
  | .unbalancedBraces offset => .unbalancedBraces (f offset)
  | .unknownFunction name offset => .unknownFunction name (f offset)
  | .unterminatedQuote offset => .unterminatedQuote (f offset)
  | .emptyExpression offset => .emptyExpression (f offset)
  | .invalidArgumentIndex text offset => .invalidArgumentIndex text (f offset)
  | .nestingTooDeep limit => .nestingTooDeep limit
  | .templateTooLong length limit => .templateTooLong length limit

/-- A result whose error is moved and whose value is mapped. -/
def relocateResult {α β : Type} (f : ℕ → ℕ) (φ : α → β) :
    Except CompileError α → Except CompileError β
  | .error e => .error (e.relocate f)
  | .ok a => .ok (φ a)

@[simp] theorem relocateResult_error {α β : Type} (f : ℕ → ℕ) (φ : α → β) (e : CompileError) :
    relocateResult f φ (.error e) = .error (e.relocate f) := rfl

@[simp] theorem relocateResult_ok {α β : Type} (f : ℕ → ℕ) (φ : α → β) (a : α) :
    relocateResult f φ (.ok a) = .ok (φ a) := rfl

theorem relocateAll_eq_map (f : ℕ → ℕ) (es : List Expr) :
    relocateAll f es = es.map (Expr.relocate f) := by
  induction es with
  | nil => rfl
  | cons e es ih => rw [relocateAll, ih, List.map_cons]

theorem CompileError.relocate_zero_relocate (e : CompileError) (f : ℕ → ℕ) :
    (e.relocate (0 + ·)).relocate f = e.relocate f := by
  cases e <;> simp [relocate]

/-! ### Positions kept by a reader -/

/-- The item with its positions replaced by a function of them. -/
def Item.relocate (f : ℕ → ℕ) (i : Item) : Item :=
  { i with offset := f i.offset, expr := i.expr.relocate f }

/-- The draft with its positions replaced by a function of them. -/
def Draft.relocate (f : ℕ → ℕ) (d : Draft) : Draft :=
  { d with offset := f d.offset, parts := relocateAll f d.parts }

/-- The group with its positions replaced by a function of them. -/
def Group.relocate (f : ℕ → ℕ) (g : Group) : Group :=
  { g with opened := f g.opened, items := g.items.map (Item.relocate f) }

/-- The level with its positions replaced by a function of them. -/
def Level.relocate (f : ℕ → ℕ) (l : Level) : Level := (l.1.relocate f, l.2.relocate f)

/-- The place with its positions replaced by a function of them. -/
def Place.relocate (f : ℕ → ℕ) : Place → Place
  | .outside run => .outside run
  | .between g outer => .between (g.relocate f) (outer.map (Level.relocate f))
  | .inside g d outer => .inside (g.relocate f) (d.relocate f) (outer.map (Level.relocate f))
  | .quoted g d opened q outer =>
      .quoted (g.relocate f) (d.relocate f) (f opened) q (outer.map (Level.relocate f))

variable (f : ℕ → ℕ)

theorem Place.relocate_outside (run : String) :
    (Place.outside run).relocate f = .outside run := rfl

theorem Place.relocate_between (g : Group) (outer : List Level) :
    (Place.between g outer).relocate f =
      .between (g.relocate f) (outer.map (Level.relocate f)) := rfl

theorem Place.relocate_inside (g : Group) (d : Draft) (outer : List Level) :
    (Place.inside g d outer).relocate f =
      .inside (g.relocate f) (d.relocate f) (outer.map (Level.relocate f)) := rfl

theorem Draft.relocate_start (pos : ℕ) : (Draft.start pos).relocate f = Draft.start (f pos) := rfl

theorem Draft.relocate_allParts (d : Draft) :
    (d.relocate f).allParts = relocateAll f d.allParts := by
  obtain ⟨offset, source, parts, literal, isWord⟩ := d
  cases literal with
  | none => rfl
  | some text => simp [Draft.allParts, Draft.relocate, relocateAll_eq_map, Expr.relocate]

theorem Draft.relocate_pushGroup (d : Draft) (source : String) (e : Expr) :
    (d.relocate f).pushGroup source (e.relocate f) = (d.pushGroup source e).relocate f := by
  unfold Draft.pushGroup
  rw [Draft.relocate_allParts]
  simp [Draft.relocate, relocateAll_eq_map]

theorem relocate_ofParts (parts : List Expr) :
    (ofParts parts).relocate f = ofParts (relocateAll f parts) := by
  match parts with
  | [] => rfl
  | [e] => rfl
  | e :: e' :: es => rfl

theorem Draft.relocate_toItem (d : Draft) : (d.relocate f).toItem = d.toItem.relocate f := by
  have h : ∀ d : Draft, d.toItem = ⟨d.offset, d.source, d.isWord, ofParts d.allParts⟩ :=
    fun _ => rfl
  rw [h, h, Draft.relocate_allParts, ← relocate_ofParts]
  rfl

theorem Group.relocate_pushItem (g : Group) (d : Draft) :
    (g.relocate f).pushItem (d.relocate f) = (g.pushItem d).relocate f := by
  simp [Group.pushItem, Group.relocate, Draft.relocate_toItem]
  rfl

theorem Group.relocate_value (g : Group) :
    (g.relocate f).value = relocateResult f (Expr.relocate f) g.value := by
  obtain ⟨opened, source, items⟩ := g
  match items with
  | [] => rfl
  | [head] =>
      show Group.value ⟨f opened, source, [head.relocate f]⟩ = _
      simp only [Group.value, Item.relocate]
      by_cases hw : head.isWord = true
      · by_cases hn : Text.isNumeral head.source.toList = true
        · simp only [hw, hn, if_true]
          cases Text.natBelow? Text.indexBound head.source.toList <;> rfl
        · simp only [hw, hn, if_true, if_false, Bool.false_eq_true]
          rfl
      · simp only [hw, if_false, Bool.false_eq_true]
        rfl
  | head :: arg :: args =>
      show Group.value ⟨f opened, source,
        head.relocate f :: arg.relocate f :: args.map (Item.relocate f)⟩ = _
      simp only [Group.value, Item.relocate]
      by_cases hw : head.isWord = true
      · simp only [hw, if_true, relocateResult_ok, Expr.relocate, relocateAll_eq_map]
        simp [Item.relocate, Function.comp_def]
      · simp only [hw, if_false, Bool.false_eq_true]
        rfl

namespace Reader

variable (depth : ℕ)

theorem relocate_openGroup (offset : ℕ) (outer : List Level) :
    openGroup depth (f offset) (outer.map (Level.relocate f)) =
      relocateResult f (Place.relocate f) (openGroup depth offset outer) := by
  unfold openGroup
  rw [List.length_map]
  split <;> rfl

theorem relocate_closeGroup (pre nodes : List Expr) (g : Group) (outer : List Level) :
    closeGroup (pre ++ relocateAll f nodes) (g.relocate f) (outer.map (Level.relocate f)) =
      relocateResult f (fun r => (pre ++ relocateAll f r.1, r.2.relocate f))
        (closeGroup nodes g outer) := by
  unfold closeGroup
  rw [Group.relocate_value]
  cases g.value with
  | error e => rfl
  | ok e =>
      cases outer with
      | nil => simp [relocateAll_eq_map, Place.relocate]
      | cons l outer =>
          simp only [List.map_cons, Level.relocate, relocateResult_ok, Place.relocate]
          rw [← Draft.relocate_pushGroup]
          rfl

theorem relocate_readItem (offset : ℕ) (g : Group) (d : Draft) (outer : List Level) (c : Char) :
    readItem depth (f offset) (g.relocate f) (d.relocate f) (outer.map (Level.relocate f)) c =
      relocateResult f (Place.relocate f) (readItem depth offset g d outer c) := by
  unfold readItem
  split
  · exact relocate_openGroup f depth offset ((g, d) :: outer)
  · split <;> rfl

theorem relocateResult_map {α β α' β' : Type} (φ : α → β) (φ' : α' → β') (m : α → α') (m' : β → β')
    (h : ∀ a, m' (φ a) = φ' (m a)) (x : Except CompileError α) :
    (relocateResult f φ x).map m' = relocateResult f φ' (x.map m) := by
  cases x with
  | error e => rfl
  | ok a => exact congrArg Except.ok (h a)

/-- Moving a place beside nodes is moving both. -/
theorem relocate_beside (pre nodes : List Expr) (x : Except CompileError Place) :
    (relocateResult f (Place.relocate f) x).map (fun p => (pre ++ relocateAll f nodes, p)) =
      relocateResult f (fun r => (pre ++ relocateAll f r.1, r.2.relocate f))
        (x.map fun p => (nodes, p)) := by
  cases x <;> rfl

theorem relocate_withRun (pre nodes : List Expr) (run : String) :
    withRun (pre ++ relocateAll f nodes) run = pre ++ relocateAll f (withRun nodes run) := by
  unfold withRun
  split
  · rfl
  · simp [relocateAll_eq_map, Expr.relocate]

/-- One character does the same at every position and after all nodes. -/
theorem relocate_advance (offset : ℕ) (pre nodes : List Expr) (place : Place) (c : Char) :
    advance depth (f offset) (pre ++ relocateAll f nodes) (place.relocate f) c =
      relocateResult f (fun r => (pre ++ relocateAll f r.1, r.2.relocate f))
        (advance depth offset nodes place c) := by
  cases place with
  | outside run =>
      simp only [advance, Place.relocate_outside, relocate_withRun]
      split
      · have h := relocate_openGroup f depth offset []
        rw [List.map_nil] at h
        rw [h]
        exact relocate_beside f pre (withRun nodes run) _
      · split <;> rfl
  | between g outer =>
      simp only [advance, Place.relocate_between]
      split
      · rfl
      · split
        · exact relocate_closeGroup f pre nodes g outer
        · have h := relocate_readItem f depth offset g (Draft.start offset) outer c
          rw [Draft.relocate_start] at h
          rw [h]
          exact relocate_beside f pre nodes _
  | inside g d outer =>
      simp only [advance, Place.relocate_inside, Group.relocate_pushItem]
      split
      · rfl
      · split
        · exact relocate_closeGroup f pre nodes (g.pushItem d) outer
        · rw [relocate_readItem]
          exact relocate_beside f pre nodes _
  | quoted g d opened q outer =>
      simp only [advance, Place.relocate]
      cases q.step c <;> rfl

/-- The reader moved by `k` bytes, with the nodes `pre` in front of its own. -/
def after (k : ℕ) (pre : List Expr) (r : Reader) : Reader :=
  ⟨k + r.offset, pre ++ relocateAll (k + ·) r.nodes, r.place.relocate (k + ·)⟩

variable {depth}

/-- A character does to a moved reader what it does to the reader. -/
theorem step_after (k : ℕ) (pre : List Expr) (r : Reader) (c : Char) :
    (r.after k pre).step depth c =
      relocateResult (k + ·) (after k pre) (r.step depth c) := by
  have h := relocate_advance (k + ·) depth r.offset pre r.nodes r.place c
  simp only [step, after]
  rw [h]
  refine relocateResult_map _ _ _ _ _ (fun a => ?_) _
  simp [Nat.add_assoc, after]

end Reader

/-! ### Names at moved positions -/

/-- The diagnostic with its position replaced by a function of it. -/
def Diagnostic.relocate (f : ℕ → ℕ) (d : Diagnostic) : Diagnostic := { d with offset := f d.offset }

mutual

/-- The position of a node shows in its diagnostics and errors only. -/
theorem lower_relocate (R : Registry) : ∀ e : Expr,
    lower R (e.relocate f) =
      relocateResult f (fun r => (r.1, r.2.map (Diagnostic.relocate f))) (lower R e)
  | .literal _ => rfl
  | .argRef _ => rfl
  | .call name args offset => by
      have h := lowerAll_relocate R args
      simp only [Expr.relocate, lower]
      cases hn : R.get? name with
      | none => rfl
      | some fn =>
          simp only [h]
          cases lowerAll R args with
          | error e => rfl
          | ok r =>
              simp only [relocateResult_ok, relocateAll_eq_map, List.length_map]
              by_cases ha : fn.arity.accepts args.length = true <;>
                simp [ha, Diagnostic.relocate]
  | .concat parts => by
      simp only [Expr.relocate, lower, lowerAll_relocate R parts]
      cases lowerAll R parts <;> rfl

theorem lowerAll_relocate (R : Registry) : ∀ es : List Expr,
    lowerAll R (relocateAll f es) =
      relocateResult f (fun r => (r.1, r.2.map (Diagnostic.relocate f))) (lowerAll R es)
  | [] => rfl
  | e :: es => by
      simp only [relocateAll, lowerAll, lower_relocate R e, lowerAll_relocate R es]
      cases lower R e with
      | error e => rfl
      | ok r =>
          cases lowerAll R es with
          | error e => rfl
          | ok rs => simp

end

end CacheKeys.Template
