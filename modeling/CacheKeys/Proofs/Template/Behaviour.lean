import Mathlib
import CacheKeys.Template.Compiled
import CacheKeys.Proofs.Template.Relocation

/-! # What compiled templates show

A `Behaviour` is what can be asked of a compiled template: its keys, its diagnostics, the greatest
index it reads and whether it is constant.  `Behaves R nodes b` says that the names in `nodes` are
all registered and what the nodes then show.  Side by side, nodes show their behaviours one after
the other (`behaves_append`), and a literal may be cut anywhere (`Behaviour.literal_append`). -/

namespace CacheKeys.Template

/-! ### Behaviours -/

/-- What a compiled template shows: the key for each context, the calls with a wrong number of
arguments, the greatest context index that is read, and whether all nodes are literal. -/
@[ext]
structure Behaviour where
  key : Context → String
  diagnostics : List Diagnostic
  maxArgIndex : Option ℕ
  isConstant : Bool

def Compiled.behaviour (k : Compiled) : Behaviour :=
  ⟨k.evaluate, k.diagnostics, k.maxArgIndex, k.isConstant⟩

namespace Behaviour

def literal (text : String) : Behaviour := ⟨fun _ => text, [], none, true⟩

/-- The behaviour of two templates side by side. -/
def append (b b' : Behaviour) : Behaviour :=
  ⟨fun ctx => b.key ctx ++ b'.key ctx, b.diagnostics ++ b'.diagnostics,
    Stage.maxIndex b.maxArgIndex b'.maxArgIndex, b.isConstant && b'.isConstant⟩

/-- The behaviour with its positions replaced by a function of them. -/
def relocate (f : ℕ → ℕ) (b : Behaviour) : Behaviour :=
  { b with diagnostics := b.diagnostics.map (Diagnostic.relocate f) }

/-- The behaviour of resolved nodes. -/
def ofLowered (r : List Stage × List Diagnostic) : Behaviour :=
  ⟨fun ctx => String.join (Stage.renderAllWith Sentinel.marker ctx r.1), r.2,
    Stage.maxArgIndexAll r.1, r.1.all Stage.isLiteral⟩

end Behaviour

theorem Stage.maxIndex_eq_max (a b : Option ℕ) : maxIndex a b = max a b := by
  cases a <;> cases b <;> rfl

theorem Stage.maxIndex_assoc (a b c : Option ℕ) :
    maxIndex (maxIndex a b) c = maxIndex a (maxIndex b c) := by
  cases a <;> cases b <;> cases c <;> simp [maxIndex, Nat.max_assoc]

theorem Stage.maxIndex_none (a : Option ℕ) : maxIndex a none = a := by
  cases a <;> rfl

theorem Stage.maxArgIndexAll_append (ss ss' : List Stage) :
    maxArgIndexAll (ss ++ ss') = maxIndex (maxArgIndexAll ss) (maxArgIndexAll ss') := by
  induction ss with
  | nil => rfl
  | cons s ss ih => rw [List.cons_append, maxArgIndexAll, ih, maxArgIndexAll, maxIndex_assoc]

theorem Stage.renderAllWith_append (marker : Sentinel → String) (ctx : Context)
    (ss ss' : List Stage) :
    renderAllWith marker ctx (ss ++ ss') =
      renderAllWith marker ctx ss ++ renderAllWith marker ctx ss' := by
  induction ss with
  | nil => rfl
  | cons s ss ih => rw [List.cons_append, renderAllWith, ih, renderAllWith, List.cons_append]

namespace Behaviour

theorem append_assoc (a b c : Behaviour) : (a.append b).append c = a.append (b.append c) := by
  simp [append, String.append_assoc, Stage.maxIndex_assoc, Bool.and_assoc]

theorem literal_append (s s' : String) : (literal s).append (literal s') = literal (s ++ s') := rfl

@[simp] theorem append_literal_empty (b : Behaviour) : b.append (literal "") = b := by
  simp [append, literal, Stage.maxIndex_none]

@[simp] theorem relocate_literal (f : ℕ → ℕ) (s : String) :
    (literal s).relocate f = literal s := rfl

theorem relocate_append (f : ℕ → ℕ) (b b' : Behaviour) :
    (b.append b').relocate f = (b.relocate f).append (b'.relocate f) := by
  simp [append, relocate]

theorem relocate_zero_relocate (f : ℕ → ℕ) (b : Behaviour) :
    (b.relocate (0 + ·)).relocate f = b.relocate f := by
  simp [relocate, Diagnostic.relocate]

theorem ofLowered_append (r r' : List Stage × List Diagnostic) :
    ofLowered (r.1 ++ r'.1, r.2 ++ r'.2) = (ofLowered r).append (ofLowered r') := by
  simp [ofLowered, append, Stage.renderAllWith_append, Stage.maxArgIndexAll_append,
    String.join_append]

end Behaviour

/-! ### Behaviours of nodes -/

theorem lowerAll_cons_eq_ok_iff {R : Registry} {e : Expr} {es : List Expr}
    {r : List Stage × List Diagnostic} :
    lowerAll R (e :: es) = .ok r ↔
      ∃ s rs, lower R e = .ok s ∧ lowerAll R es = .ok rs ∧ r = (s.1 :: rs.1, s.2 ++ rs.2) := by
  rw [lowerAll]
  cases lower R e with
  | error err => simp
  | ok s =>
      cases lowerAll R es with
      | error err => simp
      | ok rs => simp [eq_comm]

theorem lowerAll_append_eq_ok_iff {R : Registry} {es es' : List Expr}
    {r : List Stage × List Diagnostic} :
    lowerAll R (es ++ es') = .ok r ↔
      ∃ r₁ r₂, lowerAll R es = .ok r₁ ∧ lowerAll R es' = .ok r₂ ∧
        r = (r₁.1 ++ r₂.1, r₁.2 ++ r₂.2) := by
  induction es generalizing r with
  | nil =>
      constructor
      · intro h
        exact ⟨_, r, rfl, h, by simp⟩
      · rintro ⟨r₁, r₂, h₁, h₂, rfl⟩
        cases h₁
        simpa using h₂
  | cons e es ih =>
      simp only [List.cons_append, lowerAll_cons_eq_ok_iff, ih]
      constructor
      · rintro ⟨s, _, hs, ⟨r₁, r₂, h₁, h₂, rfl⟩, rfl⟩
        exact ⟨_, r₂, ⟨s, r₁, hs, h₁, rfl⟩, h₂, by simp⟩
      · rintro ⟨_, r₂, ⟨s, r₁, hs, h₁, rfl⟩, h₂, rfl⟩
        exact ⟨s, _, hs, ⟨r₁, r₂, h₁, h₂, rfl⟩, by simp⟩

/-- All names in the nodes are registered, and the nodes show `b`. -/
def Behaves (R : Registry) (nodes : List Expr) (b : Behaviour) : Prop :=
  ∃ r, lowerAll R nodes = .ok r ∧ Behaviour.ofLowered r = b

variable {R : Registry} {nodes nodes' : List Expr} {b : Behaviour}

theorem behaves_append :
    Behaves R (nodes ++ nodes') b ↔
      ∃ b₁ b₂, Behaves R nodes b₁ ∧ Behaves R nodes' b₂ ∧ b₁.append b₂ = b := by
  constructor
  · rintro ⟨r, hr, rfl⟩
    obtain ⟨r₁, r₂, h₁, h₂, rfl⟩ := lowerAll_append_eq_ok_iff.1 hr
    exact ⟨_, _, ⟨r₁, h₁, rfl⟩, ⟨r₂, h₂, rfl⟩, (Behaviour.ofLowered_append r₁ r₂).symm⟩
  · rintro ⟨_, _, ⟨r₁, h₁, rfl⟩, ⟨r₂, h₂, rfl⟩, rfl⟩
    exact ⟨_, lowerAll_append_eq_ok_iff.2 ⟨r₁, r₂, h₁, h₂, rfl⟩, Behaviour.ofLowered_append r₁ r₂⟩

theorem behaves_literal {text : String} :
    Behaves R [.literal text] b ↔ Behaviour.literal text = b := by
  have h : Behaviour.ofLowered ([.literal text], []) = Behaviour.literal text := by
    simp [Behaviour.ofLowered, Behaviour.literal, Stage.renderAllWith, Stage.renderWith,
      Stage.maxArgIndexAll, Stage.maxArgIndex, Stage.maxIndex, Stage.isLiteral]
  rw [← h]
  simp [Behaves, lowerAll, lower]

/-- Positions do not matter but in diagnostics. -/
theorem behaves_relocateAll {f : ℕ → ℕ} :
    Behaves R (relocateAll f nodes) b ↔ ∃ b', Behaves R nodes b' ∧ b'.relocate f = b := by
  have h : ∀ r : List Stage × List Diagnostic,
      Behaviour.ofLowered (r.1, r.2.map (Diagnostic.relocate f)) =
        (Behaviour.ofLowered r).relocate f := fun _ => rfl
  unfold Behaves
  rw [lowerAll_relocate]
  cases lowerAll R nodes with
  | error e => simp
  | ok r => simp [h]

/-- A run of literal text shows itself, also if it is empty. -/
theorem behaves_withRun {run : String} :
    Behaves R (Reader.withRun nodes run) b ↔ Behaves R (nodes ++ [.literal run]) b := by
  unfold Reader.withRun
  split
  · next he =>
    rw [String.isEmpty_iff.1 he]
    simp [behaves_append, behaves_literal]
  · rfl

/-- A reader ends well after a run of literal text, which it then shows. -/
theorem exists_finish_outside (offset : ℕ) (nodes : List Expr) (run : String) :
    ∃ ks, Reader.finish ⟨offset, nodes, .outside run⟩ = .ok ks ∧
      ∀ R b, Behaves R ks b ↔ Behaves R (nodes ++ [.literal run]) b := by
  simp only [Reader.finish]
  split
  · next he =>
    simp only [Bool.and_eq_true, String.isEmpty_iff, List.isEmpty_iff] at he
    obtain ⟨rfl, rfl⟩ := he
    exact ⟨_, rfl, fun _ _ => Iff.rfl⟩
  · exact ⟨_, rfl, fun _ _ => behaves_withRun⟩

theorem compile_eq_ok_iff {c : Compiler} {template : String} {k : Compiled} :
    c.compile template = .ok k ↔
      ∃ ks r, parse c.limits template = .ok ks ∧ lowerAll c.registry ks = .ok r ∧
        k = ⟨template, r.1, r.2⟩ := by
  unfold Compiler.compile
  cases parse c.limits template with
  | error e => simp
  | ok ks =>
      cases h : lowerAll c.registry ks with
      | error e => simp [h]
      | ok r =>
          obtain ⟨stages, diagnostics⟩ := r
          simp [h, eq_comm]

/-- Compiling is reading nodes that behave. -/
theorem exists_compile_iff {limits : Limits} {template : String} :
    (∃ k, Compiler.compile ⟨R, limits⟩ template = .ok k ∧ k.behaviour = b) ↔
      ∃ ks, parse limits template = .ok ks ∧ Behaves R ks b := by
  constructor
  · rintro ⟨k, hc, rfl⟩
    obtain ⟨ks, r, hp, hr, rfl⟩ := compile_eq_ok_iff.1 hc
    exact ⟨ks, hp, r, hr, rfl⟩
  · rintro ⟨ks, hp, r, hr, rfl⟩
    exact ⟨_, compile_eq_ok_iff.2 ⟨ks, r, hp, hr, rfl⟩, rfl⟩

end CacheKeys.Template
