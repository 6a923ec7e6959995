import Mathlib
import CacheKeys.Proofs.Template.Concatenation
import CacheKeys.Proofs.Template.Rendering

/-! # What trees mean

`value R ctx e` is the text that a tree stands for against a context, and `keyOf R ctx nodes` the
key of a template with these nodes; there is none if a name is not registered.  Both are what
compiling and evaluating give, in equations that follow the tree.  Reading a tree back from its
text changes the tree, but not what it means (`value_normal`). -/

namespace CacheKeys.Template

variable (R : Registry) (ctx : Context)

def value (e : Expr) : Option String :=
  (lower R e).toOption.map fun r => r.1.renderWith Sentinel.marker ctx

/-- The texts that trees stand for. -/
def values (es : List Expr) : Option (List String) :=
  (lowerAll R es).toOption.map fun r => Stage.renderAllWith Sentinel.marker ctx r.1

/-- The key of a template with these nodes. -/
def keyOf (nodes : List Expr) : Option String := (values R ctx nodes).map String.join

/-- The text of a call, whose function may not take so many arguments. -/
def answer (f : TextFunction) (vs : List String) : String :=
  if f.arity.accepts vs.length then f.invokeWith Sentinel.marker ⟨vs⟩
  else Sentinel.marker .argCount

/-! ### Equations -/

theorem map₂_append_assoc (a b c : Option String) :
    Option.map₂ (· ++ ·) (Option.map₂ (· ++ ·) a b) c =
      Option.map₂ (· ++ ·) a (Option.map₂ (· ++ ·) b c) :=
  Option.map₂_assoc fun _ _ _ => String.append_assoc

theorem Stage.length_renderAllWith (marker : Sentinel → String) (ctx : Context) (ss : List Stage) :
    (renderAllWith marker ctx ss).length = ss.length := by
  induction ss with
  | nil => rfl
  | cons s ss ih => rw [renderAllWith, List.length_cons, ih, List.length_cons]

theorem value_literal (text : String) : value R ctx (.literal text) = some text := by
  simp [value, lower, Except.toOption, Stage.renderWith]

theorem value_call (name : String) (args : List Expr) (offset : ℕ) :
    value R ctx (.call name args offset) =
      (R.get? name).bind fun f => (values R ctx args).map (answer f) := by
  unfold value values
  rw [lower]
  cases R.get? name with
  | none => rfl
  | some f =>
      cases lowerAll R args with
      | error e => rfl
      | ok r => simp [Except.toOption, Stage.renderWith, answer, Stage.length_renderAllWith]

theorem value_concat (parts : List Expr) : value R ctx (.concat parts) = keyOf R ctx parts := by
  unfold value keyOf values
  rw [lower]
  cases lowerAll R parts with
  | error e => rfl
  | ok r => simp [Except.toOption, Stage.renderWith]

theorem values_cons (e : Expr) (es : List Expr) :
    values R ctx (e :: es) = Option.map₂ List.cons (value R ctx e) (values R ctx es) := by
  unfold value values
  rw [lowerAll]
  cases lower R e with
  | error err => rfl
  | ok s =>
      cases lowerAll R es with
      | error err => rfl
      | ok rs => rfl

theorem keyOf_nil : keyOf R ctx [] = some "" := rfl

theorem keyOf_cons (e : Expr) (es : List Expr) :
    keyOf R ctx (e :: es) = Option.map₂ (· ++ ·) (value R ctx e) (keyOf R ctx es) := by
  unfold keyOf
  rw [values_cons]
  cases value R ctx e <;> cases values R ctx es <;> simp

theorem keyOf_append (es es' : List Expr) :
    keyOf R ctx (es ++ es') = Option.map₂ (· ++ ·) (keyOf R ctx es) (keyOf R ctx es') := by
  induction es with
  | nil => simp [keyOf_nil]
  | cons e es ih =>
      rw [List.cons_append, keyOf_cons, ih, keyOf_cons, map₂_append_assoc]

theorem keyOf_singleton (e : Expr) : keyOf R ctx [e] = value R ctx e := by
  rw [keyOf_cons, keyOf_nil]
  simp

theorem value_relocate (f : ℕ → ℕ) (e : Expr) :
    value R ctx (e.relocate f) = value R ctx e := by
  unfold value
  rw [lower_relocate]
  cases lower R e <;> rfl

/-! ### Trees that are read back -/

theorem value_ofParts (parts : List Expr) : value R ctx (ofParts parts) = keyOf R ctx parts := by
  match parts with
  | [] => exact value_concat R ctx []
  | [e] => exact (keyOf_singleton R ctx e).symm
  | e :: e' :: es => exact value_concat R ctx (e :: e' :: es)

theorem keyOf_all_pushText (p : Parts) (text : String) :
    keyOf R ctx (p.pushText text).all =
      Option.map₂ (· ++ ·) (keyOf R ctx p.all) (some text) := by
  obtain ⟨done, last?⟩ := p
  cases last? with
  | none => simp [Parts.pushText, Parts.all, keyOf_append, keyOf_singleton, value_literal]
  | some last =>
      have hr : ∀ s, keyOf R ctx [.literal s] = some s := fun s => by
        rw [keyOf_singleton, value_literal]
      simp only [Parts.pushText, Parts.all, keyOf_append, hr, Option.getD_some]
      cases keyOf R ctx done <;> simp [String.append_assoc]

theorem keyOf_all_pushGroup (p : Parts) (e : Expr) :
    keyOf R ctx (p.pushGroup e).all =
      Option.map₂ (· ++ ·) (keyOf R ctx p.all) (value R ctx e) := by
  show keyOf R ctx (p.all ++ [e]) = _
  rw [keyOf_append, keyOf_singleton]

mutual

/-- Reading the text of a tree behind a juxtaposition adds what the tree means. -/
theorem keyOf_all_partsOnto : ∀ (e : Expr) (p : Parts),
    keyOf R ctx (e.partsOnto p).all = Option.map₂ (· ++ ·) (keyOf R ctx p.all) (value R ctx e)
  | .literal text, p => by
      rw [Expr.partsOnto, keyOf_all_pushText, value_literal]
  | .argRef index, p => keyOf_all_pushGroup R ctx p _
  | .call name args offset, p => by
      rw [Expr.partsOnto, keyOf_all_pushGroup, value_call, value_call, values_normalAll args]
  | .concat parts, p => by
      rw [Expr.partsOnto, keyOf_all_allPartsOnto parts, value_concat]

theorem keyOf_all_allPartsOnto : ∀ (es : List Expr) (p : Parts),
    keyOf R ctx (allPartsOnto es p).all =
      Option.map₂ (· ++ ·) (keyOf R ctx p.all) (keyOf R ctx es)
  | [], p => by simp [allPartsOnto, keyOf_nil]
  | e :: es, p => by
      rw [allPartsOnto, keyOf_all_allPartsOnto es, keyOf_all_partsOnto e, keyOf_cons,
        map₂_append_assoc]

theorem values_normalAll : ∀ es : List Expr, values R ctx (normalAll es) = values R ctx es
  | [] => rfl
  | e :: es => by
      rw [normalAll, values_cons, value_ofParts, keyOf_all_partsOnto e, values_normalAll es,
        values_cons]
      simp [Parts.none, Parts.all, keyOf_nil]

end

/-- A tree that is read back from its text means the same. -/
theorem value_normal (e : Expr) : value R ctx e.normal = value R ctx e := by
  rw [Expr.normal, value_ofParts, keyOf_all_partsOnto]
  simp [Parts.none, Parts.all, keyOf_nil]

/-! ### Keys of templates -/

variable {R ctx}

theorem keyOf_eq_some_iff {nodes : List Expr} {key : String} :
    keyOf R ctx nodes = some key ↔ ∃ b, Behaves R nodes b ∧ b.key ctx = key := by
  unfold keyOf values Behaves
  cases lowerAll R nodes with
  | error e => simp [Except.toOption]
  | ok r => simp [Except.toOption, Behaviour.ofLowered]

theorem ShowsBoth.keyOf_eq {k : ℕ} {ns ms ks : List Expr} (h : ShowsBoth k ns ms ks) :
    keyOf R ctx ks = Option.map₂ (· ++ ·) (keyOf R ctx ns) (keyOf R ctx ms) := by
  refine Option.ext fun key => ?_
  simp only [Option.map₂_eq_some_iff, Option.mem_def, keyOf_eq_some_iff, h R]
  constructor
  · rintro ⟨_, ⟨b₁, b₂, h₁, h₂, rfl⟩, rfl⟩
    exact ⟨_, _, ⟨b₁, h₁, rfl⟩, ⟨b₂, h₂, rfl⟩, rfl⟩
  · rintro ⟨_, _, ⟨b₁, h₁, rfl⟩, ⟨b₂, h₂, rfl⟩, rfl⟩
    exact ⟨_, ⟨b₁, b₂, h₁, h₂, rfl⟩, rfl⟩

/-- Compiling and evaluating is reading nodes that have a key. -/
theorem exists_compile_evaluate_iff {limits : Limits} {template key : String} :
    (∃ k, Compiler.compile ⟨R, limits⟩ template = .ok k ∧ k.evaluate ctx = key) ↔
      ∃ nodes, parse limits template = .ok nodes ∧ keyOf R ctx nodes = some key := by
  simp only [keyOf_eq_some_iff]
  constructor
  · rintro ⟨k, hk, rfl⟩
    obtain ⟨nodes, hp, hb⟩ := exists_compile_iff.1 ⟨k, hk, rfl⟩
    exact ⟨nodes, hp, _, hb, rfl⟩
  · rintro ⟨nodes, hp, b, hb, rfl⟩
    obtain ⟨k, hk, rfl⟩ := exists_compile_iff.2 ⟨nodes, hp, hb⟩
    exact ⟨k, hk, rfl⟩

end CacheKeys.Template
