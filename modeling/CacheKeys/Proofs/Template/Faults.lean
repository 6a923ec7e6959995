import Mathlib
import CacheKeys.Proofs.Template.Meaning

/-! # Faults of compiled templates

A stage is at fault if it reads a value that the context does not have or calls a function with a
wrong number of arguments.  `FaultAt n path s` finds the faults of `s` against contexts of `n`
values at any depth; `path` lists the calls around them.  Compiling knows of all of them: there are
none if and only if there are no diagnostics and no index is read that is too great
(`lowerAll_faultless_iff`).  `Stage.renderStrictly` evaluates without a marker for faults, and stops
at one instead; where there are none it never stops (`renderStrictly_eq_some`). -/

namespace CacheKeys.Template

/-! ### Faults -/

/-- The passage of a value from the argument at a position to the call around it. -/
structure Passage where
  function : String
  position : ℕ
  deriving DecidableEq

/-- A fault in a stage, for contexts of `n` values.  The calls that it stands in are listed from the
outermost one. -/
inductive FaultAt (n : ℕ) : List Passage → Stage → Prop
  | lookup {index : ℕ} : n ≤ index → FaultAt n [] (.argRef index)
  | count {f : TextFunction} {args : List Stage} :
      f.arity.accepts args.length = false → FaultAt n [] (.call f args)
  | argument {f : TextFunction} {args : List Stage} {s : Stage} {i : ℕ} {path : List Passage} :
      args[i]? = some s → FaultAt n path s → FaultAt n (⟨f.name, i⟩ :: path) (.call f args)
  | part {parts : List Stage} {s : Stage} {path : List Passage} :
      s ∈ parts → FaultAt n path s → FaultAt n path (.concat parts)

def Faultless (n : ℕ) (s : Stage) : Prop := ∀ path, ¬FaultAt n path s

variable {n : ℕ}

theorem faultless_literal (n : ℕ) (text : String) : Faultless n (.literal text) := by
  intro path h
  cases h

theorem faultless_argRef_iff {index : ℕ} : Faultless n (.argRef index) ↔ index < n := by
  constructor
  · intro h
    by_contra hi
    exact h [] (.lookup (not_lt.1 hi))
  · intro hi path h
    cases h with
    | lookup hn => omega

theorem faultless_call_iff {f : TextFunction} {args : List Stage} :
    Faultless n (.call f args) ↔
      f.arity.accepts args.length = true ∧ ∀ s ∈ args, Faultless n s := by
  constructor
  · intro h
    constructor
    · by_contra hc
      exact h [] (.count (Bool.not_eq_true _ ▸ hc))
    · intro s hs path hp
      obtain ⟨i, hi⟩ := List.mem_iff_getElem?.1 hs
      exact h _ (.argument hi hp)
  · rintro ⟨hc, hargs⟩ path h
    cases h with
    | count hn => rw [hc] at hn; cases hn
    | argument hi hp => exact hargs _ (List.mem_of_getElem? hi) _ hp

theorem faultless_concat_iff {parts : List Stage} :
    Faultless n (.concat parts) ↔ ∀ s ∈ parts, Faultless n s := by
  constructor
  · intro h s hs path hp
    exact h path (.part hs hp)
  · intro h path hp
    cases hp with
    | part hs hp => exact h _ hs _ hp

/-! ### What compiling knows -/

theorem forall_mem_maxIndex_iff {a b : Option ℕ} :
    (∀ i ∈ Stage.maxIndex a b, i < n) ↔ (∀ i ∈ a, i < n) ∧ ∀ i ∈ b, i < n := by
  cases a <;> cases b <;> simp [Stage.maxIndex]

variable {R : Registry}

theorem lower_call_eq_ok_iff {name : String} {args : List Expr} {offset : ℕ}
    {r : Stage × List Diagnostic} :
    lower R (.call name args offset) = .ok r ↔
      ∃ f rs, R.get? name = some f ∧ lowerAll R args = .ok rs ∧
        r = (.call f rs.1, (if f.arity.accepts args.length then []
          else [⟨offset, name, f.arity, args.length⟩]) ++ rs.2) := by
  rw [lower]
  cases R.get? name with
  | none => simp
  | some f =>
      cases lowerAll R args with
      | error e => simp
      | ok rs =>
          constructor
          · intro h
            exact ⟨f, rs, rfl, rfl, (Except.ok.inj h).symm⟩
          · rintro ⟨_, _, hf, hrs, rfl⟩
            cases hf
            cases hrs
            rfl

theorem lower_concat_eq_ok_iff {parts : List Expr} {r : Stage × List Diagnostic} :
    lower R (.concat parts) = .ok r ↔
      ∃ rs, lowerAll R parts = .ok rs ∧ r = (.concat rs.1, rs.2) := by
  rw [lower]
  cases lowerAll R parts with
  | error e => simp
  | ok rs => simp [eq_comm]

theorem length_of_lowerAll {es : List Expr} {r : List Stage × List Diagnostic}
    (h : lowerAll R es = .ok r) : r.1.length = es.length := by
  induction es generalizing r with
  | nil => cases h; rfl
  | cons e es ih =>
      obtain ⟨s, rs, -, hrs, rfl⟩ := lowerAll_cons_eq_ok_iff.1 h
      simp [ih hrs]

/-- Arguments keep their positions. -/
theorem getElem?_lowerAll {es : List Expr} {r : List Stage × List Diagnostic}
    (h : lowerAll R es = .ok r) {i : ℕ} {e : Expr} (he : es[i]? = some e) :
    ∃ s, r.1[i]? = some s.1 ∧ lower R e = .ok s := by
  induction es generalizing r i with
  | nil => simp at he
  | cons e' es ih =>
      obtain ⟨s, rs, hs, hrs, rfl⟩ := lowerAll_cons_eq_ok_iff.1 h
      cases i with
      | zero =>
          obtain rfl : e' = e := by simpa using he
          exact ⟨s, rfl, hs⟩
      | succ i => exact ih hrs (by simpa using he)

mutual

/-- A node without diagnostics that reads no index beyond the context has no faults. -/
theorem lower_faultless_iff : ∀ (e : Expr) {r : Stage × List Diagnostic}, lower R e = .ok r →
    (Faultless n r.1 ↔ r.2 = [] ∧ ∀ i ∈ r.1.maxArgIndex, i < n)
  | .literal text, r, h => by
      cases h
      simp [faultless_literal, Stage.maxArgIndex]
  | .argRef index, r, h => by
      cases h
      simp [faultless_argRef_iff, Stage.maxArgIndex]
  | .call name args offset, r, h => by
      obtain ⟨f, rs, -, hrs, rfl⟩ := lower_call_eq_ok_iff.1 h
      have hl := length_of_lowerAll hrs
      simp only [faultless_call_iff, lowerAll_faultless_iff args hrs, Stage.maxArgIndex, hl]
      cases f.arity.accepts args.length <;> simp
  | .concat parts, r, h => by
      obtain ⟨rs, hrs, rfl⟩ := lower_concat_eq_ok_iff.1 h
      simp only [faultless_concat_iff, lowerAll_faultless_iff parts hrs, Stage.maxArgIndex]

theorem lowerAll_faultless_iff : ∀ (es : List Expr) {r : List Stage × List Diagnostic},
    lowerAll R es = .ok r →
    ((∀ s ∈ r.1, Faultless n s) ↔ r.2 = [] ∧ ∀ i ∈ Stage.maxArgIndexAll r.1, i < n)
  | [], r, h => by
      cases h
      simp [Stage.maxArgIndexAll]
  | e :: es, r, h => by
      obtain ⟨s, rs, hs, hrs, rfl⟩ := lowerAll_cons_eq_ok_iff.1 h
      rw [List.forall_mem_cons, lower_faultless_iff e hs, lowerAll_faultless_iff es hrs,
        Stage.maxArgIndexAll, forall_mem_maxIndex_iff, List.append_eq_nil_iff]
      tauto

end

/-! ### The functions of a template -/

/-- All functions in the stage have a property. -/
inductive Stage.Calls (P : TextFunction → Prop) : Stage → Prop
  | literal (text : String) : Calls P (.literal text)
  | argRef (index : ℕ) : Calls P (.argRef index)
  | call {f : TextFunction} {args : List Stage} :
      P f → (∀ s ∈ args, Calls P s) → Calls P (.call f args)
  | concat {parts : List Stage} : (∀ s ∈ parts, Calls P s) → Calls P (.concat parts)

mutual

/-- Names are resolved to registered functions. -/
theorem calls_of_lower {P : TextFunction → Prop} (hP : ∀ name f, R.get? name = some f → P f) :
    ∀ (e : Expr) {r : Stage × List Diagnostic}, lower R e = .ok r → r.1.Calls P
  | .literal text, r, h => by
      cases h
      exact .literal text
  | .argRef index, r, h => by
      cases h
      exact .argRef index
  | .call name args offset, r, h => by
      obtain ⟨f, rs, hf, hrs, rfl⟩ := lower_call_eq_ok_iff.1 h
      exact .call (hP name f hf) (calls_of_lowerAll hP args hrs)
  | .concat parts, r, h => by
      obtain ⟨rs, hrs, rfl⟩ := lower_concat_eq_ok_iff.1 h
      exact .concat (calls_of_lowerAll hP parts hrs)

theorem calls_of_lowerAll {P : TextFunction → Prop} (hP : ∀ name f, R.get? name = some f → P f) :
    ∀ (es : List Expr) {r : List Stage × List Diagnostic}, lowerAll R es = .ok r →
    ∀ s ∈ r.1, s.Calls P
  | [], r, h => by
      cases h
      simp
  | e :: es, r, h => by
      obtain ⟨s, rs, hs, hrs, rfl⟩ := lowerAll_cons_eq_ok_iff.1 h
      exact List.forall_mem_cons.2 ⟨calls_of_lower hP e hs, calls_of_lowerAll hP es hrs⟩

end

/-! ### Evaluation that stops at faults -/

/-- The text of a call; none if it is a fault.  `badType` is the marker of an argument that is no
integer. -/
def invokeStrictly (badType : String) (f : TextFunction) (args : Arguments) : Option String :=
  if f.arity.accepts args.size then
    match f.meaning args with
    | .ok text => some text
    | .error .badType => some badType
    | .error .argCount => none
  else none

mutual

/-- The text of a stage; none if a fault is reached. -/
def Stage.renderStrictly (badType : String) (ctx : Context) : Stage → Option String
  | .literal text => some text
  | .argRef index => ctx.get? index
  | .call f args =>
    if f.arity.accepts args.length then
      (renderAllStrictly badType ctx args).bind fun values => invokeStrictly badType f ⟨values⟩
    else none
  | .concat parts => (renderAllStrictly badType ctx parts).map String.join

def Stage.renderAllStrictly (badType : String) (ctx : Context) :
    List Stage → Option (List String)
  | [] => some []
  | s :: ss =>
    (s.renderStrictly badType ctx).bind fun text =>
      (renderAllStrictly badType ctx ss).map (text :: ·)

end

/-- The key for a context; none if a fault is reached. -/
def Compiled.evaluateStrictly (badType : String) (t : Compiled) (ctx : Context) : Option String :=
  (Stage.renderAllStrictly badType ctx t.stages).map String.join

/-- The function refuses no number of arguments that its arity accepts. -/
def KeepsArity (f : TextFunction) : Prop :=
  ∀ args : Arguments, f.arity.accepts args.size = true → f.meaning args ≠ .error .argCount

theorem invokeStrictly_eq_some {f : TextFunction} {args : Arguments} (hf : KeepsArity f)
    (ha : f.arity.accepts args.size = true) (marker : Sentinel → String) :
    invokeStrictly (marker .badType) f args = some (f.invokeWith marker args) := by
  have hs := hf args ha
  rw [invokeStrictly, TextFunction.invokeWith, if_pos ha, if_pos ha]
  cases hm : f.meaning args with
  | ok text => rfl
  | error e =>
      cases e with
      | badType => rfl
      | argCount => exact absurd hm hs

mutual

/-- Without faults the evaluation does not stop, and its text does not depend on the marker of
faults. -/
theorem renderStrictly_eq_some (marker : Sentinel → String) (ctx : Context) : ∀ (s : Stage),
    s.Calls KeepsArity → Faultless ctx.size s →
    s.renderStrictly (marker .badType) ctx = some (s.renderWith marker ctx)
  | .literal text, _, _ => rfl
  | .argRef index, _, hs => by
      have hi : index < ctx.values.length := faultless_argRef_iff.1 hs
      have hg : ctx.get? index = some ctx.values[index] := List.getElem?_eq_getElem hi
      rw [Stage.renderStrictly, Stage.renderWith, hg, Option.getD_some]
  | .call f args, .call hf hargs, hs => by
      obtain ⟨ha, has⟩ := faultless_call_iff.1 hs
      have hv : f.arity.accepts
          (Arguments.size ⟨Stage.renderAllWith marker ctx args⟩) = true := by
        rwa [Arguments.size, Stage.length_renderAllWith]
      rw [Stage.renderStrictly, Stage.renderWith, if_pos ha, if_pos ha,
        renderAllStrictly_eq_some marker ctx args hargs has, Option.bind_some,
        invokeStrictly_eq_some hf hv]
  | .concat parts, .concat hparts, hs => by
      rw [Stage.renderStrictly, Stage.renderWith,
        renderAllStrictly_eq_some marker ctx parts hparts (faultless_concat_iff.1 hs),
        Option.map_some]

theorem renderAllStrictly_eq_some (marker : Sentinel → String) (ctx : Context) :
    ∀ (ss : List Stage), (∀ s ∈ ss, s.Calls KeepsArity) → (∀ s ∈ ss, Faultless ctx.size s) →
    Stage.renderAllStrictly (marker .badType) ctx ss = some (Stage.renderAllWith marker ctx ss)
  | [], _, _ => rfl
  | s :: ss, hc, hs => by
      obtain ⟨hc₀, hcs⟩ := List.forall_mem_cons.1 hc
      obtain ⟨hs₀, hss⟩ := List.forall_mem_cons.1 hs
      rw [Stage.renderAllStrictly, renderStrictly_eq_some marker ctx s hc₀ hs₀, Option.bind_some,
        renderAllStrictly_eq_some marker ctx ss hcs hss, Option.map_some, Stage.renderAllWith]

end

end CacheKeys.Template
