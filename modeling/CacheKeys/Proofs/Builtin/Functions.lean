import Mathlib
import CacheKeys.Builtin.Registry

/-! # Builtin functions

Builtin functions are registered under their own names, and what they refuse is text that is no
integer.  A call with as many arguments as its function takes has the text that the function means.
-/

namespace CacheKeys

/-! ### Names of builtin functions -/

/-- The function that was registered last under a name is found. -/
theorem Registry.get?_registerAll (fs : List TextFunction) (R : Registry) (name : String) :
    (R.registerAll fs).get? name = (fs.reverse.find? fun f => f.name == name).or (R.get? name) := by
  induction fs generalizing R with
  | nil => rfl
  | cons f fs ih =>
      rw [show R.registerAll (f :: fs) = (R.register f).registerAll fs from rfl, ih,
        get?_register, List.reverse_cons, List.find?_append, Option.or_assoc]
      congr 1
      by_cases hn : name = f.name
      · simp [hn]
      · simp [hn, Ne.symm hn]

theorem Registry.get?_builtin (name : String) :
    builtin.get? name = Builtin.functions.reverse.find? fun f => f.name == name := by
  rw [builtin, ofList, get?_registerAll]
  exact Option.or_none

/-- A builtin function is registered under its own name. -/
theorem Registry.mem_of_get?_builtin {name : String} {f : TextFunction}
    (h : builtin.get? name = some f) : f ∈ Builtin.functions ∧ f.name = name := by
  rw [get?_builtin] at h
  exact ⟨List.mem_reverse.1 (List.mem_of_find?_eq_some h), by simpa using List.find?_some h⟩

theorem Registry.get?_builtin_of_mem {f : TextFunction} (h : f ∈ Builtin.functions) :
    builtin.get? f.name = some f := by
  rw [get?_builtin]
  simp only [Builtin.functions, List.mem_cons, List.not_mem_nil, or_false] at h
  rcases h with rfl | rfl | rfl | rfl | rfl | rfl | rfl | rfl <;> rfl

/-! ### Calls with as many arguments as a function takes -/

theorem TextFunction.invokeWith_of_ok {marker : Sentinel → String} {f : TextFunction}
    {args : Arguments} {text : String} (h : f.arity.accepts args.size = true)
    (ho : f.meaning args = .ok text) : f.invokeWith marker args = text := by
  rw [invokeWith, if_pos h, ho]

theorem TextFunction.invokeWith_of_error {marker : Sentinel → String} {f : TextFunction}
    {args : Arguments} {s : Sentinel} (h : f.arity.accepts args.size = true)
    (ho : f.meaning args = .error s) : f.invokeWith marker args = marker s := by
  rw [invokeWith, if_pos h, ho]

/-! ### Refused arguments -/

theorem Arguments.readInt_eq_error {s : String} {e : Sentinel} (h : readInt s = .error e) :
    e = .badType := by
  unfold readInt at h
  split at h
  · cases h
  · exact (Except.error.inj h).symm

theorem Arguments.int?_eq_error {a : Arguments} {i : ℕ} {e : Sentinel}
    (h : a.int? i = .error e) : e = .badType := by
  unfold int? at h
  cases hg : a.get? i with
  | none => simp [hg] at h
  | some s =>
      cases hr : readInt s with
      | ok n => simp [hg, hr, Except.map] at h
      | error e' =>
          simp only [hg, hr, Except.map, Except.error.injEq] at h
          exact h ▸ readInt_eq_error hr

theorem Builtin.substr_eq_error {a : Arguments} {e : Sentinel}
    (h : substr.meaning a = .error e) : e = .badType := by
  simp only [substr, bind, Except.bind] at h
  cases hi : a.int 1 with
  | error e' =>
      simp only [hi, Except.error.injEq] at h
      exact h ▸ Arguments.readInt_eq_error hi
  | ok start =>
      cases hl : a.int? 2 with
      | error e' =>
          simp only [hi, hl, Except.error.injEq] at h
          exact h ▸ Arguments.int?_eq_error hl
      | ok length => simp [hi, hl, pure, Except.pure] at h

theorem Builtin.select_eq_error {a : Arguments} {e : Sentinel}
    (h : select.meaning a = .error e) : e = .badType := by
  simp only [select, bind, Except.bind] at h
  cases hi : a.int 1 with
  | error e' =>
      simp only [hi, Except.error.injEq] at h
      exact h ▸ Arguments.readInt_eq_error hi
  | ok index => simp [hi, pure, Except.pure] at h

end CacheKeys
