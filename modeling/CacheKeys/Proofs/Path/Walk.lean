import Mathlib
import CacheKeys.Path
import CacheKeys.Proofs.Text.Pieces

/-! # Walks along paths

`walk` is the meaning of a path: it goes from a directory along the elements of the path, one after
the other.  A `Route` is what a whole path does to every directory: it leads from the root to some
names, or up a number of directories and from there to some names.  Each element changes a route as
it changes the directory at its end (`Route.follow_enter`), so a path leads where its route does
(`walk_eq_follow`), and routes that lead to the same place from every directory are the same
(`Route.follow_inj`). -/

namespace CacheKeys.Path

/-! ### Names and directories -/

/-- The name of a directory or of a file in it. -/
def IsName (s : String) : Prop := s ≠ "" ∧ s ≠ "." ∧ s ≠ ".." ∧ '/' ∉ s.toList

instance (s : String) : Decidable (IsName s) :=
  inferInstanceAs (Decidable (s ≠ "" ∧ s ≠ "." ∧ s ≠ ".." ∧ '/' ∉ s.toList))

abbrev Name := {s : String // IsName s}

/-- Where an element of a path leads from a directory, which is given by the names on the way to it
from the root, the last one first.  Two dots take back the last name, a name is added, and the empty
element and a single dot do nothing. -/
def enter (dir : List Name) (element : String) : List Name :=
  if element = ".." then dir.tail
  else if h : IsName element then ⟨element, h⟩ :: dir
  else dir

/-- Where a path leads from a directory. -/
def walk (dir : List Name) (path : String) : List Name :=
  (Text.pieces '/' path).foldl enter (if isRooted path then [] else dir)

variable {dir names : List Name} {element : String}

@[simp] theorem enter_empty : enter dir "" = dir := by simp [enter, IsName]

@[simp] theorem enter_dot : enter dir "." = dir := by simp [enter, IsName]

@[simp] theorem enter_up : enter dir ".." = dir.tail := by simp [enter]

@[simp] theorem enter_name (n : Name) : enter dir n = n :: dir := by
  simp [enter, n.2, n.2.2.2.1]

/-- The kinds of elements. -/
theorem element_cases (h : '/' ∉ element.toList) :
    element = "" ∨ element = "." ∨ element = ".." ∨ ∃ n : Name, element = n := by
  by_cases hn : IsName element
  · exact .inr (.inr (.inr ⟨⟨element, hn⟩, rfl⟩))
  · simp only [IsName] at hn
    tauto

/-- An element that takes back no name of `dir` does nothing with `dir`. -/
theorem enter_append (h : ¬(element = ".." ∧ names = [])) :
    enter (names ++ dir) element = enter names element ++ dir := by
  unfold enter
  split
  · next hup =>
    cases names with
    | nil => exact absurd ⟨hup, rfl⟩ h
    | cons n names => rfl
  · split
    · rfl
    · rfl

/-! ### Routes -/

/-- What a path does to a directory: it leads from the root, or up a number of directories, and from
there along the names, of which the last one comes first. -/
inductive Route where
  | absolute (names : List Name)
  | relative (ups : ℕ) (names : List Name)
  deriving DecidableEq

namespace Route

variable {r r' : Route}

/-- The route of a path of which nothing has been read but whether it is rooted. -/
def start (rooted : Bool) : Route := if rooted then absolute [] else relative 0 []

def isAbsolute : Route → Bool
  | absolute _ => true
  | relative _ _ => false

/-- The directory at the end of a route that begins at a directory. -/
def follow (dir : List Name) : Route → List Name
  | absolute names => names
  | relative ups names => names ++ dir.drop ups

/-- The route with one more element. -/
def enter : Route → String → Route
  | absolute names, element => absolute (Path.enter names element)
  | relative ups names, element =>
    if element = ".." ∧ names = [] then relative (ups + 1) []
    else relative ups (Path.enter names element)

@[simp] theorem enter_empty : r.enter "" = r := by
  cases r <;> simp [enter]

@[simp] theorem enter_dot : r.enter "." = r := by
  cases r <;> simp [enter]

theorem isAbsolute_start (rooted : Bool) : (start rooted).isAbsolute = rooted := by
  cases rooted <;> rfl

theorem follow_start (rooted : Bool) :
    (start rooted).follow dir = if rooted then [] else dir := by
  cases rooted <;> rfl

theorem isAbsolute_enter : (r.enter element).isAbsolute = r.isAbsolute := by
  cases r with
  | absolute names => rfl
  | relative ups names =>
      simp only [enter]
      split
      · rfl
      · rfl

theorem isAbsolute_foldl_enter (es : List String) :
    (es.foldl enter r).isAbsolute = r.isAbsolute := by
  induction es generalizing r with
  | nil => rfl
  | cons e es ih => rw [List.foldl_cons, ih, isAbsolute_enter]

theorem follow_enter : (r.enter element).follow dir = Path.enter (r.follow dir) element := by
  cases r with
  | absolute names => rfl
  | relative ups names =>
      simp only [enter]
      split
      · next h =>
        obtain ⟨rfl, rfl⟩ := h
        simp [follow]
      · next h => exact (enter_append h).symm

theorem follow_foldl_enter (es : List String) :
    (es.foldl enter r).follow dir = es.foldl Path.enter (r.follow dir) := by
  induction es generalizing r with
  | nil => rfl
  | cons e es ih => rw [List.foldl_cons, List.foldl_cons, ih, follow_enter]

/-- Few elements leave a route as it is. -/
theorem enter_eq_self_iff (h : '/' ∉ element.toList) :
    r.enter element = r ↔
      element = "" ∨ element = "." ∨ element = ".." ∧ r = absolute [] := by
  rcases element_cases h with rfl | rfl | rfl | ⟨n, rfl⟩
  · simp
  · simp
  · cases r with
    | absolute names =>
        cases names with
        | nil => simp [enter]
        | cons n names => simp [enter]
    | relative ups names =>
        cases names with
        | nil => simp [enter]
        | cons n names => simp [enter]
  · cases r with
    | absolute names => simp [enter, n.2.1, n.2.2.1, n.2.2.2.1]
    | relative ups names => simp [enter, n.2.1, n.2.2.1, n.2.2.2.1]

theorem follow_root_relative (ups : ℕ) (names : List Name) :
    (relative ups names).follow [] = names := by
  simp [follow]

theorem length_follow_relative (ups : ℕ) (names dir : List Name) :
    ((relative ups names).follow dir).length = names.length + (dir.length - ups) := by
  simp [follow]

/-- A route that does not begin at the root leads out of a directory that is deep enough to a place
that depends on the directory. -/
theorem exists_follow_ne (ups : ℕ) (names : List Name) :
    ∃ dir, (relative ups names).follow dir ≠ names := by
  refine ⟨List.replicate (ups + 1) ⟨"a", by decide⟩, fun h => ?_⟩
  have hlength := congrArg List.length h
  rw [length_follow_relative, List.length_replicate] at hlength
  omega

/-- Routes that lead to the same place from every directory are the same.  The root tells their
names, and a directory that is deep enough tells whether and how far they go up. -/
theorem follow_inj (h : ∀ dir, r.follow dir = r'.follow dir) : r = r' := by
  have hroot := h []
  cases r with
  | absolute names =>
      cases r' with
      | absolute names' => exact congrArg absolute hroot
      | relative ups names' =>
          rw [follow_root_relative] at hroot
          obtain ⟨dir, hdir⟩ := exists_follow_ne ups names'
          exact absurd ((h dir).symm.trans hroot) hdir
  | relative ups names =>
      rw [follow_root_relative] at hroot
      cases r' with
      | absolute names' =>
          obtain ⟨dir, hdir⟩ := exists_follow_ne ups names
          exact absurd ((h dir).trans hroot.symm) hdir
      | relative ups' names' =>
          rw [follow_root_relative] at hroot
          have hlength := congrArg List.length (h (List.replicate (ups + ups') ⟨"a", by decide⟩))
          rw [length_follow_relative, length_follow_relative, List.length_replicate] at hlength
          have hups : ups = ups' := by
            rw [hroot] at hlength
            omega
          rw [hups, hroot]

end Route

/-! ### The route of a path -/

def routeOf (path : String) : Route :=
  (Text.pieces '/' path).foldl Route.enter (Route.start (isRooted path))

theorem isAbsolute_routeOf (path : String) : (routeOf path).isAbsolute = isRooted path := by
  rw [routeOf, Route.isAbsolute_foldl_enter, Route.isAbsolute_start]

theorem walk_eq_follow (dir : List Name) (path : String) :
    walk dir path = (routeOf path).follow dir := by
  rw [routeOf, Route.follow_foldl_enter, Route.follow_start, walk]

theorem forall_walk_eq_iff {p q : String} :
    (∀ dir, walk dir p = walk dir q) ↔ routeOf p = routeOf q := by
  constructor
  · intro h
    refine Route.follow_inj fun dir => ?_
    rw [← walk_eq_follow, ← walk_eq_follow, h]
  · intro h dir
    rw [walk_eq_follow, walk_eq_follow, h]

end CacheKeys.Path
