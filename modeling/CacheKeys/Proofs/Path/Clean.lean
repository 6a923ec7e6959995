import Mathlib
import CacheKeys.Proofs.Path.Walk

/-! # Clean paths

A clean path is its route, written down: `clean` stacks the elements that `Route.enter` keeps
(`clean_eq_text`), and a route is found again in its text (`routeOf_text`).  So two paths have the
same clean path if and only if they lead to the same place from everywhere.  No element makes the
stack longer than it is itself, with its slash (`span_push_le`), so no path that leads there is
shorter (`clean_represents_walk`). -/

namespace CacheKeys.Path

/-! ### Slashes -/

theorem pieces_append_slash_append (p q : String) :
    Text.pieces '/' (p ++ "/" ++ q) = Text.pieces '/' p ++ Text.pieces '/' q :=
  Text.pieces_append_singleton_append '/' p q

theorem pieces_empty : Text.pieces '/' "" = [""] := Text.pieces_of_notMem (by simp)

theorem pieces_slash_append (q : String) :
    Text.pieces '/' ("/" ++ q) = "" :: Text.pieces '/' q := by
  rw [← String.empty_append (s := "/"), pieces_append_slash_append, pieces_empty]
  rfl

theorem pieces_append_slash (p : String) :
    Text.pieces '/' (p ++ "/") = Text.pieces '/' p ++ [""] := by
  rw [← pieces_empty, ← pieces_append_slash_append, String.append_empty]

theorem pieces_intercalate_slash {es : List String} (hslash : ∀ e ∈ es, '/' ∉ e.toList)
    (hne : es ≠ []) : Text.pieces '/' (String.intercalate "/" es) = es :=
  Text.pieces_intercalate hslash hne

theorem isRooted_append {p : String} (h : p ≠ "") (q : String) :
    isRooted (p ++ q) = isRooted p := by
  have hne : p.toList ≠ [] := by simpa using h
  obtain ⟨c, cs, hcs⟩ := List.exists_cons_of_ne_nil hne
  simp [isRooted, hcs]

theorem isRooted_slash_append (q : String) : isRooted ("/" ++ q) = true := by
  simp [isRooted]

theorem exists_of_isRooted {p : String} (h : isRooted p = true) : ∃ q, p = "/" ++ q := by
  cases hcs : p.toList with
  | nil => simp [isRooted, hcs] at h
  | cons c cs =>
      obtain rfl : c = '/' := by simpa [isRooted, hcs] using h
      exact ⟨String.ofList cs, by rw [← String.toList_inj, hcs]; simp⟩

/-! ### Stacks of elements -/

section
variable (rooted : Bool) (stack : List String)

@[simp] theorem push_empty : push rooted stack "" = stack := by simp [push]

@[simp] theorem push_dot : push rooted stack "." = stack := by simp [push]

@[simp] theorem push_name (n : Name) : push rooted stack n = n.1 :: stack := by
  simp [push, n.2.1, n.2.2.1, n.2.2.2.1]

@[simp] theorem push_up_name (n : Name) : push rooted (n.1 :: stack) ".." = stack := by
  simp [push, n.2.2.2.1]

end

/-! ### Routes as texts -/

namespace Route

variable {r : Route} {element : String}

/-- The elements of a route, from the last one. -/
def stack : Route → List String
  | absolute names => names.map Subtype.val
  | relative ups names => names.map Subtype.val ++ List.replicate ups ".."

/-- The path that is written for a route. -/
def text (r : Route) : String :=
  if r.isAbsolute then "/" ++ String.intercalate "/" r.stack.reverse
  else if r.stack = [] then "."
  else String.intercalate "/" r.stack.reverse

/-- The elements that are stacked for a path are those of its route. -/
theorem stack_enter (h : '/' ∉ element.toList) :
    (r.enter element).stack = push r.isAbsolute r.stack element := by
  rcases element_cases h with rfl | rfl | rfl | ⟨n, rfl⟩
  · rw [enter_empty, push_empty]
  · rw [enter_dot, push_dot]
  · cases r with
    | absolute names =>
        cases names with
        | nil => rfl
        | cons n names => simp [enter, stack]
    | relative ups names =>
        cases names with
        | nil =>
            -- two dots are stacked on two dots only
            cases ups with
            | zero => rfl
            | succ ups => rfl
        | cons n names => simp [enter, stack]
  · cases r with
    | absolute names => simp [enter, stack]
    | relative ups names => simp [enter, stack, n.2.2.2.1]

theorem stack_foldl_enter {es : List String} (h : ∀ e ∈ es, '/' ∉ e.toList) :
    (es.foldl enter r).stack = es.foldl (push r.isAbsolute) r.stack := by
  induction es generalizing r with
  | nil => rfl
  | cons e es ih =>
      obtain ⟨he, hes⟩ := List.forall_mem_cons.1 h
      rw [List.foldl_cons, List.foldl_cons, ih hes, isAbsolute_enter, stack_enter he]

theorem stack_start (rooted : Bool) : (start rooted).stack = [] := by
  cases rooted <;> rfl

/-- An element of a route is a name or two dots. -/
theorem of_mem_stack (h : element ∈ r.stack) :
    element ≠ "" ∧ element ≠ "." ∧ '/' ∉ element.toList := by
  have hname : ∀ {names : List Name}, element ∈ names.map Subtype.val →
      element ≠ "" ∧ element ≠ "." ∧ '/' ∉ element.toList := by
    intro names hmem
    obtain ⟨n, -, rfl⟩ := List.mem_map.1 hmem
    exact ⟨n.2.1, n.2.2.1, n.2.2.2.2⟩
  cases r with
  | absolute names => exact hname h
  | relative ups names =>
      rcases List.mem_append.1 h with hmem | hmem
      · exact hname hmem
      · obtain rfl := List.eq_of_mem_replicate hmem
        decide

/-- The text between the slashes of a route. -/
theorem pieces_joined (hne : r.stack ≠ []) :
    Text.pieces '/' (String.intercalate "/" r.stack.reverse) = r.stack.reverse := by
  refine pieces_intercalate_slash ?_ (by simpa using hne)
  intro e he
  exact (of_mem_stack (List.mem_reverse.1 he)).2.2

theorem empty_notMem_pieces_joined (hne : r.stack ≠ []) :
    "" ∉ Text.pieces '/' (String.intercalate "/" r.stack.reverse) := by
  rw [pieces_joined hne, List.mem_reverse]
  exact fun h => (of_mem_stack h).1 rfl

theorem joined_ne_empty (hne : r.stack ≠ []) : String.intercalate "/" r.stack.reverse ≠ "" := by
  intro h
  apply empty_notMem_pieces_joined hne
  rw [h, pieces_empty]
  exact List.mem_singleton_self ""

theorem isRooted_joined (hne : r.stack ≠ []) :
    isRooted (String.intercalate "/" r.stack.reverse) = false := by
  rw [Bool.eq_false_iff]
  intro h
  obtain ⟨q, hq⟩ := exists_of_isRooted h
  apply empty_notMem_pieces_joined hne
  rw [hq, pieces_slash_append]
  exact List.mem_cons_self

theorem isRooted_text : isRooted r.text = r.isAbsolute := by
  unfold text
  split
  · next h => rw [isRooted_slash_append, h]
  · next h =>
    split
    · simp [isRooted, h]
    · next hne => rw [isRooted_joined hne, Bool.eq_false_iff.2 h]

/-- The elements of a route make the route. -/
theorem foldl_enter_stack (r : Route) : r.stack.reverse.foldl enter (start r.isAbsolute) = r := by
  have hups : ∀ ups k, (List.replicate ups "..").foldl enter (relative k []) =
      relative (k + ups) [] := by
    intro ups
    induction ups with
    | zero => simp
    | succ ups ih =>
        intro k
        rw [List.replicate_succ, List.foldl_cons]
        simp [enter, ih, Nat.add_comm, Nat.add_left_comm]
  cases r with
  | absolute names =>
      induction names with
      | nil => rfl
      | cons n names ih =>
          simp only [stack, isAbsolute, List.map_cons, List.reverse_cons, List.foldl_append] at ih ⊢
          rw [ih]
          simp [enter]
  | relative ups names =>
      induction names with
      | nil => simpa [stack, start, isAbsolute] using hups ups 0
      | cons n names ih =>
          simp only [stack, isAbsolute, List.map_cons, List.cons_append, List.reverse_cons,
            List.foldl_append] at ih ⊢
          rw [ih]
          simp [enter, n.2.2.2.1]

/-- A route is found again in its text. -/
theorem routeOf_text (r : Route) : routeOf r.text = r := by
  have hroute : routeOf r.text = (Text.pieces '/' r.text).foldl enter (start r.isAbsolute) := by
    rw [routeOf, isRooted_text]
  rw [hroute]
  conv_rhs => rw [← foldl_enter_stack r]
  unfold text
  split
  · rw [pieces_slash_append, List.foldl_cons, enter_empty]
    by_cases hne : r.stack = []
    · simp [hne, pieces_empty]
    · rw [pieces_joined hne]
  · split
    · next hnil =>
      have hdot : Text.pieces '/' "." = ["."] := Text.pieces_of_notMem (by decide)
      simp [hdot, hnil]
    · next hne => rw [pieces_joined hne]

end Route

/-! ### Clean paths -/

theorem elements_eq (p : String) : elements p = (routeOf p).stack.reverse := by
  rw [elements, routeOf, Route.stack_foldl_enter fun e he => Text.notMem_of_mem_pieces he,
    Route.isAbsolute_start, Route.stack_start]

theorem clean_eq_text (p : String) : clean p = (routeOf p).text := by
  unfold clean Route.text
  rw [elements_eq, isAbsolute_routeOf]
  by_cases hnil : (routeOf p).stack = []
  · simp [hnil]
  · simp [hnil, Route.joined_ne_empty hnil]

theorem clean_ne_empty (p : String) : clean p ≠ "" := by
  simp only [clean]
  split
  · simp
  · split
    · decide
    · next h => simpa using h

theorem clean_eq_clean_iff {p q : String} : clean p = clean q ↔ routeOf p = routeOf q := by
  rw [clean_eq_text, clean_eq_text]
  constructor
  · intro h
    rw [← Route.routeOf_text (routeOf p), h, Route.routeOf_text]
  · exact congrArg Route.text

theorem routeOf_clean (p : String) : routeOf (clean p) = routeOf p := by
  rw [clean_eq_text, Route.routeOf_text]

theorem clean_clean (p : String) : clean (clean p) = clean p :=
  clean_eq_clean_iff.2 (routeOf_clean p)

/-! ### Sizes -/

/-- The size of elements with a slash behind each. -/
def span (es : List String) : ℕ := (es.map fun e => e.utf8ByteSize + 1).sum

theorem span_cons (e : String) (es : List String) :
    span (e :: es) = e.utf8ByteSize + 1 + span es := by
  simp [span]

theorem span_pieces (p : String) : span (Text.pieces '/' p) = p.utf8ByteSize + 1 :=
  (Text.utf8ByteSize_add_eq_sum '/' p).symm

theorem span_reverse (es : List String) : span es.reverse = span es := by
  rw [span, List.map_reverse, List.sum_reverse]
  rfl

theorem utf8ByteSize_joined (es : List String) :
    (String.intercalate "/" es).utf8ByteSize = span es - 1 := by
  by_cases hne : es = []
  · simp [hne, span]
  · have h : (String.intercalate "/" es).utf8ByteSize + 1 = span es :=
      Text.utf8ByteSize_intercalate '/' hne
    omega

/-- An element makes the stack at most by its own size longer. -/
theorem span_push_le (rooted : Bool) (stack : List String) (e : String) :
    span (push rooted stack e) ≤ span (e :: stack) := by
  have hstack : span stack ≤ span (e :: stack) := by
    rw [span_cons]
    omega
  unfold push
  split
  · exact hstack
  · split
    · cases stack with
      | nil =>
          cases rooted with
          | false => exact le_rfl
          | true => exact hstack
      | cons top rest =>
          have hrest : span rest ≤ span (e :: top :: rest) := by
            rw [span_cons, span_cons]
            omega
          dsimp only
          split
          · split
            · exact hstack
            · exact le_rfl
          · exact hrest
    · exact le_rfl

theorem span_foldl_push_le (rooted : Bool) (es stack : List String) :
    span (es.foldl (push rooted) stack) ≤ span stack + span es := by
  induction es generalizing stack with
  | nil => exact le_rfl
  | cons e es ih =>
      have hstep := span_push_le rooted stack e
      have hrest := ih (push rooted stack e)
      rw [span_cons] at hstep ⊢
      rw [List.foldl_cons]
      omega

theorem span_elements_le (p : String) : span (elements p) ≤ p.utf8ByteSize + 1 := by
  have h := span_foldl_push_le (isRooted p) (Text.pieces '/' p) []
  rw [elements, span_reverse, ← span_pieces]
  simpa [span] using h

/-- A rooted path begins with an empty element, which is not stacked. -/
theorem span_elements_le_of_isRooted {p : String} (h : isRooted p = true) :
    span (elements p) ≤ p.utf8ByteSize := by
  obtain ⟨q, rfl⟩ := exists_of_isRooted h
  have hle := span_foldl_push_le true (Text.pieces '/' q) []
  have hskip : elements ("/" ++ q) = ((Text.pieces '/' q).foldl (push true) []).reverse := by
    rw [elements, h, pieces_slash_append, List.foldl_cons]
    rfl
  have hsize : ("/" ++ q).utf8ByteSize = q.utf8ByteSize + 1 := by
    rw [String.utf8ByteSize_append, Nat.add_comm]
    rfl
  rw [hskip, span_reverse, hsize, ← span_pieces]
  simpa [span] using hle

theorem utf8ByteSize_clean_le {p : String} (hne : p ≠ "") :
    (clean p).utf8ByteSize ≤ p.utf8ByteSize := by
  have hpos : 0 < p.utf8ByteSize := by
    rw [Nat.pos_iff_ne_zero]
    simpa using hne
  have hsmall : "/".utf8ByteSize = 1 ∧ ".".utf8ByteSize = 1 := by decide
  have hjoined := utf8ByteSize_joined (elements p)
  simp only [clean]
  split
  · next hrooted =>
    have hspan := span_elements_le_of_isRooted hrooted
    rw [String.utf8ByteSize_append]
    omega
  · have hspan := span_elements_le p
    split
    · omega
    · omega

/-! ### The shape of clean paths -/

/-- After the slash of a rooted path there are names only, and in any other path names after two
dots any number of times. -/
def IsTidy (rooted : Bool) (path : String) : Prop :=
  ∃ body ups, ∃ names : List Name, path = (if rooted then "/" else "") ++ body ∧
    Text.pieces '/' body = List.replicate ups ".." ++ names.map Subtype.val ∧
    (rooted = true → ups = 0)

theorem isTidy_clean (p : String) :
    clean p = "." ∨ clean p = "/" ∨ IsTidy (isRooted p) (clean p) := by
  rw [clean_eq_text, ← isAbsolute_routeOf]
  generalize routeOf p = r
  unfold Route.text
  by_cases hnil : r.stack = []
  · cases r.isAbsolute with
    | true => simp [hnil]
    | false => simp [hnil]
  · have hpieces := Route.pieces_joined hnil
    refine .inr (.inr ?_)
    cases r with
    | absolute names =>
        refine ⟨_, 0, names.reverse, rfl, hpieces.trans ?_, fun _ => rfl⟩
        simp [Route.stack]
    | relative ups names =>
        refine ⟨_, ups, names.reverse, ?_, hpieces.trans ?_, fun h => by cases h⟩
        · simp [Route.isAbsolute, hnil]
        · simp [Route.stack]

/-- A clean path stands for all paths that lead to the same place as it does from everywhere, and
none of them that is not empty is shorter.  It has no elements that do nothing and takes back no
name of its own. -/
theorem clean_represents_walk (p : String) :
    (∀ q, clean p = clean q ↔ ∀ dir, walk dir p = walk dir q) ∧
    (∀ dir, walk dir (clean p) = walk dir p) ∧ clean (clean p) = clean p ∧
    (∀ q, q ≠ "" → (∀ dir, walk dir q = walk dir p) →
      (clean p).utf8ByteSize ≤ q.utf8ByteSize) ∧
    (clean p = "." ∨ clean p = "/" ∨ IsTidy (isRooted p) (clean p)) := by
  refine ⟨fun q => clean_eq_clean_iff.trans forall_walk_eq_iff.symm,
    forall_walk_eq_iff.2 (routeOf_clean p), clean_clean p, ?_, isTidy_clean p⟩
  intro q hne hwalk
  rw [← clean_eq_clean_iff.2 (forall_walk_eq_iff.1 hwalk)]
  exact utf8ByteSize_clean_le hne

theorem clean_represents_walk_of_detour :
    clean "/../é//./b/../c/" = "/é/c" ∧ "/é/c/x/.." ≠ "" ∧
    (∀ dir, walk dir "/é/c/x/.." = walk dir "/../é//./b/../c/") ∧
    (clean "/../é//./b/../c/").utf8ByteSize ≤ "/é/c/x/..".utf8ByteSize := by
  have hclean : clean "/../é//./b/../c/" = "/é/c" := by decide +kernel
  have hwalk : ∀ dir, walk dir "/é/c/x/.." = walk dir "/../é//./b/../c/" :=
    forall_walk_eq_iff.2 (by decide +kernel)
  obtain ⟨-, -, -, hshortest, -⟩ := clean_represents_walk "/../é//./b/../c/"
  exact ⟨hclean, by decide, hwalk, hshortest "/é/c/x/.." (by decide) hwalk⟩

end CacheKeys.Path
