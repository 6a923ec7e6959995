import Mathlib
import CacheKeys.Proofs.Template.ErrorPositions

/-! # What the limits decide

The limits stop the reading of a template and do nothing else.  `HasThreshold f n x` says this of
something that is done under a depth limit: below `n` it is refused for its depth, and from `n` on
it ends in `x`, whatever the limit.  Opening a group is the only step with a threshold of its own,
the number of groups that are then open; in a sequence of steps the greatest threshold counts
(`HasThreshold.bind`).  A reader has no more groups open than braces have been read, so the
threshold of a template is at most the number of its opening braces (`parse_threshold`). -/

namespace CacheKeys.Template

def CompileError.IsLimit : CompileError → Prop
  | nestingTooDeep _ => True
  | templateTooLong _ _ => True
  | _ => False

/-! ### Thresholds -/

/-- What is done under a depth limit is refused below `threshold`, and from there on it ends in `x`,
which is no refusal for depth. -/
structure HasThreshold {α : Type} (f : ℕ → Except CompileError α) (threshold : ℕ)
    (x : Except CompileError α) : Prop where
  below : ∀ depth, depth < threshold → f depth = .error (.nestingTooDeep depth)
  above : ∀ depth, threshold ≤ depth → f depth = x
  notDeep : ∀ limit, x ≠ .error (.nestingTooDeep limit)

namespace HasThreshold

variable {α β : Type} {f : ℕ → Except CompileError α} {n : ℕ} {x : Except CompileError α}

theorem const (h : ∀ limit, x ≠ .error (.nestingTooDeep limit)) :
    HasThreshold (fun _ => x) 0 x := by
  refine ⟨?_, fun _ _ => rfl, h⟩
  intro depth hd
  omega

theorem map (h : HasThreshold f n x) (φ : α → β) :
    HasThreshold (fun depth => (f depth).map φ) n (x.map φ) := by
  refine ⟨?_, ?_, ?_⟩
  · intro depth hd
    simp only [h.below depth hd, Except.map]
  · intro depth hd
    simp only [h.above depth hd]
  · intro limit he
    exact h.notDeep limit (Reader.map_eq_error he)

/-- What follows an error is not done. -/
theorem bind_error {err : CompileError} (h : HasThreshold f n (.error err))
    (g : ℕ → α → Except CompileError β) :
    HasThreshold (fun depth => f depth >>= g depth) n (.error err) := by
  refine ⟨?_, ?_, ?_⟩
  · intro depth hd
    rw [h.below depth hd]
    rfl
  · intro depth hd
    rw [h.above depth hd]
    rfl
  · intro limit he
    apply h.notDeep limit
    rw [Except.error.inj he]

/-- Of two things done one after the other, the greater threshold counts. -/
theorem bind {a : α} {g : ℕ → α → Except CompileError β} {m : ℕ} {y : Except CompileError β}
    (h : HasThreshold f n (.ok a)) (hg : HasThreshold (fun depth => g depth a) m y) :
    HasThreshold (fun depth => f depth >>= g depth) (max n m) y := by
  refine ⟨?_, ?_, hg.notDeep⟩
  · intro depth hd
    by_cases hn : depth < n
    · rw [h.below depth hn]
      rfl
    · -- the first is done, so the second is refused
      have hm : depth < m := by omega
      rw [h.above depth (Nat.not_lt.1 hn)]
      exact hg.below depth hm
  · intro depth hd
    rw [h.above depth (by omega)]
    exact hg.above depth (by omega)

end HasThreshold

/-! ### One character -/

/-- A character opens at most one group, and only an opening brace does. -/
theorem Moves.length_le {offset : ℕ} {c : Char} {v v' : Nesting} (h : Moves offset c v v') :
    v'.braces.length ≤ v.braces.length + [c].count '{' := by
  cases h with
  | brace => simp
  | close => simp
  | quote => simp
  | more => simp
  | unquote => simp
  | other => simp

namespace Reader

variable {offset : ℕ} {nodes : List Expr} {g : Group} {d : Draft} {outer : List Level}

theorem hasThreshold_openGroup (offset : ℕ) (outer : List Level) :
    HasThreshold (fun depth => openGroup depth offset outer) (outer.length + 1)
      (.ok (.between (Group.start offset) outer)) := by
  refine ⟨?_, ?_, ?_⟩
  · intro depth hd
    rw [openGroup, if_pos hd]
  · intro depth hd
    rw [openGroup, if_neg (Nat.not_lt.2 hd)]
  · intro limit he
    cases he

theorem closeGroup_ne_nestingTooDeep (limit : ℕ) :
    closeGroup nodes g outer ≠ .error (.nestingTooDeep limit) := by
  intro h
  have hv := groupFails_of_value (closeGroup_eq_error h)
  generalize g.items = items at hv
  cases hv

theorem exists_threshold_readItem (offset : ℕ) (g : Group) (d : Draft) (outer : List Level)
    (c : Char) : ∃ n x, HasThreshold (fun depth => readItem depth offset g d outer c) n x ∧
      n ≤ outer.length + 1 + [c].count '{' := by
  unfold readItem
  by_cases hc : c = '{'
  · subst hc
    exact ⟨_, _, hasThreshold_openGroup offset ((g, d) :: outer), by simp⟩
  · have hb : (c == '{') = false := by simpa using hc
    simp only [hb, Bool.false_eq_true, if_false]
    refine ⟨0, _, .const ?_, Nat.zero_le _⟩
    intro limit he
    split at he
    · cases he
    · cases he

/-- Only a character that opens a group has a threshold, the number of groups that are then open. -/
theorem exists_threshold_advance (offset : ℕ) (nodes : List Expr) (place : Place) (c : Char) :
    ∃ n x, HasThreshold (fun depth => advance depth offset nodes place c) n x ∧
      n ≤ place.nesting.braces.length + [c].count '{' := by
  have hconst : ∀ x : Except CompileError (List Expr × Place),
      (∀ limit, x ≠ .error (.nestingTooDeep limit)) →
      ∃ n y, HasThreshold (fun _ => x) n y ∧
        n ≤ place.nesting.braces.length + [c].count '{' :=
    fun x hx => ⟨0, x, .const hx, Nat.zero_le _⟩
  cases place with
  | outside run =>
      simp only [advance]
      by_cases hl : c = '{'
      · subst hl
        have ho := (hasThreshold_openGroup offset []).map fun p => (withRun nodes run, p)
        exact ⟨_, _, ho, by simp [Place.nesting]⟩
      · have hb : (c == '{') = false := by simpa using hl
        simp only [hb, Bool.false_eq_true, if_false]
        apply hconst
        intro limit he
        split at he
        · cases he
        · cases he
  | between g outer =>
      simp only [advance]
      split
      · exact hconst _ fun limit he => by cases he
      · split
        · exact hconst _ closeGroup_ne_nestingTooDeep
        · obtain ⟨n, x, hx, hn⟩ := exists_threshold_readItem offset g (Draft.start offset) outer c
          have hlength : (Place.between g outer).nesting.braces.length = outer.length + 1 := by
            simp [Place.nesting]
          exact ⟨n, _, hx.map fun p => (nodes, p), by omega⟩
  | inside g d outer =>
      simp only [advance]
      split
      · exact hconst _ fun limit he => by cases he
      · split
        · exact hconst _ closeGroup_ne_nestingTooDeep
        · obtain ⟨n, x, hx, hn⟩ := exists_threshold_readItem offset g d outer c
          have hlength : (Place.inside g d outer).nesting.braces.length = outer.length + 1 := by
            simp [Place.nesting]
          exact ⟨n, _, hx.map fun p => (nodes, p), by omega⟩
  | quoted g d opened q outer =>
      simp only [advance]
      apply hconst
      intro limit he
      split at he
      · cases he
      · cases he

/-! ### Whole texts -/

theorem exists_threshold_run : ∀ (cs : List Char) (r : Reader),
    ∃ n x, HasThreshold (fun depth => r.run depth cs) n x ∧
      n ≤ r.place.nesting.braces.length + cs.count '{'
  | [], r => by
      refine ⟨0, .ok r, .const ?_, Nat.zero_le _⟩
      intro limit he
      cases he
  | c :: cs, r => by
      obtain ⟨offset, nodes, place⟩ := r
      obtain ⟨n, x, hx, hn⟩ := exists_threshold_advance offset nodes place c
      have hstep : HasThreshold (fun depth => step depth ⟨offset, nodes, place⟩ c) n
          (x.map fun a => ⟨offset + c.utf8Size, a.1, a.2⟩) := hx.map _
      have hcount : (c :: cs).count '{' = [c].count '{' + cs.count '{' := by
        rw [← List.count_append, List.singleton_append]
      simp only [run_cons]
      cases x with
      | error err =>
          refine ⟨n, .error err, hstep.bind_error fun depth r' => r'.run depth cs, ?_⟩
          rw [hcount]
          exact hn.trans (by omega)
      | ok a =>
          obtain ⟨m, y, hy, hm⟩ := exists_threshold_run cs ⟨offset + c.utf8Size, a.1, a.2⟩
          have hm : m ≤ a.2.nesting.braces.length + cs.count '{' := hm
          have hlength := (moves_of_advance (hx.above n le_rfl)).length_le
          have hn : n ≤ place.nesting.braces.length + [c].count '{' := hn
          refine ⟨max n m, y, hstep.bind (g := fun depth r' => r'.run depth cs) hy, ?_⟩
          rw [hcount]
          show max n m ≤ place.nesting.braces.length + _
          omega

theorem finish_ne_isLimit {r : Reader} {err : CompileError} (h : r.finish = .error err) :
    ¬err.IsLimit := by
  have hearly := endsEarly_of_finish h
  generalize r.place = place at hearly
  cases hearly with
  | between => exact id
  | inside => exact id
  | quoted => exact id

end Reader

theorem exists_threshold_read (cs : List Char) :
    ∃ n x, HasThreshold (fun depth => read depth cs) n x ∧ n ≤ cs.count '{' := by
  obtain ⟨n, x, hx, hn⟩ := Reader.exists_threshold_run cs Reader.start
  rw [show Reader.start.place.nesting.braces.length = 0 from rfl, Nat.zero_add] at hn
  have hread : ∀ depth, read depth cs = Reader.start.run depth cs >>= Reader.finish := by
    intro depth
    unfold read
    cases Reader.start.run depth cs with
    | error e => rfl
    | ok r => rfl
  simp only [hread]
  cases x with
  | error err => exact ⟨n, .error err, hx.bind_error fun _ => Reader.finish, hn⟩
  | ok r =>
      refine ⟨max n 0, r.finish, hx.bind (g := fun _ => Reader.finish) (.const ?_), by omega⟩
      intro limit he
      exact Reader.finish_ne_isLimit he trivial

/-- A template has one depth from which on its result does not depend on the limits, and below which
it is refused for its depth.  So greater limits change nothing but errors that limits cause. -/
theorem parse_threshold (template : String) :
    ∃ threshold result, threshold ≤ template.toList.count '{' ∧
      (∀ err, result = .error err → ¬err.IsLimit) ∧
      (∀ limits : Limits, template.utf8ByteSize ≤ limits.maxLength →
        (limits.maxDepth < threshold →
          parse limits template = .error (.nestingTooDeep limits.maxDepth)) ∧
        (threshold ≤ limits.maxDepth → parse limits template = result)) ∧
      ∀ limits limits' : Limits,
        limits.maxDepth ≤ limits'.maxDepth → limits.maxLength ≤ limits'.maxLength →
        (∀ err, parse limits template = .error err → ¬err.IsLimit) →
        parse limits' template = parse limits template := by
  obtain ⟨threshold, result, h, hcount⟩ := exists_threshold_read template.toList
  have hbelow : ∀ limits : Limits, template.utf8ByteSize ≤ limits.maxLength →
      limits.maxDepth < threshold →
      parse limits template = .error (.nestingTooDeep limits.maxDepth) := by
    intro limits hl hd
    rw [parse_eq_read hl]
    exact h.below limits.maxDepth hd
  have habove : ∀ limits : Limits, template.utf8ByteSize ≤ limits.maxLength →
      threshold ≤ limits.maxDepth → parse limits template = result := by
    intro limits hl hd
    rw [parse_eq_read hl]
    exact h.above limits.maxDepth hd
  refine ⟨threshold, result, hcount, ?_, fun limits hl => ⟨hbelow limits hl, habove limits hl⟩, ?_⟩
  · rintro err rfl
    have hp := habove ⟨threshold, template.utf8ByteSize⟩ le_rfl le_rfl
    cases err with
    | nestingTooDeep limit => exact absurd rfl (h.notDeep limit)
    | templateTooLong length limit =>
        have hl : template.utf8ByteSize < template.utf8ByteSize :=
          (parse_eq_templateTooLong_iff.1 hp).1
        omega
    | unbalancedBraces | unknownFunction | unterminatedQuote | emptyExpression
    | invalidArgumentIndex => exact id
  · intro limits limits' hd hl hlimit
    have hshort : template.utf8ByteSize ≤ limits.maxLength := by
      by_contra hlong
      exact hlimit _ (parse_eq_templateTooLong_iff.2 ⟨Nat.not_le.1 hlong, rfl, rfl⟩) trivial
    have hdeep : threshold ≤ limits.maxDepth := by
      by_contra hshallow
      exact hlimit _ (hbelow limits hshort (Nat.not_le.1 hshallow)) trivial
    rw [habove limits hshort hdeep, habove limits' (hshort.trans hl) (hdeep.trans hd)]

/-- The error at the empty group is found before the three braces behind it are opened. -/
theorem parse_threshold_before_deeper_groups :
    parse ⟨2, 20⟩ "\x7bf \x7b\x7d \x7b\x7b\x7b0\x7d\x7d\x7d\x7d" = .error (.emptyExpression 3) ∧
    parse Limits.standard "\x7bf \x7b\x7d \x7b\x7b\x7b0\x7d\x7d\x7d\x7d" =
      .error (.emptyExpression 3) ∧
    parse ⟨1, 20⟩ "\x7bf \x7b\x7d \x7b\x7b\x7b0\x7d\x7d\x7d\x7d" = .error (.nestingTooDeep 1) := by
  have hlow : parse ⟨1, 20⟩ "\x7bf \x7b\x7d \x7b\x7b\x7b0\x7d\x7d\x7d\x7d" =
      .error (.nestingTooDeep 1) := by
    decide +kernel
  have hhigh : parse ⟨2, 20⟩ "\x7bf \x7b\x7d \x7b\x7b\x7b0\x7d\x7d\x7d\x7d" =
      .error (.emptyExpression 3) := by
    decide +kernel
  obtain ⟨threshold, result, -, -, -, hraise⟩ :=
    parse_threshold "\x7bf \x7b\x7d \x7b\x7b\x7b0\x7d\x7d\x7d\x7d"
  refine ⟨hhigh, ?_, hlow⟩
  rw [← hhigh]
  refine hraise ⟨2, 20⟩ Limits.standard (by decide) (by decide) ?_
  intro err he
  rw [hhigh] at he
  cases he
  exact id

end CacheKeys.Template
