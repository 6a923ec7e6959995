import Mathlib
import CacheKeys.Metrics.Aggregate
import CacheKeys.Proofs.Metrics.Doubles
import CacheKeys.Proofs.Metrics.Sharding

/-! # Order statistics

An aggregate is told of values and merged with other aggregates; `Gathering` says in which way.  Its
statistics are those of the samples that come together in it, in any order
(`Gathering.statistics_describe_samples`).  The extremes are kept by one more sample
(`Extreme.append`); the most frequent value is found in one pass over the samples in order, in which
`Runs.Describes` holds after each of them (`Runs.Describes.step`). -/

namespace CacheKeys

open Quantity Quantity.Lawful

variable {α : Type} [Quantity α]

/-! ### Extremes -/

/-- What is known to be the extreme of samples: nothing without samples, and else one of them that
is in relation to all. -/
def Extreme (before : α → α → Bool) (xs : List α) : Option α → Prop
  | none => xs = []
  | some m => m ∈ xs ∧ ∀ x ∈ xs, before m x = true

/-- The extreme after one more sample. -/
def keep (before : α → α → Bool) (x : α) : Option α → α
  | some m => if before m x then m else x
  | none => x

omit [Quantity α] in
theorem Extreme.append {before : α → α → Bool} {xs : List α} {o : Option α}
    (h : Extreme before xs o) {x : α} (hrefl : before x x = true)
    (htotal : ∀ y ∈ xs, before y x = true ∨ before x y = true)
    (htrans : ∀ y ∈ xs, ∀ z ∈ xs, before x y = true → before y z = true → before x z = true) :
    Extreme before (xs ++ [x]) (some (keep before x o)) := by
  cases o with
  | none =>
      obtain rfl : xs = [] := h
      exact ⟨List.mem_singleton_self x, List.forall_mem_singleton.2 hrefl⟩
  | some m =>
      obtain ⟨hm, hall⟩ := h
      by_cases hmx : before m x = true
      · rw [keep, if_pos hmx]
        exact ⟨List.mem_append_left _ hm,
          List.forall_mem_append.2 ⟨hall, List.forall_mem_singleton.2 hmx⟩⟩
      · rw [keep, if_neg hmx]
        have hxm : before x m = true := (htotal m hm).resolve_left hmx
        exact ⟨List.mem_append_right _ (List.mem_singleton_self x), List.forall_mem_append.2
          ⟨fun y hy => htrans m hm y hy hxm (hall y hy), List.forall_mem_singleton.2 hrefl⟩⟩

omit [Quantity α] in
theorem Extreme.getD_of_ne_nil {before : α → α → Bool} {xs : List α} {o : Option α}
    (h : Extreme before xs o) (hne : xs ≠ []) (d : α) :
    o.getD d ∈ xs ∧ ∀ x ∈ xs, before (o.getD d) x = true := by
  cases o with
  | none => exact absurd h hne
  | some m => exact h

omit [Quantity α] in
theorem Extreme.getD_nil {before : α → α → Bool} {o : Option α} (h : Extreme before [] o)
    (d : α) : o.getD d = d := by
  cases o with
  | none => rfl
  | some m => exact absurd h.1 List.not_mem_nil

/-- The extremes of the same samples count as the same, if values that are in relation to each
other do. -/
theorem Extreme.same_of_perm {before : α → α → Bool} {xs ys : List α} {o o' : Option α}
    (h : Extreme before xs o) (h' : Extreme before ys o') (hp : xs.Perm ys)
    (hanti : ∀ x ∈ xs, ∀ y, before x y = true → before y x = true → same x y = true) {d : α}
    (hd : same d d = true) : same (o.getD d) (o'.getD d) = true := by
  by_cases hnil : xs = []
  · subst hnil
    obtain rfl := hp.nil_eq
    rw [h.getD_nil, h'.getD_nil]
    exact hd
  · obtain ⟨hmem, hall⟩ := h.getD_of_ne_nil hnil d
    obtain ⟨hmem', hall'⟩ := h'.getD_of_ne_nil (fun hnil' => hnil (hnil' ▸ hp).eq_nil) d
    exact hanti _ hmem _ (hall _ (hp.mem_iff.2 hmem')) (hall' _ (hp.mem_iff.1 hmem))

namespace Aggregate

/-- All samples are finite, and their extremes are known. -/
structure IsSound (a : Aggregate α) : Prop where
  isFinite : ∀ x ∈ a.samples.toList, Quantity.isFinite x = true
  least : Extreme atMost a.samples.toList a.least
  greatest : Extreme (fun x y => atMost y x) a.samples.toList a.greatest

theorem isSound_empty : (empty : Aggregate α).IsSound where
  isFinite := by simp [empty]
  least := rfl
  greatest := rfl

variable [Lawful α]

theorem IsSound.record {a : Aggregate α} (h : a.IsSound) (x : α) : (a.record x).IsSound := by
  by_cases hx : Quantity.isFinite x = true
  · have hsamples : (a.record x).samples.toList = a.samples.toList ++ [x] := by
      rw [samples_record]
      simp [hx]
    have hleast : (a.record x).least = some (keep atMost x a.least) := by
      rw [Aggregate.record, if_pos hx]
      cases hl : a.least with
      | none => rfl
      | some y =>
          have hy := h.least
          rw [hl] at hy
          exact congrArg some (lesser_eq (h.isFinite y hy.1) hx)
    have hgreatest :
        (a.record x).greatest = some (keep (fun x y => atMost y x) x a.greatest) := by
      rw [Aggregate.record, if_pos hx]
      cases hg : a.greatest with
      | none => rfl
      | some y =>
          have hy := h.greatest
          rw [hg] at hy
          exact congrArg some (greater_eq (h.isFinite y hy.1) hx)
    refine ⟨?_, ?_, ?_⟩
    · rw [hsamples]
      exact List.forall_mem_append.2 ⟨h.isFinite, List.forall_mem_singleton.2 hx⟩
    · rw [hsamples, hleast]
      exact h.least.append (atMost_refl x) (fun y _ => atMost_total y x)
        fun y hy z hz => atMost_trans hx (h.isFinite y hy) (h.isFinite z hz)
    · rw [hsamples, hgreatest]
      exact h.greatest.append (atMost_refl x) (fun y _ => atMost_total x y)
        fun y hy z hz hyx hzy => atMost_trans (h.isFinite z hz) (h.isFinite y hy) hx hzy hyx
  · rw [Aggregate.record, if_neg hx]
    exact h

theorem IsSound.recordAll {a : Aggregate α} (h : a.IsSound) (xs : List α) :
    (a.recordAll xs).IsSound := by
  induction xs generalizing a with
  | nil => exact h
  | cons x xs ih => exact ih (h.record x)

theorem IsSound.merge {a : Aggregate α} (h : a.IsSound) (b : Aggregate α) : (a.merge b).IsSound :=
  h.recordAll b.samples.toList

end Aggregate

/-! ### The most frequent value -/

/-- How many samples count as the same as a value. -/
def multiplicity (v : α) (xs : List α) : ℕ := xs.countP fun x => same x v

theorem multiplicity_append (v x : α) (xs : List α) :
    multiplicity v (xs ++ [x]) = multiplicity v xs + if same x v then 1 else 0 := by
  rw [multiplicity, List.countP_append, List.countP_singleton]
  rfl

theorem multiplicity_perm (v : α) {xs ys : List α} (h : xs.Perm ys) :
    multiplicity v xs = multiplicity v ys :=
  h.countP_eq _

/-- A value occurs as often as any, and none that does so is less. -/
structure IsMode (xs : List α) (v : α) : Prop where
  mem : v ∈ xs
  multiplicity_le : ∀ x ∈ xs, multiplicity x xs ≤ multiplicity v xs
  atMost_of_eq : ∀ x ∈ xs, multiplicity x xs = multiplicity v xs → atMost v x = true

/-- After a pass over samples in order the last run is that of the greatest value, and the longest
is that of the most frequent one. -/
structure Runs.Describes (r : Runs α) (xs : List α) : Prop where
  last_mem : r.last.value ∈ xs
  last_length : r.last.length = multiplicity r.last.value xs
  atMost_last : ∀ x ∈ xs, atMost x r.last.value = true
  longest_length : r.longest.length = multiplicity r.longest.value xs
  isMode : IsMode xs r.longest.value

variable [Lawful α]

theorem multiplicity_congr {v w : α} (h : same v w = true) (xs : List α) :
    multiplicity v xs = multiplicity w xs := by
  refine List.countP_congr fun x _ => ?_
  exact ⟨fun hx => same_trans hx h, fun hx => same_trans hx (same_symm h)⟩

/-- One more sample counts for the values that it is the same as. -/
theorem multiplicity_append_of_same {x y : α} (h : same x y = true) (xs : List α) :
    multiplicity y (xs ++ [x]) = multiplicity x xs + 1 := by
  rw [multiplicity_append, if_pos h, multiplicity_congr h]

/-- For any other value nothing changes, and it is among the samples before. -/
theorem multiplicity_append_of_not_same {xs : List α} {x y : α} (hx : isFinite x = true)
    (hy : y ∈ xs ++ [x]) (h : same x y = false) :
    y ∈ xs ∧ multiplicity y (xs ++ [x]) = multiplicity y xs := by
  rcases List.mem_append.1 hy with hy | hy
  · rw [multiplicity_append, h]
    exact ⟨hy, rfl⟩
  · rw [List.mem_singleton.1 hy, same_refl hx] at h
    cases h

/-- A value that becomes as frequent as the most frequent one so far and one more is that itself. -/
theorem IsMode.append_same {xs : List α} {v w x : α} (h : IsMode xs v) (hw : w ∈ xs ++ [x])
    (hx : isFinite x = true) (hxw : same x w = true)
    (hle : multiplicity v xs ≤ multiplicity x xs) : IsMode (xs ++ [x]) w := by
  -- any other value is left behind
  have hother : ∀ y ∈ xs ++ [x], same x y = false →
      multiplicity y (xs ++ [x]) ≤ multiplicity x xs := by
    intro y hy hxy
    obtain ⟨hmem, hcount⟩ := multiplicity_append_of_not_same hx hy hxy
    rw [hcount]
    exact (h.multiplicity_le y hmem).trans hle
  refine ⟨hw, fun y hy => ?_, fun y hy heq => ?_⟩
  · rw [multiplicity_append_of_same hxw]
    cases hxy : same x y with
    | true => exact (multiplicity_append_of_same hxy xs).le
    | false => exact (hother y hy hxy).trans (Nat.le_succ _)
  · rw [multiplicity_append_of_same hxw] at heq
    cases hxy : same x y with
    | true => exact atMost_of_same (same_trans (same_symm hxw) hxy)
    | false => exact absurd (hother y hy hxy) (by omega)

/-- The most frequent value stays so if the new sample is greater and less frequent. -/
theorem IsMode.append_other {xs : List α} {v x : α} (h : IsMode xs v)
    (hxs : ∀ y ∈ xs, isFinite y = true) (hx : isFinite x = true) (hvx : atMost v x = true)
    (hlt : multiplicity x xs < multiplicity v xs) :
    IsMode (xs ++ [x]) v ∧ multiplicity v (xs ++ [x]) = multiplicity v xs := by
  have hmem : v ∈ xs ++ [x] := List.mem_append_left _ h.mem
  have hxv : same x v = false := by
    by_contra hne
    rw [multiplicity_congr (Bool.of_not_eq_false hne)] at hlt
    exact lt_irrefl _ hlt
  have hv := (multiplicity_append_of_not_same hx hmem hxv).2
  refine ⟨⟨hmem, fun y hy => ?_, fun y hy heq => ?_⟩, hv⟩
  · rw [hv]
    cases hxy : same x y with
    | true =>
        rw [multiplicity_append_of_same hxy]
        exact hlt
    | false =>
        obtain ⟨hy', hcount⟩ := multiplicity_append_of_not_same hx hy hxy
        rw [hcount]
        exact h.multiplicity_le y hy'
  · cases hxy : same x y with
    | true =>
        have hyf : isFinite y = true :=
          (List.forall_mem_append.2 ⟨hxs, List.forall_mem_singleton.2 hx⟩) y hy
        exact atMost_trans (hxs v h.mem) hx hyf hvx (atMost_of_same hxy)
    | false =>
        obtain ⟨hy', hcount⟩ := multiplicity_append_of_not_same hx hy hxy
        rw [hcount, hv] at heq
        exact h.atMost_of_eq y hy' heq

/-- The run that a sample continues, or begins. -/
def Run.next (last : Run α) (x : α) : Run α :=
  if same x last.value then ⟨last.value, last.length + 1⟩ else ⟨x, 1⟩

omit [Lawful α] in
theorem Runs.step_eq (r : Runs α) (x : α) :
    r.step x = ⟨r.last.next x,
      if r.longest.length < (r.last.next x).length then r.last.next x else r.longest⟩ :=
  rfl

/-- A sample at least as great as all before is counted in the last run, which is that of its
value. -/
theorem Runs.Describes.next {r : Runs α} {xs : List α} (h : r.Describes xs)
    (hxs : ∀ y ∈ xs, isFinite y = true) {x : α} (hx : isFinite x = true)
    (hle : ∀ y ∈ xs, atMost y x = true) :
    same x (r.last.next x).value = true ∧ (r.last.next x).value ∈ xs ++ [x] ∧
      (r.last.next x).length = multiplicity x xs + 1 := by
  unfold Run.next
  cases hsame : same x r.last.value with
  | true =>
      refine ⟨hsame, List.mem_append_left _ h.last_mem, ?_⟩
      show r.last.length + 1 = _
      rw [h.last_length, multiplicity_congr hsame]
  | false =>
      -- a sample that is the same as `x` would stand between it and the last run
      have hnone : multiplicity x xs = 0 := by
        refine List.countP_eq_zero.2 fun y hy hyx => ?_
        have hxl : atMost x r.last.value = true :=
          atMost_trans hx (hxs y hy) (hxs _ h.last_mem) (atMost_of_same (same_symm hyx))
            (h.atMost_last y hy)
        have heq := same_of_atMost hx hxl (hle _ h.last_mem)
        rw [hsame] at heq
        cases heq
      refine ⟨same_refl hx, List.mem_append_right _ (List.mem_singleton_self x), ?_⟩
      rw [hnone]
      rfl

/-- One more sample, at least as great as all before, continues the last run or begins one of its
own. -/
theorem Runs.Describes.step {r : Runs α} {xs : List α} (h : r.Describes xs)
    (hxs : ∀ y ∈ xs, isFinite y = true) {x : α} (hx : isFinite x = true)
    (hle : ∀ y ∈ xs, atMost y x = true) : (r.step x).Describes (xs ++ [x]) := by
  obtain ⟨hsame, hmem, hlength⟩ := h.next hxs hx hle
  have hcount : (r.last.next x).length = multiplicity (r.last.next x).value (xs ++ [x]) :=
    hlength.trans (multiplicity_append_of_same hsame xs).symm
  have hall : ∀ y ∈ xs ++ [x], atMost y (r.last.next x).value = true := by
    have hxf := List.forall_mem_append.2 ⟨hxs, List.forall_mem_singleton.2 hx⟩
    intro y hy
    have hyx : atMost y x = true := (List.forall_mem_append.2
      ⟨hle, List.forall_mem_singleton.2 (atMost_refl x)⟩) y hy
    exact atMost_trans (hxf y hy) hx (hxf _ hmem) hyx (atMost_of_same hsame)
  rw [Runs.step_eq]
  by_cases hlt : r.longest.length < (r.last.next x).length
  · rw [if_pos hlt]
    refine ⟨hmem, hcount, hall, hcount, ?_⟩
    refine h.isMode.append_same hmem hx hsame ?_
    rw [h.longest_length] at hlt
    omega
  · rw [if_neg hlt]
    have hother := h.isMode.append_other hxs hx (hle _ h.isMode.mem) (by
      rw [h.longest_length] at hlt
      omega)
    exact ⟨hmem, hcount, hall, h.longest_length.trans hother.2.symm, hother.1⟩

omit [Lawful α] in
/-- Where a pass begins does not matter, as long as no sample continues the run there and any run is
longer: the first sample is both runs. -/
theorem Runs.step_of_not_same {r : Runs α} {x : α} (hlast : same x r.last.value = false)
    (hlongest : r.longest.length = 0) : r.step x = ⟨⟨x, 1⟩, ⟨x, 1⟩⟩ := by
  have hnext : r.last.next x = ⟨x, 1⟩ := by
    rw [Run.next, hlast]
    rfl
  rw [Runs.step_eq, hnext, if_pos (hlongest.trans_lt Nat.one_pos)]

/-- What is left of a pass over samples in order: nothing without samples. -/
def Runs.AfterPass (r : Runs α) (xs : List α) : Prop := xs = [] ∧ r = start ∨ r.Describes xs

theorem Runs.describes_singleton {x : α} (hx : isFinite x = true) :
    (Runs.step start x).Describes [x] := by
  have hone : 1 = multiplicity x [x] := by
    rw [multiplicity, List.countP_singleton, same_refl hx]
    rfl
  have hmem := List.mem_singleton_self x
  rw [Runs.step_of_not_same (same_undefined x) rfl]
  refine ⟨hmem, hone, List.forall_mem_singleton.2 (atMost_refl x), hone, hmem, ?_, ?_⟩
  · exact List.forall_mem_singleton.2 le_rfl
  · exact List.forall_mem_singleton.2 fun _ => atMost_refl x

theorem Runs.AfterPass.step {r : Runs α} {xs : List α} (h : r.AfterPass xs)
    (hxs : ∀ y ∈ xs, isFinite y = true) {x : α} (hx : isFinite x = true)
    (hle : ∀ y ∈ xs, atMost y x = true) : (r.step x).AfterPass (xs ++ [x]) := by
  rcases h with ⟨rfl, rfl⟩ | h
  · exact .inr (Runs.describes_singleton hx)
  · exact .inr (h.step hxs hx hle)

/-- One pass over samples in order finds the most frequent value. -/
theorem Runs.afterPass_foldl {xs : List α} (hsorted : xs.Pairwise fun x y => inOrder x y = true)
    (hxs : ∀ x ∈ xs, isFinite x = true) : (xs.foldl Runs.step start).AfterPass xs := by
  induction xs using List.reverseRecOn with
  | nil => exact .inl ⟨rfl, rfl⟩
  | append_singleton xs x ih =>
      rw [List.pairwise_append] at hsorted
      rw [List.forall_mem_append, List.forall_mem_singleton] at hxs
      rw [List.foldl_append]
      refine (ih hsorted.1 hxs.1).step hxs.1 hxs.2 fun y hy => ?_
      exact atMost_of_inOrder (hsorted.2.2 y hy x (List.mem_singleton_self x))

theorem Snapshot.isMode_mode {s : Snapshot α}
    (hsorted : s.sorted.Pairwise fun x y => inOrder x y = true)
    (hs : ∀ x ∈ s.sorted, isFinite x = true) (hne : s.sorted ≠ []) : IsMode s.sorted s.mode := by
  rcases Runs.afterPass_foldl hsorted hs with ⟨hnil, -⟩ | h
  · exact absurd hnil hne
  · exact h.isMode

omit [Lawful α] in
theorem IsMode.perm {xs ys : List α} {v : α} (h : IsMode xs v) (hp : xs.Perm ys) :
    IsMode ys v where
  mem := hp.mem_iff.1 h.mem
  multiplicity_le x hx := by
    rw [← multiplicity_perm x hp, ← multiplicity_perm v hp]
    exact h.multiplicity_le x (hp.mem_iff.2 hx)
  atMost_of_eq x hx heq := by
    rw [← multiplicity_perm x hp, ← multiplicity_perm v hp] at heq
    exact h.atMost_of_eq x (hp.mem_iff.2 hx) heq

/-! ### Samples in order -/

namespace Aggregate

omit [Lawful α] in
theorem perm_sorted (a : Aggregate α) : a.snapshot.sorted.Perm a.samples.toList :=
  List.mergeSort_perm ..

theorem pairwise_sorted (a : Aggregate α) :
    a.snapshot.sorted.Pairwise fun x y => inOrder x y = true := by
  have htotal : ∀ x y : α, (inOrder x y || inOrder y x) = true := fun x y => by
    rw [Bool.or_eq_true]
    exact inOrder_total x y
  have htrans : ∀ x y z : α, inOrder x y = true → inOrder y z = true → inOrder x z = true :=
    fun _ _ _ => inOrder_trans
  exact List.pairwise_mergeSort htrans htotal _

/-- The same samples in another order are in one order in the end. -/
theorem snapshot_eq_of_perm {a b : Aggregate α} (h : a.samples.toList.Perm b.samples.toList) :
    a.snapshot = b.snapshot := by
  refine congrArg Snapshot.mk ?_
  refine List.Perm.eq_of_pairwise (fun _ _ _ _ hxy hyx => inOrder_antisymm hxy hyx)
    a.pairwise_sorted b.pairwise_sorted ?_
  exact a.perm_sorted.trans (h.trans b.perm_sorted.symm)

end Aggregate

omit [Lawful α] in
/-- A quantile is one of the samples, whatever the fraction. -/
theorem Snapshot.quantile_mem {s : Snapshot α} (hne : s.sorted ≠ []) (q : α) :
    s.quantile q ∈ s.sorted := by
  have hpos : 0 < s.sorted.length := List.length_pos_iff.2 hne
  have hlt : Nat.min (partsOf q s.sorted.length) (s.sorted.length - 1) < s.sorted.length :=
    (Nat.min_le_right ..).trans_lt (by omega)
  rw [Snapshot.quantile, List.getElem?_eq_getElem hlt]
  exact List.getElem_mem hlt

/-! ### Gatherings -/

/-- How samples come together in an aggregate: it is told of them, and other aggregates are merged
into it. -/
inductive Gathering (α : Type) where
  | empty
  | record (before : Gathering α) (x : α)
  | merge (before other : Gathering α)

namespace Gathering

def aggregate : Gathering α → Aggregate α
  | empty => .empty
  | record before x => before.aggregate.record x
  | merge before other => before.aggregate.merge other.aggregate

/-- The values that it is told of and that are recorded, in this order. -/
def samples : Gathering α → List α
  | empty => []
  | record before x => before.samples ++ [x].filter isFinite
  | merge before other => before.samples ++ other.samples

theorem isSound_aggregate : ∀ g : Gathering α, g.aggregate.IsSound
  | empty => Aggregate.isSound_empty
  | record before x => before.isSound_aggregate.record x
  | merge before other => before.isSound_aggregate.merge other.aggregate

theorem samples_aggregate : ∀ g : Gathering α, g.aggregate.samples.toList = g.samples
  | empty => rfl
  | record before x => by
      rw [aggregate, Aggregate.samples_record, before.samples_aggregate, samples]
  | merge before other => by
      rw [aggregate, Aggregate.samples_merge, before.samples_aggregate, samples,
        List.filter_eq_self.2 other.isSound_aggregate.isFinite, other.samples_aggregate]

theorem isFinite_of_mem {g : Gathering α} {x : α} (hx : x ∈ g.samples) : isFinite x = true :=
  g.isSound_aggregate.isFinite x (g.samples_aggregate ▸ hx)

theorem count_aggregate (g : Gathering α) : g.aggregate.count = g.samples.length := by
  rw [Aggregate.count, ← Array.length_toList, samples_aggregate]

theorem extreme_least (g : Gathering α) : Extreme atMost g.samples g.aggregate.least :=
  g.samples_aggregate ▸ g.isSound_aggregate.least

theorem extreme_greatest (g : Gathering α) :
    Extreme (fun x y => atMost y x) g.samples g.aggregate.greatest :=
  g.samples_aggregate ▸ g.isSound_aggregate.greatest

theorem perm_sorted (g : Gathering α) : g.aggregate.snapshot.sorted.Perm g.samples :=
  g.samples_aggregate ▸ g.aggregate.perm_sorted

/-! #### Without samples -/

theorem sorted_eq_nil {g : Gathering α} (h : g.samples = []) :
    g.aggregate.snapshot.sorted = [] :=
  (h ▸ g.perm_sorted).eq_nil

theorem min_eq_zero {g : Gathering α} (h : g.samples = []) : g.aggregate.min = zero :=
  (h ▸ g.extreme_least).getD_nil zero

theorem max_eq_zero {g : Gathering α} (h : g.samples = []) : g.aggregate.max = zero :=
  (h ▸ g.extreme_greatest).getD_nil zero

/-! #### With samples -/

theorem min_mem {g : Gathering α} (h : g.samples ≠ []) :
    g.aggregate.min ∈ g.samples ∧ ∀ x ∈ g.samples, atMost g.aggregate.min x = true :=
  g.extreme_least.getD_of_ne_nil h zero

theorem max_mem {g : Gathering α} (h : g.samples ≠ []) :
    g.aggregate.max ∈ g.samples ∧ ∀ x ∈ g.samples, atMost x g.aggregate.max = true :=
  g.extreme_greatest.getD_of_ne_nil h zero

theorem quantile_mem {g : Gathering α} (h : g.samples ≠ []) (q : α) :
    g.aggregate.snapshot.quantile q ∈ g.samples := by
  refine g.perm_sorted.mem_iff.1 (Snapshot.quantile_mem ?_ q)
  exact fun hnil => h (hnil ▸ g.perm_sorted).nil_eq.symm

theorem isMode_mode {g : Gathering α} (h : g.samples ≠ []) :
    IsMode g.samples g.aggregate.snapshot.mode := by
  refine IsMode.perm (Snapshot.isMode_mode g.aggregate.pairwise_sorted ?_ ?_) g.perm_sorted
  · exact fun x hx => isFinite_of_mem (g.perm_sorted.mem_iff.1 hx)
  · exact fun hnil => h (hnil ▸ g.perm_sorted).nil_eq.symm

/-! #### Samples in another order -/

/-- Of samples that count as the same the one recorded first is kept as an extreme. -/
theorem same_min_of_perm {g other : Gathering α} (h : g.samples.Perm other.samples) :
    same g.aggregate.min other.aggregate.min = true :=
  g.extreme_least.same_of_perm other.extreme_least h
    (fun _ hx _ => same_of_atMost (isFinite_of_mem hx)) (same_refl isFinite_zero)

theorem same_max_of_perm {g other : Gathering α} (h : g.samples.Perm other.samples) :
    same g.aggregate.max other.aggregate.max = true :=
  g.extreme_greatest.same_of_perm other.extreme_greatest h
    (fun _ hx _ hyx hxy => same_of_atMost (isFinite_of_mem hx) hxy hyx)
    (same_refl isFinite_zero)

/-- Where values that count as the same are equal, so are the extremes. -/
theorem extremes_eq_of_perm {g other : Gathering α} (h : g.samples.Perm other.samples)
    (heq : ∀ x ∈ g.samples, ∀ y ∈ g.samples, same x y = true → x = y) :
    g.aggregate.min = other.aggregate.min ∧ g.aggregate.max = other.aggregate.max := by
  by_cases hnil : g.samples = []
  · have hnil' : other.samples = [] := (hnil ▸ h).nil_eq.symm
    rw [min_eq_zero hnil, max_eq_zero hnil, min_eq_zero hnil', max_eq_zero hnil']
    exact ⟨rfl, rfl⟩
  · have hnil' : other.samples ≠ [] := fun hnil' => hnil (hnil' ▸ h).eq_nil
    exact ⟨heq _ (min_mem hnil).1 _ (h.mem_iff.2 (min_mem hnil').1) (same_min_of_perm h),
      heq _ (max_mem hnil).1 _ (h.mem_iff.2 (max_mem hnil').1) (same_max_of_perm h)⟩

theorem snapshot_eq_of_perm {g other : Gathering α} (h : g.samples.Perm other.samples) :
    g.aggregate.snapshot = other.aggregate.snapshot := by
  refine Aggregate.snapshot_eq_of_perm ?_
  rw [samples_aggregate, samples_aggregate]
  exact h

/-- The statistics depend only on which samples come together and how often.  With samples the
extremes bound all of them, quantiles are among them, and the mode is the least of the most frequent
values; without samples every statistic is zero.  Where values that count as the same differ, as the
two zeros do, either may be the extreme. -/
theorem statistics_describe_samples (g : Gathering α) :
    (∀ other : Gathering α, g.samples.Perm other.samples →
      g.aggregate.count = other.aggregate.count ∧
      same g.aggregate.min other.aggregate.min = true ∧
      same g.aggregate.max other.aggregate.max = true ∧
      ((∀ x ∈ g.samples, ∀ y ∈ g.samples, same x y = true → x = y) →
        g.aggregate.min = other.aggregate.min ∧ g.aggregate.max = other.aggregate.max) ∧
      g.aggregate.snapshot.mode = other.aggregate.snapshot.mode ∧
      ∀ q, g.aggregate.snapshot.quantile q = other.aggregate.snapshot.quantile q) ∧
    g.aggregate.count = g.samples.length ∧
    (g.samples ≠ [] →
      (g.aggregate.min ∈ g.samples ∧ ∀ x ∈ g.samples, atMost g.aggregate.min x = true) ∧
      (g.aggregate.max ∈ g.samples ∧ ∀ x ∈ g.samples, atMost x g.aggregate.max = true) ∧
      (∀ q, g.aggregate.snapshot.quantile q ∈ g.samples) ∧
      IsMode g.samples g.aggregate.snapshot.mode) ∧
    (g.samples = [] →
      g.aggregate.count = 0 ∧ g.aggregate.min = zero ∧ g.aggregate.max = zero ∧
      g.aggregate.snapshot.mode = zero ∧ ∀ q, g.aggregate.snapshot.quantile q = zero) := by
  refine ⟨fun other h => ?_, g.count_aggregate, fun hne => ?_, fun hnil => ?_⟩
  · have hcount : g.aggregate.count = other.aggregate.count := by
      rw [count_aggregate, count_aggregate, h.length_eq]
    rw [snapshot_eq_of_perm h]
    exact ⟨hcount, same_min_of_perm h, same_max_of_perm h, extremes_eq_of_perm h, rfl,
      fun _ => rfl⟩
  · exact ⟨min_mem hne, max_mem hne, quantile_mem hne, isMode_mode hne⟩
  · refine ⟨?_, min_eq_zero hnil, max_eq_zero hnil, ?_, fun q => ?_⟩
    · rw [count_aggregate, hnil]
      rfl
    · rw [Snapshot.mode, sorted_eq_nil hnil]
      rfl
    · rw [Snapshot.quantile, sorted_eq_nil hnil]
      rfl

/-- Two values of which one occurs twice, told in two orders, once with a value that is passed over
and a merge. -/
theorem statistics_describe_samples_two_orders :
    let g : Gathering Float :=
      .merge (.record (.record .empty 2.5) (0 / 0)) (.record (.record .empty 1.5) 2.5)
    let other : Gathering Float := .record (.record (.record .empty 2.5) 2.5) 1.5
    g.samples.Perm other.samples ∧
      g.aggregate.count = 3 ∧
      g.aggregate.min = other.aggregate.min ∧
      g.aggregate.max = other.aggregate.max ∧
      g.aggregate.snapshot.mode = other.aggregate.snapshot.mode ∧
      IsMode g.samples g.aggregate.snapshot.mode ∧
      g.aggregate.snapshot.quantile (0 / 0) ∈ g.samples ∧
      (empty : Gathering Float).aggregate.snapshot.mode = 0 := by
  intro g other
  have hg : g.samples = [2.5, 1.5, 2.5] := by decide
  have ho : other.samples = [2.5, 2.5, 1.5] := by decide
  have hp : g.samples.Perm other.samples := by
    rw [hg, ho]
    exact .cons _ (.swap ..)
  have heq : ∀ x ∈ g.samples, ∀ y ∈ g.samples, same x y = true → x = y := by
    rw [hg]
    decide
  have hne : g.samples ≠ [] := by
    rw [hg]
    exact List.cons_ne_nil _ _
  obtain ⟨hperm, hcount, hall, -⟩ := statistics_describe_samples g
  obtain ⟨-, -, -, hextremes, hmode, -⟩ := hperm other hp
  obtain ⟨-, -, hquantile, hisMode⟩ := hall hne
  have hempty := (statistics_describe_samples (empty : Gathering Float)).2.2.2 rfl
  refine ⟨hp, ?_, (hextremes heq).1, (hextremes heq).2, hmode, hisMode, hquantile _,
    hempty.2.2.2.1⟩
  rw [hcount, hg]
  rfl

end Gathering

end CacheKeys
