import Mathlib
import CacheKeys.Decimal.Shortest

/-! # The fewest digits exist

The search for the digits of a double goes through grids of one to seventeen digits.  On the last of
them the interval of numbers that are read back as the double is wider than the distance of two
points (`exists_point?`), so a point is found, and as the grids begin at the first place of
the double its digits are not zero (`shortest_reads_back`). -/

namespace CacheKeys.Decimal

/-! ### Fractions in units -/

/-- What a mantissa is multiplied by in units of ten to the `k`. -/
def unitNum (e k : ℤ) : ℕ := 2 ^ e.toNat * 10 ^ (-k).toNat

/-- What a mantissa is divided by in units of ten to the `k`. -/
def unitDen (e k : ℤ) : ℕ := 2 ^ (-e).toNat * 10 ^ k.toNat

theorem inUnits_ofBinary (m : ℕ) (e k : ℤ) :
    (Ratio.ofBinary m e).inUnits k = ⟨m * unitNum e k, unitDen e k⟩ := by
  simp only [Ratio.ofBinary, Ratio.inUnits, tenTo, unitNum, unitDen, Nat.shiftLeft_eq, one_mul,
    mul_assoc]
  rfl

theorem unitNum_pos (e k : ℤ) : 0 < unitNum e k := by
  unfold unitNum
  positivity

theorem unitDen_pos (e k : ℤ) : 0 < unitDen e k := by
  unfold unitDen
  positivity

/-- Smaller units are as many more as powers of ten lie between. -/
theorem unitDen_mul_le {m : ℕ} {e p : ℤ} (h : unitDen e (p - 1) ≤ m * unitNum e (p - 1)) {n : ℕ}
    (hn : 1 ≤ n) : 10 ^ (n - 1) * unitDen e (p - n) ≤ m * unitNum e (p - n) := by
  unfold unitDen unitNum at *
  -- the powers of ten on both sides agree up to one that can be cancelled
  have hpow : 10 ^ (n - 1) * 10 ^ (p - n).toNat * 10 ^ (-(p - 1)).toNat =
      10 ^ (p - 1).toNat * 10 ^ (-(p - n)).toNat := by
    rw [← pow_add, ← pow_add, ← pow_add]
    congr 1
    omega
  refine Nat.le_of_mul_le_mul_right ?_ (by positivity : 0 < 10 ^ (-(p - 1)).toNat)
  calc 10 ^ (n - 1) * (2 ^ (-e).toNat * 10 ^ (p - n).toNat) * 10 ^ (-(p - 1)).toNat
      = 2 ^ (-e).toNat * 10 ^ (p - 1).toNat * 10 ^ (-(p - n)).toNat := by
        rw [mul_assoc (2 ^ (-e).toNat), ← hpow]
        ring
    _ ≤ m * (2 ^ e.toNat * 10 ^ (-(p - 1)).toNat) * 10 ^ (-(p - n)).toNat :=
        Nat.mul_le_mul_right _ h
    _ = m * (2 ^ e.toNat * 10 ^ (-(p - n)).toNat) * 10 ^ (-(p - 1)).toNat := by ring

/-! ### The first place -/

/-- The number is not less than one unit of the place before the guess. -/
def Ratio.Reaches (r : Ratio) (guess : ℤ) : Prop :=
  (r.inUnits (guess - 1)).den ≤ (r.inUnits (guess - 1)).num

/-- The guess is raised only as long as the number reaches it. -/
theorem reaches_places (r : Ratio) : ∀ (fuel : ℕ) (guess : ℤ), r.Reaches guess →
    r.Reaches (places r fuel guess)
  | 0, _, h => h
  | fuel + 1, guess, h => by
      rw [places]
      by_cases hlt : (r.inUnits guess).num < (r.inUnits guess).den
      · rw [if_pos hlt]
        exact h
      · rw [if_neg hlt]
        refine reaches_places r fuel (guess + 1) ?_
        rw [Ratio.Reaches, Int.add_sub_cancel]
        exact Nat.not_lt.1 hlt

/-- What is known of the mantissa and the exponent of a double that is not zero. -/
structure IsDouble (m : ℕ) (e : ℤ) (narrowBelow : Bool) : Prop where
  pos : 0 < m
  lt : m < 2 ^ 53
  le : -1074 ≤ e
  eq_of_narrow : narrowBelow = true → m = 2 ^ 52

variable {m : ℕ} {e : ℤ} {narrowBelow : Bool}

theorem isDouble_of_ofBits {bits : ℕ} {negative : Bool}
    (h : Binary.ofBits bits = .finite negative m e narrowBelow) (hm : 0 < m) :
    IsDouble m e narrowBelow := by
  unfold Binary.ofBits at h
  simp only [Nat.shiftLeft_eq, one_mul] at h
  have hfraction : bits % 2 ^ 52 < 2 ^ 52 := Nat.mod_lt _ (by norm_num)
  split_ifs at h with hmax hinf hzero <;> cases h
  · exact ⟨hm, by omega, le_rfl, fun hn => absurd hn Bool.false_ne_true⟩
  · refine ⟨hm, by omega, by omega, fun hn => ?_⟩
    simp only [Bool.and_eq_true, decide_eq_true_eq] at hn
    omega

theorem two_pow_le_ten_pow (n : ℕ) {j k : ℕ} (hj : j ≤ 23 * n) (hk : 7 * n ≤ k) :
    2 ^ j ≤ 10 ^ k :=
  calc 2 ^ j ≤ 2 ^ (23 * n) := Nat.pow_le_pow_right (by norm_num) hj
    _ = (2 ^ 23) ^ n := pow_mul ..
    _ ≤ (10 ^ 7) ^ n := Nat.pow_le_pow_left (by norm_num) n
    _ = 10 ^ (7 * n) := (pow_mul ..).symm
    _ ≤ 10 ^ k := Nat.pow_le_pow_right (by norm_num) hk

/-- The first guess is below the least double. -/
theorem IsDouble.reaches (h : IsDouble m e narrowBelow) :
    (Ratio.ofBinary (4 * m) (e - 2)).Reaches (places (.ofBinary (4 * m) (e - 2)) 700 (-330)) := by
  refine reaches_places _ _ _ ?_
  rw [Ratio.Reaches, inUnits_ofBinary]
  have hpos := h.pos
  have hle := h.le
  calc unitDen (e - 2) (-330 - 1)
      = 2 ^ (-(e - 2)).toNat := by simp [unitDen]
    _ ≤ 10 ^ (-(-330 - 1 : ℤ)).toNat := two_pow_le_ten_pow 47 (by omega) (by decide)
    _ ≤ unitNum (e - 2) (-330 - 1) := Nat.le_mul_of_pos_left _ (by positivity)
    _ ≤ 4 * m * unitNum (e - 2) (-330 - 1) := Nat.le_mul_of_pos_left _ (by omega)

/-! ### Points of a grid -/

/-- What is found in a grid is read back, and is one of the two points around the double. -/
theorem Interval.of_point? {i : Interval} {k : ℤ} {d : ℕ} (h : i.point? k = some d) :
    i.holds k d = true ∧ (i.value.inUnits k).num / (i.value.inUnits k).den ≤ d := by
  unfold Interval.point? at h
  dsimp only at h
  split at h
  · next hlow hhigh =>
      split_ifs at h <;> cases h
      · exact ⟨hlow, le_rfl⟩
      · exact ⟨hhigh, Nat.le_succ _⟩
      · exact ⟨hlow, le_rfl⟩
      · exact ⟨hhigh, Nat.le_succ _⟩
  · next hlow _ =>
      cases h
      exact ⟨hlow, le_rfl⟩
  · next _ hhigh =>
      cases h
      exact ⟨hhigh, Nat.le_succ _⟩
  · cases h

/-- A point is found if one of the two around the double is read back. -/
theorem Interval.exists_point?_of_holds {i : Interval} {k : ℤ}
    (h : i.holds k ((i.value.inUnits k).num / (i.value.inUnits k).den) = true ∨
      i.holds k ((i.value.inUnits k).num / (i.value.inUnits k).den + 1) = true) :
    ∃ d, i.point? k = some d := by
  unfold Interval.point?
  dsimp only
  split
  · split_ifs <;> exact ⟨_, rfl⟩
  · exact ⟨_, rfl⟩
  · exact ⟨_, rfl⟩
  · next hlow hhigh =>
      rw [hlow, hhigh] at h
      rcases h with h | h <;> cases h

/-- A point strictly between the ends of the interval is read back. -/
theorem holds_of_between {below : ℕ} (hbelow : below = if narrowBelow then 1 else 2) {k : ℤ}
    {d : ℕ} (hlow : (4 * m - below) * unitNum (e - 2) k < d * unitDen (e - 2) k)
    (hhigh : d * unitDen (e - 2) k < (4 * m + 2) * unitNum (e - 2) k) :
    (Interval.of m e narrowBelow).holds k d = true := by
  unfold Interval.holds Interval.of
  simp only [inUnits_ofBinary, ← hbelow]
  by_cases heven : (m % 2 == 0) = true
  · rw [if_pos heven, decide_eq_true hlow.le, decide_eq_true hhigh.le]
    rfl
  · rw [if_neg heven, decide_eq_true hlow, decide_eq_true hhigh]
    rfl

/-- If two points are closer than half the interval is wide on either side, the nearer of the two
points around the double lies in it. -/
theorem exists_point? (h : IsDouble m e narrowBelow) {k : ℤ}
    (hfine : 10 ^ 16 * unitDen (e - 2) k ≤ 4 * m * unitNum (e - 2) k) :
    ∃ d, (Interval.of m e narrowBelow).point? k = some d := by
  obtain ⟨below, hbelow⟩ : ∃ below, below = if narrowBelow then 1 else 2 := ⟨_, rfl⟩
  have hnum : ((Interval.of m e narrowBelow).value.inUnits k).num =
      4 * m * unitNum (e - 2) k := by rw [Interval.of, inUnits_ofBinary]
  have hden : ((Interval.of m e narrowBelow).value.inUnits k).den = unitDen (e - 2) k := by
    rw [Interval.of, inUnits_ofBinary]
  refine Interval.exists_point?_of_holds ?_
  rw [hnum, hden]
  have hholds := fun d => @holds_of_between m e narrowBelow below hbelow k d
  have hpos := unitDen_pos (e - 2) k
  have hapos := unitNum_pos (e - 2) k
  have hm : 4 * m * unitNum (e - 2) k < 4 * 2 ^ 53 * unitNum (e - 2) k :=
    Nat.mul_lt_mul_of_pos_right (by have := h.lt; omega) hapos
  generalize unitNum (e - 2) k = a at *
  generalize unitDen (e - 2) k = D at *
  -- half the distance of two points, above and below the double
  have habove : D < 4 * a := by omega
  have hhalf : D < 2 * (below * a) := by
    rw [hbelow]
    split_ifs with hn
    · obtain rfl := h.eq_of_narrow hn
      omega
    · omega
  have hlow : (4 * m - below) * a = 4 * m * a - below * a := Nat.sub_mul ..
  have hhigh : (4 * m + 2) * a = 4 * m * a + 2 * a := Nat.add_mul ..
  have hdiv : 4 * m * a / D * D + 4 * m * a % D = 4 * m * a := Nat.div_add_mod' ..
  have hmod : 4 * m * a % D < D := Nat.mod_lt _ hpos
  by_cases hrest : 2 * (4 * m * a % D) ≤ D
  · exact .inl (hholds _ (by omega) (by omega))
  · have hsucc : (4 * m * a / D + 1) * D = 4 * m * a / D * D + D := Nat.succ_mul ..
    exact .inr (hholds _ (by omega) (by omega))

/-! ### The digits of a double -/

/-- A double that is not zero has digits that are not zero and are read back as it. -/
theorem shortest_reads_back (h : IsDouble m e narrowBelow) :
    0 < (shortest m e narrowBelow).digits ∧
      (Interval.of m e narrowBelow).holds (shortest m e narrowBelow).exponent
        (shortest m e narrowBelow).digits = true := by
  have hreach := h.reaches
  rw [Ratio.Reaches, inUnits_ofBinary] at hreach
  generalize hp : places (.ofBinary (4 * m) (e - 2)) 700 (-330) = p at hreach
  -- what is found in any of the grids will do
  have hgrid : ∀ {n d : ℕ}, 1 ≤ n → (Interval.of m e narrowBelow).point? (p - n) = some d →
      0 < d ∧ (Interval.of m e narrowBelow).holds (p - n) d = true := by
    intro n d hn hd
    obtain ⟨hholds, hle⟩ := Interval.of_point? hd
    refine ⟨lt_of_lt_of_le ?_ hle, hholds⟩
    rw [Interval.of, inUnits_ofBinary]
    refine Nat.div_pos ?_ (unitDen_pos ..)
    exact (Nat.le_mul_of_pos_left _ (by positivity)).trans (unitDen_mul_le hreach hn)
  have hshortest : shortest m e narrowBelow = ((List.range' 1 17).findSome? fun n : ℕ =>
      ((Interval.of m e narrowBelow).point? (p - n)).map fun d => Scientific.mk d (p - n)).getD
        ⟨0, 0⟩ := by
    rw [← hp]
    rfl
  rw [hshortest]
  cases hfind : (List.range' 1 17).findSome? fun n : ℕ =>
      ((Interval.of m e narrowBelow).point? (p - n)).map fun d => Scientific.mk d (p - n) with
  | some s =>
      obtain ⟨n, hn, hs⟩ := List.exists_of_findSome?_eq_some hfind
      obtain ⟨d, hd, rfl⟩ := Option.map_eq_some_iff.1 hs
      exact hgrid (List.mem_range'_1.1 hn).1 hd
  | none =>
      -- at the latest there is a point in the last grid
      have hfine : 10 ^ 16 * unitDen (e - 2) (p - (17 : ℕ)) ≤
          4 * m * unitNum (e - 2) (p - (17 : ℕ)) :=
        unitDen_mul_le (n := 17) hreach (by norm_num)
      obtain ⟨d, hd⟩ := exists_point? h hfine
      have hnone := List.findSome?_eq_none_iff.1 hfind 17 (by decide)
      rw [hd] at hnone
      cases hnone

end CacheKeys.Decimal
