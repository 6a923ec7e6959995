import Mathlib
import CacheKeys.Metrics.Quantity

/-! # Doubles in order

A finite double is its sign and its magnitude, the bits below the sign bit.  The magnitude counts
the doubles between zero and it, so the comparison of two doubles is that of their magnitudes
(`compare_of_hasMagnitude`).  `Quantity.Lawful` says what order statistics need of comparisons; on
doubles they hold although `==` does not tell the two zeros apart. -/

namespace CacheKeys

/-! ### Lawful comparisons -/

/-- Whether a value is at most another one, where values that count as the same are at most each
other. -/
def Quantity.atMost {α : Type} [Quantity α] (x y : α) : Bool := inOrder x y || same x y

/-- The order in which values are put is a total one, and finite values that count as the same stand
side by side in it. -/
class Quantity.Lawful (α : Type) [Quantity α] : Prop where
  isFinite_zero : isFinite (zero : α) = true
  same_undefined (x : α) : same x undefined = false
  inOrder_total (x y : α) : inOrder x y = true ∨ inOrder y x = true
  inOrder_trans {x y z : α} : inOrder x y = true → inOrder y z = true → inOrder x z = true
  inOrder_antisymm {x y : α} : inOrder x y = true → inOrder y x = true → x = y
  same_refl {x : α} : isFinite x = true → same x x = true
  same_symm {x y : α} : same x y = true → same y x = true
  same_trans {x y z : α} : same x y = true → same y z = true → same x z = true
  same_between {x y z : α} : isFinite x = true → isFinite y = true → isFinite z = true →
    inOrder x y = true → inOrder y z = true → same x z = true → same x y = true
  lesser_eq {x y : α} : isFinite x = true → isFinite y = true →
    lesser x y = if atMost x y then x else y
  greater_eq {x y : α} : isFinite x = true → isFinite y = true →
    greater x y = if atMost y x then x else y

namespace Quantity

variable {α : Type} [Quantity α] {x y z : α}

theorem atMost_iff : atMost x y = true ↔ inOrder x y = true ∨ same x y = true := by
  rw [atMost, Bool.or_eq_true]

theorem atMost_of_inOrder (h : inOrder x y = true) : atMost x y = true := atMost_iff.2 (.inl h)

theorem atMost_of_same (h : same x y = true) : atMost x y = true := atMost_iff.2 (.inr h)

variable [Lawful α]

open Lawful

theorem atMost_refl (x : α) : atMost x x = true :=
  atMost_of_inOrder ((inOrder_total x x).elim id id)

theorem atMost_total (x y : α) : atMost x y = true ∨ atMost y x = true :=
  (inOrder_total x y).imp atMost_of_inOrder atMost_of_inOrder

/-- Values are the same if each is at most the other. -/
theorem same_of_atMost (hx : isFinite x = true) (h : atMost x y = true) (h' : atMost y x = true) :
    same x y = true := by
  rw [atMost_iff] at h h'
  rcases h with h | h
  · rcases h' with h' | h'
    · rw [← inOrder_antisymm h h']
      exact same_refl hx
    · exact same_symm h'
  · exact h

theorem atMost_trans (hx : isFinite x = true) (hy : isFinite y = true) (hz : isFinite z = true)
    (h : atMost x y = true) (h' : atMost y z = true) : atMost x z = true := by
  -- only where `z` stands before `x` there is something to show: then all three are the same
  rcases inOrder_total x z with hxz | hzx
  · exact atMost_of_inOrder hxz
  · rw [atMost_iff] at h h'
    rcases h with h | h
    · rcases h' with h' | h'
      · exact atMost_of_inOrder (inOrder_trans h h')
      · exact atMost_of_same (same_symm (same_between hz hx hy hzx h (same_symm h')))
    · rcases h' with h' | h'
      · exact atMost_of_same (same_trans h (same_between hy hz hx h' hzx (same_symm h)))
      · exact atMost_of_same (same_trans h h')

end Quantity

/-! ### The parts of a double -/

open Float.Model

/-- The bits of a double below its sign bit. -/
def magnitude (x : Float) : ℕ := x.toBits.toNat % signBit

def signOf (x : Float) : UnpackedFloat.Sign :=
  if x.toBits.toNat < signBit then .positive else .negative

theorem signBit_eq : signBit = 2 ^ 63 := by decide

section Fields

variable (b : BitVec Format.binary64.numBits)

theorem toNat_unpackExponent :
    (UnpackedFloat.unpackExponent b).toNat = b.toNat / 2 ^ 52 % 2 ^ 11 := by
  simp [UnpackedFloat.unpackExponent_def, BitVec.extractLsb', Nat.shiftRight_eq_div_pow]

theorem toNat_unpackMantissa : (UnpackedFloat.unpackMantissa b).toNat = b.toNat % 2 ^ 52 := by
  simp [UnpackedFloat.unpackMantissa_def, BitVec.extractLsb']

theorem toNat_unpackSign : (UnpackedFloat.unpackSign b).toNat = b.toNat / 2 ^ 63 := by
  have hb : b.toNat < 2 ^ 64 := b.isLt
  simp [UnpackedFloat.unpackSign_def, BitVec.extractLsb', Nat.shiftRight_eq_div_pow]
  omega

end Fields

theorem toNat_one_append {n : ℕ} (m : BitVec n) : (1#1 ++ m).toNat = 2 ^ n + m.toNat := by
  rw [BitVec.toNat_append, ← Nat.shiftLeft_add_eq_or_of_lt m.isLt, Nat.shiftLeft_eq]
  simp

theorem ofBitVec_unpackSign (x : Float) :
    UnpackedFloat.Sign.ofBitVec
      (@UnpackedFloat.unpackSign Format.binary64 x.toModel.toBits.toBitVec) =
      signOf x := by
  have hs : (@UnpackedFloat.unpackSign Format.binary64
      x.toModel.toBits.toBitVec).toNat = x.toBits.toNat / 2 ^ 63 := toNat_unpackSign _
  have hx : x.toBits.toNat < 2 ^ 64 := x.toBits.toNat_lt
  simp only [UnpackedFloat.Sign.ofBitVec, signOf, signBit_eq, ← BitVec.toNat_inj, hs,
    BitVec.toNat_ofNat]
  split_ifs
  · rfl
  · omega
  · omega
  · rfl

/-- A number of this sign with this many numbers between zero and it. -/
inductive HasMagnitude : UnpackedFloat → UnpackedFloat.Sign → ℕ → Prop
  | zero (s : UnpackedFloat.Sign) : HasMagnitude (.zero s) s 0
  | finite (s : UnpackedFloat.Sign) {m k : ℕ} {e : ℤ} (hm : 0 < m) :
      (k : ℤ) = (e + 1074) * 2 ^ 52 + m → m < 2 ^ 53 → -1074 ≤ e → e = -1074 ∨ 2 ^ 52 ≤ m →
      HasMagnitude (.finite s m e hm) s k

theorem hasMagnitude_unpack {x : Float} (h : x.isFinite = true) :
    HasMagnitude x.toModel.unpack (signOf x) (magnitude x) := by
  have he : (@UnpackedFloat.unpackExponent Format.binary64
      x.toModel.toBits.toBitVec).toNat = x.toBits.toNat / 2 ^ 52 % 2 ^ 11 := toNat_unpackExponent _
  have hm : (@UnpackedFloat.unpackMantissa Format.binary64
      x.toModel.toBits.toBitVec).toNat = x.toBits.toNat % 2 ^ 52 := toNat_unpackMantissa _
  have hx : x.toBits.toNat < 2 ^ 64 := x.toBits.toNat_lt
  have hbias : Format.binary64.exponentBias = 1023 := rfl
  have hf : x.toModel.unpack.isFinite = true := h
  unfold Float.Model.unpack UnpackedFloat.unpack at hf ⊢
  simp only [ofBitVec_unpackSign, ← BitVec.toNat_inj, he, hbias] at hf ⊢
  rw [magnitude, signBit_eq]
  split_ifs at hf ⊢ with hmax hinf hzero hnone
  · cases hf
  · cases hf
  · rw [hm] at hnone
    simp at hzero hnone
    have hk : x.toBits.toNat % 2 ^ 63 = 0 := by omega
    rw [hk]
    exact .zero _
  · simp at hzero
    refine .finite _ _ ?_ ?_ ?_ (.inl ?_) <;> omega
  · simp at hmax hzero
    have hone : (1#1 ++ @UnpackedFloat.unpackMantissa Format.binary64
        x.toModel.toBits.toBitVec).toNat = 2 ^ 52 + x.toBits.toNat % 2 ^ 52 := by
      rw [toNat_one_append, hm]
    refine .finite _ _ ?_ ?_ ?_ (.inr ?_) <;> omega

/-! ### Comparing doubles -/

/-- The number of doubles from zero to this one, with its sign. -/
def rank (x : Float) : ℤ := (signOf x).apply (magnitude x)

/-- The exponent decides first and then the mantissa, as in the magnitude. -/
theorem then_compare_eq {m n k l : ℕ} {e f : ℤ} (hk : (k : ℤ) = (e + 1074) * 2 ^ 52 + m)
    (hm : m < 2 ^ 53) (he : e = -1074 ∨ 2 ^ 52 ≤ m) (hl : (l : ℤ) = (f + 1074) * 2 ^ 52 + n)
    (hn : n < 2 ^ 53) (hf : f = -1074 ∨ 2 ^ 52 ≤ n) (he' : -1074 ≤ e) (hf' : -1074 ≤ f) :
    (compare e f).then (compare m n) = compare (k : ℤ) l := by
  rcases lt_trichotomy e f with h | rfl | h
  · have hkl : (k : ℤ) < l := by omega
    rw [compare_lt_iff_lt.2 h, compare_lt_iff_lt.2 hkl]
    rfl
  · rw [compare_eq_iff_eq.2 rfl, Ordering.then]
    simp only [compare, compareOfLessAndEq]
    split_ifs <;> first | rfl | omega
  · have hkl : (l : ℤ) < k := by omega
    rw [compare_gt_iff_gt.2 h, compare_gt_iff_gt.2 hkl]
    rfl

theorem swap_compare (k l : ℤ) : (compare k l).swap = compare (-k) (-l) := by
  rcases lt_trichotomy k l with h | rfl | h
  · rw [compare_lt_iff_lt.2 h, compare_gt_iff_gt.2 (neg_lt_neg h)]
    rfl
  · rw [compare_eq_iff_eq.2 rfl, compare_eq_iff_eq.2 rfl]
    rfl
  · rw [compare_gt_iff_gt.2 h, compare_lt_iff_lt.2 (neg_lt_neg h)]
    rfl

theorem apply_zero (s : UnpackedFloat.Sign) : s.apply 0 = 0 := by cases s <;> rfl

theorem negative_apply_neg {k : ℤ} (hk : 0 < k) : UnpackedFloat.Sign.negative.apply k < 0 :=
  neg_lt_zero.2 hk

theorem positive_apply_pos {k : ℤ} (hk : 0 < k) : 0 < UnpackedFloat.Sign.positive.apply k := hk

/-- Numbers compare like their magnitudes with their signs. -/
theorem compare_of_hasMagnitude {u v : UnpackedFloat} {s t : UnpackedFloat.Sign} {k l : ℕ}
    (hu : HasMagnitude u s k) (hv : HasMagnitude v t l) :
    u.compare v = some (compare (s.apply k) (t.apply l)) := by
  cases hu with
  | zero s =>
      rw [Nat.cast_zero, apply_zero]
      cases hv with
      | zero t =>
          rw [Nat.cast_zero, apply_zero]
          rfl
      | finite t hn hl hn' hf hf' =>
          have hl0 : (0 : ℤ) < l := by omega
          cases t with
          | negative =>
              rw [compare_gt_iff_gt.2 (negative_apply_neg hl0)]
              rfl
          | positive =>
              rw [compare_lt_iff_lt.2 (positive_apply_pos hl0)]
              rfl
  | finite s hm hk hm' he he' =>
      have hk0 : (0 : ℤ) < k := by omega
      cases hv with
      | zero t =>
          rw [Nat.cast_zero, apply_zero]
          cases s with
          | negative =>
              rw [compare_lt_iff_lt.2 (negative_apply_neg hk0)]
              rfl
          | positive =>
              rw [compare_gt_iff_gt.2 (positive_apply_pos hk0)]
              rfl
      | finite t hn hl hn' hf hf' =>
          have hl0 : (0 : ℤ) < l := by omega
          have hthen := then_compare_eq hk hm' he' hl hn' hf' he hf
          cases s <;> cases t
          · simp only [UnpackedFloat.compare, hthen, UnpackedFloat.Sign.apply, swap_compare]
          · rw [compare_lt_iff_lt.2 ((negative_apply_neg hk0).trans (positive_apply_pos hl0))]
            rfl
          · rw [compare_gt_iff_gt.2 ((negative_apply_neg hl0).trans (positive_apply_pos hk0))]
            rfl
          · simp only [UnpackedFloat.compare, hthen, UnpackedFloat.Sign.apply]

theorem compare_unpack {x y : Float} (hx : x.isFinite = true) (hy : y.isFinite = true) :
    x.toModel.unpack.compare y.toModel.unpack = some (compare (rank x) (rank y)) :=
  compare_of_hasMagnitude (hasMagnitude_unpack hx) (hasMagnitude_unpack hy)

theorem lt_iff_rank {x y : Float} (hx : x.isFinite = true) (hy : y.isFinite = true) :
    x < y ↔ rank x < rank y := by
  show decide ((x.toModel.unpack.compare y.toModel.unpack == some Ordering.lt) = true) = true ↔ _
  rw [compare_unpack hx hy]
  rw [decide_eq_true_iff, beq_iff_eq, Option.some_inj, compare_lt_iff_lt]

theorem beq_iff_rank {x y : Float} (hx : x.isFinite = true) (hy : y.isFinite = true) :
    (x == y) = true ↔ rank x = rank y := by
  show (x.toModel.unpack.compare y.toModel.unpack == some Ordering.eq) = true ↔ _
  rw [compare_unpack hx hy, beq_iff_eq, Option.some_inj, compare_eq_iff_eq]

/-! ### The order of doubles -/

theorem orderKey_inj {x y : Float} (h : orderKey x = orderKey y) : x = y := by
  have hx : x.toBits.toNat < 2 ^ 64 := x.toBits.toNat_lt
  have hy : y.toBits.toNat < 2 ^ 64 := y.toBits.toNat_lt
  simp only [orderKey, signBit_eq] at h
  refine Float.toBits_inj.1 (UInt64.toNat_inj.1 ?_)
  split_ifs at h <;> omega

/-- The total order keeps that of the ranks, in which only the two zeros are equal. -/
theorem rank_mono {x y : Float} (h : orderKey x ≤ orderKey y) : rank x ≤ rank y := by
  have hx : x.toBits.toNat < 2 ^ 64 := x.toBits.toNat_lt
  have hy : y.toBits.toNat < 2 ^ 64 := y.toBits.toNat_lt
  simp only [orderKey, rank, signOf, magnitude, signBit_eq] at h ⊢
  split_ifs at h ⊢ <;> simp only [UnpackedFloat.Sign.apply] <;> omega

theorem orderKey_le_of_rank_lt {x y : Float} (h : rank x < rank y) : orderKey x ≤ orderKey y := by
  by_contra hlt
  exact absurd (rank_mono (not_le.1 hlt).le) (not_le.2 h)

theorem atMost_iff_rank {x y : Float} (hx : x.isFinite = true) (hy : y.isFinite = true) :
    Quantity.atMost x y = true ↔ rank x ≤ rank y := by
  have hin : Quantity.inOrder x y = true ↔ orderKey x ≤ orderKey y := decide_eq_true_iff
  have hsame : Quantity.same x y = true ↔ rank x = rank y := beq_iff_rank hx hy
  rw [Quantity.atMost_iff, hin, hsame]
  constructor
  · rintro (h | h)
    · exact rank_mono h
    · exact h.le
  · intro h
    exact h.lt_or_eq.imp_left orderKey_le_of_rank_lt

instance : Quantity.Lawful Float where
  isFinite_zero := by decide
  same_undefined x := by
    have hnan : (0 / 0 : Float) = Float.nan := by decide
    refine Bool.eq_false_of_not_eq_true fun h => ?_
    have h : (x == (0 / 0 : Float)) = true := h
    exact (Float.beq_iff_ne_nan_and_eq.1 h).2.1 hnan
  inOrder_total x y := by
    simp only [Quantity.inOrder, decide_eq_true_iff]
    exact le_total _ _
  inOrder_trans h h' := by
    simp only [Quantity.inOrder, decide_eq_true_iff] at h h' ⊢
    exact h.trans h'
  inOrder_antisymm h h' := by
    simp only [Quantity.inOrder, decide_eq_true_iff] at h h'
    exact orderKey_inj (h.antisymm h')
  same_refl hx := (beq_iff_rank hx hx).2 rfl
  same_symm {x y} h := by
    have h : (x == y) = true := h
    show (y == x) = true
    grind [Float.beq_iff_ne_nan_and_eq]
  same_trans {x y z} h h' := by
    have h : (x == y) = true := h
    have h' : (y == z) = true := h'
    show (x == z) = true
    grind [Float.beq_iff_ne_nan_and_eq]
  same_between {x y z} hx hy hz h h' hsame := by
    simp only [Quantity.inOrder, decide_eq_true_iff] at h h'
    have hxz : rank x = rank z := (beq_iff_rank hx hz).1 hsame
    exact (beq_iff_rank hx hy).2 ((rank_mono h).antisymm (hxz ▸ rank_mono h'))
  lesser_eq {x y} hx hy := by
    have h : y < x ↔ ¬ Quantity.atMost x y = true := by
      rw [lt_iff_rank hy hx, atMost_iff_rank hx hy, not_le]
    show (if y < x then y else x) = _
    simp only [h, ite_not]
  greater_eq {x y} hx hy := by
    have h : x < y ↔ ¬ Quantity.atMost y x = true := by
      rw [lt_iff_rank hx hy, atMost_iff_rank hy hx, not_le]
    show (if x < y then y else x) = _
    simp only [h, ite_not]

end CacheKeys
