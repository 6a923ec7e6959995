import Mathlib
import CacheKeys.Metrics.Report
import CacheKeys.Proofs.Metrics.Doubles

/-! # Durations are finite

A double stays away from infinity as long as it is known to be below a power of two
(`IsBelow.isFinite`).  Every operation raises this power by little (`IsBelow.add`, `IsBelow.mul`,
`IsBelow.div`), so that a duration in microseconds, which comes of counts of 64 bits, is finite
(`Duration.isFinite_inMicros`). -/

namespace CacheKeys

open Float.Model Float.Model.UnpackedFloat

/-! ### Unpacked numbers -/

/-- The number is finite and below a power of two. -/
def IsBelowPower (t : ℤ) : UnpackedFloat → Prop
  | .zero _ => True
  | .finite _ m e _ => totalExponent m e ≤ t
  | _ => False

theorem IsBelowPower.zero_or_finite {t : ℤ} {u : UnpackedFloat} (h : IsBelowPower t u) :
    (∃ s, u = .zero s) ∨ ∃ s m e hm, u = .finite s m e hm ∧ totalExponent m e ≤ t := by
  cases u with
  | notANumber => exact h.elim
  | infinity s => exact h.elim
  | zero s => exact .inl ⟨s, rfl⟩
  | finite s m e hm => exact .inr ⟨s, m, e, hm, rfl, h⟩

theorem IsBelowPower.isFinite {t : ℤ} {u : UnpackedFloat} (h : IsBelowPower t u) :
    u.isFinite = true := by
  obtain ⟨s, rfl⟩ | ⟨s, m, e, hm, rfl, -⟩ := h.zero_or_finite <;> rfl

theorem log2_le_of_le {m n : ℕ} (h : m ≤ n) : m.log2 ≤ n.log2 := by
  rw [Nat.log2_eq_log_two, Nat.log2_eq_log_two]
  exact Nat.log_mono_right h

theorem log2_div_two_pow (m k : ℕ) : (m / 2 ^ k).log2 = m.log2 - k := by
  rw [Nat.log2_eq_log_two, Nat.log2_eq_log_two, Nat.log_div_base_pow]

theorem log2_shiftLeft_le (m k : ℕ) : (m <<< k).log2 ≤ m.log2 + k := by
  rcases Nat.eq_zero_or_pos (m <<< k) with h0 | hpos
  · simp [h0]
  · have hlt : m <<< k < 2 ^ (m.log2 + 1) * 2 ^ k := by
      rw [Nat.shiftLeft_eq]
      exact Nat.mul_lt_mul_of_pos_right Nat.lt_log2_self (by positivity)
    rw [← pow_add] at hlt
    have := (Nat.log2_lt hpos.ne').2 hlt
    omega

theorem log2_add_le {m n k : ℕ} (hm : m.log2 ≤ k) (hn : n.log2 ≤ k) : (m + n).log2 ≤ k + 1 := by
  have hlt : ∀ {l : ℕ}, l.log2 ≤ k → l < 2 ^ (k + 1) := fun h =>
    Nat.lt_log2_self.trans_le (Nat.pow_le_pow_right (by norm_num) (by omega))
  have hsum : m + n < 2 ^ (k + 2) := by
    have := hlt hm
    have := hlt hn
    rw [pow_succ]
    omega
  rcases Nat.eq_zero_or_pos (m + n) with h0 | hpos
  · simp [h0]
  · have := (Nat.log2_lt hpos.ne').2 hsum
    omega

theorem log2_mul_le (m n : ℕ) : (m * n).log2 ≤ m.log2 + n.log2 + 1 := by
  rcases Nat.eq_zero_or_pos (m * n) with h0 | hpos
  · simp [h0]
  · have hlt : m * n < 2 ^ (m.log2 + 1) * 2 ^ (n.log2 + 1) :=
      Nat.mul_lt_mul'' Nat.lt_log2_self Nat.lt_log2_self
    rw [← pow_add] at hlt
    have := (Nat.log2_lt hpos.ne').2 hlt
    omega

/-! ### Rounding -/

theorem mantissa_shiftRight (em : ExtendedMantissa) (k : ℕ) :
    (em >>> k).mantissa = em.mantissa / 2 ^ k := by
  induction k with
  | zero => simp [HShiftRight.hShiftRight, Nat.repeat]
  | succ k ih =>
      show (em >>> k).mantissa / 2 = _
      rw [ih, Nat.div_div_eq_div_mul, pow_succ]

theorem mantissa_ofMantissaAndAccuracy (m : ℕ) (a : Accuracy) :
    (ExtendedMantissa.ofMantissaAndAccuracy m a).mantissa = m := by
  rcases a with _ | o
  · rfl
  · cases o <;> rfl

theorem roundedMantissa_le (em : ExtendedMantissa) : em.roundedMantissa ≤ em.mantissa + 1 := by
  rcases em with ⟨m, r, s⟩
  cases r <;> cases s <;>
    simp [ExtendedMantissa.roundedMantissa, ExtendedMantissa.accuracy,
      Accuracy.roundToNearestEven]
  omega

/-- Bits that are dropped do not make a number greater. -/
theorem totalExponent_shift_le {t : ℤ} (ht : 0 ≤ t) {m : ℕ} {e : ℤ} (a : Accuracy)
    (h : totalExponent m e ≤ t) :
    totalExponent (shiftToTargetExponent Format.binary64 m e a).1.mantissa
      (shiftToTargetExponent Format.binary64 m e a).2 ≤ t := by
  have htarget : Format.binary64.targetExponent (totalExponent m e) =
      max (totalExponent m e - 53) (-1074) := rfl
  simp only [shiftToTargetExponent, shiftToExponent, mantissa_shiftRight,
    mantissa_ofMantissaAndAccuracy, htarget]
  unfold totalExponent at h ⊢
  rw [log2_div_two_pow]
  omega

theorem isBelowPower_roundWithAccuracy {t : ℤ} (ht : 0 ≤ t) (s : Sign) {m : ℕ} {e : ℤ}
    (a : Accuracy) (h : totalExponent m e ≤ t) :
    IsBelowPower (t + 1) (roundWithAccuracy Format.binary64 s m e a) := by
  have hfirst := totalExponent_shift_le ht a h
  unfold roundWithAccuracy
  generalize shiftToTargetExponent Format.binary64 m e a = first at hfirst ⊢
  obtain ⟨em, e'⟩ := first
  have hround : totalExponent em.roundedMantissa e' ≤ t + 1 := by
    have hle := log2_le_of_le (roundedMantissa_le em)
    have hone : Nat.log2 1 ≤ em.mantissa.log2 := Nat.zero_le _
    have hsucc := log2_add_le (le_refl em.mantissa.log2) hone
    simp only [totalExponent] at hfirst ⊢
    omega
  have hsecond := totalExponent_shift_le (by omega) .exact hround
  dsimp only
  split
  · trivial
  · exact hsecond

theorem isBelowPower_round {t : ℤ} (ht : 0 ≤ t) (s : Sign) {m : ℕ} {e : ℤ}
    (h : totalExponent m e ≤ t) :
    IsBelowPower (t + 1) (UnpackedFloat.round Format.binary64 s m e) := by
  refine isBelowPower_roundWithAccuracy ht s .exact ?_
  generalize (e - Format.binary64.targetExponent (totalExponent m e)).toNat = k
  have hshift := log2_shiftLeft_le m k
  unfold totalExponent at h ⊢
  omega

theorem isBelowPower_normalize {t : ℤ} (ht : 0 ≤ t) {m : ℤ} {e : ℤ} (s : Sign)
    (h : totalExponent m.natAbs e ≤ t) :
    IsBelowPower (t + 1) (UnpackedFloat.normalize Format.binary64 m e s) := by
  unfold UnpackedFloat.normalize
  split
  · next hm =>
      have habs : (-m).toNat = m.natAbs := by
        have := compare_lt_iff_lt.1 hm
        omega
      rw [habs]
      exact isBelowPower_round ht .negative h
  · trivial
  · next hm =>
      have habs : m.toNat = m.natAbs := by
        have := compare_gt_iff_gt.1 hm
        omega
      rw [habs]
      exact isBelowPower_round ht .positive h

/-! ### Operations on unpacked numbers -/

theorem totalExponent_decreaseExponent_le {t : ℤ} {m : ℕ} {e e' : ℤ}
    (h : totalExponent m e ≤ t) (he : e' ≤ e) :
    totalExponent (decreaseExponent m e e').1 e' ≤ t := by
  have hshift := log2_shiftLeft_le m (e - e').toNat
  simp only [decreaseExponent, totalExponent] at h ⊢
  omega

variable {t t' : ℤ} {u v : UnpackedFloat}

theorem IsBelowPower.mono (h : IsBelowPower t u) (htt : t ≤ t') : IsBelowPower t' u := by
  obtain ⟨s, rfl⟩ | ⟨s, m, e, hm, rfl, hle⟩ := h.zero_or_finite
  · trivial
  · exact hle.trans htt

theorem IsBelowPower.mul (h : IsBelowPower t u) (h' : IsBelowPower t' v) (ht : 0 ≤ t + t') :
    IsBelowPower (t + t' + 1) (UnpackedFloat.mul Format.binary64 u v) := by
  obtain ⟨s, rfl⟩ | ⟨s, m, e, hm, rfl, hle⟩ := h.zero_or_finite
  · obtain ⟨s', rfl⟩ | ⟨s', m', e', hm', rfl, -⟩ := h'.zero_or_finite <;> trivial
  · obtain ⟨s', rfl⟩ | ⟨s', m', e', hm', rfl, hle'⟩ := h'.zero_or_finite
    · trivial
    · refine isBelowPower_roundWithAccuracy ht _ .exact ?_
      have hmul := log2_mul_le m m'
      unfold totalExponent at hle hle' ⊢
      omega

/-- Mantissas with one exponent are at most added. -/
theorem totalExponent_apply_add_apply_le {n n' : ℕ} {e : ℤ} (s s' : Sign)
    (h : totalExponent n e ≤ t) (h' : totalExponent n' e ≤ t) :
    totalExponent (s.apply n + s'.apply n').natAbs e ≤ t + 1 := by
  have habs : (s.apply n + s'.apply n').natAbs ≤ n + n' := by
    cases s <;> cases s' <;> simp only [Sign.apply] <;> omega
  have hlog := (log2_le_of_le habs).trans
    (log2_add_le (le_max_left n.log2 n'.log2) (le_max_right n.log2 n'.log2))
  unfold totalExponent at h h' ⊢
  omega

theorem IsBelowPower.add (h : IsBelowPower t u) (h' : IsBelowPower t v) (ht : 0 ≤ t) :
    IsBelowPower (t + 2) (UnpackedFloat.add Format.binary64 u v) := by
  obtain ⟨s, rfl⟩ | ⟨s, m, e, hm, rfl, hle⟩ := h.zero_or_finite
  · obtain ⟨s', rfl⟩ | ⟨s', m', e', hm', rfl, -⟩ := h'.zero_or_finite
    · unfold UnpackedFloat.add
      dsimp only
      split <;> trivial
    · exact h'.mono (by omega)
  · obtain ⟨s', rfl⟩ | ⟨s', m', e', hm', rfl, hle'⟩ := h'.zero_or_finite
    · exact h.mono (by omega)
    · -- both are brought to one exponent before they are added
      have hsum := totalExponent_apply_add_apply_le s s'
        (totalExponent_decreaseExponent_le hle (min_le_left e e'))
        (totalExponent_decreaseExponent_le hle' (min_le_right e e'))
      have hnormal := isBelowPower_normalize (by omega) .positive hsum
      exact hnormal.mono (by omega)

theorem IsBelowPower.div (h : IsBelowPower t u) {s : Sign} {m : ℕ} {e : ℤ} (hm : 0 < m)
    (ht : 0 ≤ t - e) :
    IsBelowPower (t - e + 1) (UnpackedFloat.div Format.binary64 u (.finite s m e hm)) := by
  obtain ⟨s', rfl⟩ | ⟨s', m', e', hm', rfl, hle⟩ := h.zero_or_finite
  · trivial
  · refine isBelowPower_roundWithAccuracy ht _ _ ?_
    show totalExponent (m' <<< (e' - e - min (e' - e) _).toNat / m) (min (e' - e) _) ≤ t - e
    generalize htarget : min (e' - e) _ = target
    have htop : target ≤ e' - e := htarget ▸ min_le_left _ _
    -- the quotient is at most the dividend
    have hlog := (log2_le_of_le (Nat.div_le_self _ m)).trans
      (log2_shiftLeft_le m' (e' - e - target).toNat)
    unfold totalExponent at hle ⊢
    omega

/-! ### Packing -/

theorem isBelowPower_unpack_packComponents (ht : 0 ≤ t) (ht' : t ≤ 1000) (s : Sign)
    {E : BitVec Format.binary64.exponentBits} (hE : E.toNat ≤ t + 1022)
    (M : BitVec Format.binary64.mantissaBitsWithoutImplicit) :
    IsBelowPower t (UnpackedFloat.unpack Format.binary64
      (packComponents Format.binary64 s E M)) := by
  have hbias : Format.binary64.exponentBias = 1023 := rfl
  have hbits : Format.binary64.mantissaBitsWithoutImplicit = 52 := rfl
  have hM : M.toNat < 2 ^ 52 := M.isLt
  have hmax : E ≠ -BitVec.ofNat Format.binary64.exponentBits 1 := by
    intro h
    have : E.toNat = 2047 := by
      rw [h]
      rfl
    omega
  have hlog : ∀ n, n < 2 ^ 53 → n.log2 ≤ 52 := by
    intro n hn
    rcases Nat.eq_zero_or_pos n with rfl | hpos
    · simp
    · have := (Nat.log2_lt hpos.ne').2 hn
      omega
  simp only [UnpackedFloat.unpack, unpackExponent_packComponents, unpackMantissa_packComponents]
  rw [if_neg hmax]
  split_ifs with hzero hnone
  · trivial
  · have hm := hlog M.toNat (by omega)
    simp only [IsBelowPower, totalExponent, hbias, hzero]
    simp
    omega
  · have hone : (1#1 ++ M).toNat = 2 ^ 52 + M.toNat := toNat_one_append M
    have hm := hlog (1#1 ++ M).toNat (by omega)
    simp only [IsBelowPower, totalExponent, hbias]
    omega

theorem IsBelowPower.unpack_pack (h : IsBelowPower t u) (ht : 0 ≤ t) (ht' : t ≤ 900) :
    IsBelowPower t (Float.Model.pack u).unpack := by
  show IsBelowPower t (UnpackedFloat.unpack Format.binary64 (UnpackedFloat.pack Format.binary64 u))
  have hpack := fun s E hE M => isBelowPower_unpack_packComponents ht (by omega) s (E := E) hE M
  obtain ⟨s, rfl⟩ | ⟨s, m, e, hm, rfl, hle⟩ := h.zero_or_finite
  · exact hpack s 0 (by simp; omega) 0
  · have hbias : Format.binary64.exponentBias = 1023 := rfl
    have hbits : Format.binary64.mantissaBitsWithoutImplicit = 52 := rfl
    have hpow : 2 ^ Format.binary64.exponentBits = 2048 := rfl
    unfold totalExponent at hle
    unfold UnpackedFloat.pack
    dsimp only
    split_ifs with hinf hfull
    · omega
    · have hfull' : m.log2 + 1 = 53 := hfull
      refine hpack _ _ ?_ _
      rw [BitVec.toNat_ofNat, hpow]
      omega
    · exact hpack _ _ (by simp; omega) _

/-! ### Doubles -/

/-- The double is finite and below a power of two. -/
def IsBelow (t : ℤ) (x : Float) : Prop := IsBelowPower t x.toModel.unpack

namespace IsBelow

variable {x y : Float}

theorem isFinite (h : IsBelow t x) : x.isFinite = true := IsBelowPower.isFinite h

theorem mono (h : IsBelow t x) (htt : t ≤ t') : IsBelow t' x := IsBelowPower.mono h htt

theorem add (h : IsBelow t x) (h' : IsBelow t y) (ht : 0 ≤ t) (ht' : t ≤ 800) :
    IsBelow (t + 2) (x + y) :=
  (IsBelowPower.add h h' ht).unpack_pack (by omega) (by omega)

theorem mul (h : IsBelow t x) (h' : IsBelow t' y) (ht : 0 ≤ t + t') (ht' : t + t' ≤ 800) :
    IsBelow (t + t' + 1) (x * y) :=
  (IsBelowPower.mul h h' ht).unpack_pack (by omega) (by omega)

theorem div (h : IsBelow t x) {s : Sign} {m : ℕ} {e : ℤ} {hm : 0 < m}
    (hy : y.toModel.unpack = .finite s m e hm) (ht : 0 ≤ t - e) (ht' : t - e ≤ 800) :
    IsBelow (t - e + 1) (x / y) := by
  show IsBelowPower _ (Float.Model.pack
    (UnpackedFloat.div Format.binary64 x.toModel.unpack y.toModel.unpack)).unpack
  rw [hy]
  exact (IsBelowPower.div h hm ht).unpack_pack (by omega) (by omega)

end IsBelow

theorem isBelow_countFloat (n : ℕ) : IsBelow 65 (countFloat n) := by
  have hlt : n.toUInt64.toNat < 2 ^ 64 := n.toUInt64.toNat_lt
  have hlog : n.toUInt64.toNat.log2 ≤ 63 := by
    rcases Nat.eq_zero_or_pos n.toUInt64.toNat with h0 | hpos
    · simp [h0]
    · have := (Nat.log2_lt hpos.ne').2 hlt
      omega
  refine IsBelowPower.unpack_pack ?_ (by norm_num) (by norm_num)
  refine isBelowPower_normalize (t := 64) (by norm_num) .positive ?_
  simp only [Int.natAbs_natCast, totalExponent]
  omega

/-- A duration, whose seconds and nanoseconds are counts of 64 bits, is a finite number of
microseconds. -/
theorem Duration.isFinite_inMicros (d : Duration) : d.inMicros.isFinite = true := by
  have hbillion : (1000000000 : Float).toModel.unpack =
      .finite .positive 8388608000000000 (-23) (by norm_num) := rfl
  have hmillion : IsBelow 20 (1000000 : Float) := by
    have hunpack : (1000000 : Float).toModel.unpack =
        .finite .positive 8589934592000000 (-33) (by norm_num) := rfl
    rw [IsBelow, hunpack]
    show totalExponent 8589934592000000 (-33) ≤ 20
    decide
  have hseconds : IsBelow 91 d.inSeconds := by
    refine IsBelow.add (t := 89) ((isBelow_countFloat _).mono (by norm_num)) ?_ (by norm_num)
      (by norm_num)
    exact (isBelow_countFloat _).div hbillion (by norm_num) (by norm_num)
  exact (hseconds.mul hmillion (by norm_num) (by norm_num)).isFinite

end CacheKeys
