import CacheKeys.Decimal.Shortest

/-! # Decimals beyond the range of doubles

A decimal is read as the double nearest to it.  Half a step above the greatest double and beyond,
the nearest one is infinite. -/

namespace CacheKeys.Decimal

/-- The least number that is read as infinite, `(2 ^ 54 - 1) * 2 ^ 970`. -/
def infiniteFrom : Nat := 0x3FFFFFFFFFFFFF <<< 970

/-- The number of digits of the least number that is read as infinite. -/
def infinitePlaces : Int := 309

/-- Whether a decimal is read as infinite.  Its number of places decides unless it is that of the
bound, so that no power of ten gets out of hand. -/
def Scientific.isInfinite (d : Scientific) : Bool :=
  let places : Int := (toString d.digits).length + d.exponent
  if d.digits = 0 then false
  else if places = infinitePlaces then
    decide (infiniteFrom * tenTo (-d.exponent).toNat ≤ d.digits * tenTo d.exponent.toNat)
  else decide (infinitePlaces < places)

end CacheKeys.Decimal
