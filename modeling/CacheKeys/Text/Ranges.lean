/-! # Ranges of code points

Properties of characters are kept as lists of ranges. -/

namespace CacheKeys.Text

/-- Whether a character lies in one of the ranges of code points. -/
def inRanges (ranges : List (Nat × Nat)) (c : Char) : Bool :=
  ranges.any fun r => decide (r.1 ≤ c.toNat) && decide (c.toNat ≤ r.2)

end CacheKeys.Text
