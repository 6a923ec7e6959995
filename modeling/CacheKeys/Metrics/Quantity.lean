/-! # Quantities

What aggregates and order statistics need of the values that they describe.  They are written over
any such type; durations are measured in doubles. -/

namespace CacheKeys

/-- Values that can be added, compared and counted.  No value counts as the same as `undefined`;
`zero` stands for "nothing recorded", and `neutral` changes no sum.  `inOrder` is the order in which
values are put, and `partsOf q n` the whole number of parts that the fraction `q` of `n` parts
amounts to, where a fraction below zero counts as zero and one above one as one. -/
class Quantity (α : Type) where
  zero : α
  neutral : α
  undefined : α
  isFinite : α → Bool
  add : α → α → α
  divide : α → Nat → α
  -- of two values that are equal, both give the first
  lesser : α → α → α
  greater : α → α → α
  same : α → α → Bool
  inOrder : α → α → Bool
  partsOf : α → Nat → Nat
  half : α
  nineTenths : α
  ninetyNineHundredths : α

def signBit : Nat := 1 <<< 63

/-- A place in the total order of doubles: negative zero stands before zero. -/
def orderKey (x : Float) : Int :=
  let bits := x.toBits.toNat
  if bits < signBit then bits else -((bits - signBit : Nat) : Int) - 1

def countFloat (n : Nat) : Float := n.toUInt64.toFloat

instance : Quantity Float where
  zero := 0
  neutral := -0.0
  undefined := 0 / 0
  isFinite := Float.isFinite
  add := (· + ·)
  divide x n := x / countFloat n
  lesser x y := if y < x then y else x
  greater x y := if x < y then y else x
  same x y := x == y
  inOrder x y := decide (orderKey x ≤ orderKey y)
  partsOf q n :=
    let fraction := if q < 0 then 0 else if 1 < q then 1 else q
    (fraction * countFloat n).floor.toUInt64.toNat
  half := 0.5
  nineTenths := 0.9
  ninetyNineHundredths := 0.99

end CacheKeys
