import CacheKeys.Decimal.Binary

/-! # Numbers with a fixed number of places

A double written with a given number of digits after the point.  The exact value is rounded once, to
the nearest such number, and from half-way to the even one. -/

namespace CacheKeys.Decimal

/-- The quotient rounded to the nearest natural number, from half-way to the even one. -/
def roundDiv (num den : Nat) : Nat :=
  let q := num / den
  let twice := 2 * (num % den)
  if twice < den then q
  else if den < twice then q + 1
  else q + q % 2

/-- A fraction with a fixed number of places. -/
def Ratio.fixed (places : Nat) (r : Ratio) : String :=
  let n := roundDiv (r.num * tenTo places) r.den
  let digits := (toString (n % tenTo places)).toList
  toString (n / tenTo places) ++
    if places = 0 then ""
    else "." ++ String.ofList (List.replicate (places - digits.length) '0' ++ digits)

/-- A double with a fixed number of places; the sign of a negative zero is kept. -/
def fixed (places : Nat) (x : Float) : String :=
  match Binary.ofFloat x with
  | .nan => "NaN"
  | .infinite negative => if negative then "-inf" else "inf"
  | .finite negative m e _ =>
    let digits := (Ratio.ofBinary m e).fixed places
    if negative then "-" ++ digits else digits

end CacheKeys.Decimal
