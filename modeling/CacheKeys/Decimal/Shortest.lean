import CacheKeys.Decimal.Binary

/-! # The fewest digits that read back

A double is written with the fewest decimal digits that are read back as the same double, and among
those as the nearest to it.  A decimal is read back as a double if it lies in the interval half-way
to the two neighbours; the ends belong to it if the mantissa is even.  Grids of one to seventeen
digits are tried in turn; in each only the two points around the double matter. -/

namespace CacheKeys.Decimal

/-- A decimal number, `digits * 10 ^ exponent`. -/
structure Scientific where
  digits : Nat
  exponent : Int

/-- The number of decimal places of a number before its point: `10 ^ (p - 1) ≤ num / den < 10 ^ p`,
found by raising a first guess while it is too small. -/
def places (r : Ratio) : Nat → Int → Int
  | 0, guess => guess
  | fuel + 1, guess =>
    let u := r.inUnits guess
    if u.num < u.den then guess else places r fuel (guess + 1)

/-- The interval of numbers that are read back as a double, in quarters of its last binary place; it
is closed if its ends belong to it. -/
structure Interval where
  value : Ratio
  least : Ratio
  greatest : Ratio
  closed : Bool

def Interval.of (mantissa : Nat) (exponent : Int) (narrowBelow : Bool) : Interval :=
  let below := if narrowBelow then 1 else 2
  ⟨.ofBinary (4 * mantissa) (exponent - 2), .ofBinary (4 * mantissa - below) (exponent - 2),
    .ofBinary (4 * mantissa + 2) (exponent - 2), mantissa % 2 == 0⟩

/-- Whether `digits` units of ten to the `k` lie in the interval. -/
def Interval.holds (i : Interval) (k : Int) (digits : Nat) : Bool :=
  let lo := i.least.inUnits k
  let hi := i.greatest.inUnits k
  let d := digits
  if i.closed then decide (lo.num ≤ d * lo.den) && decide (d * hi.den ≤ hi.num)
  else decide (lo.num < d * lo.den) && decide (d * hi.den < hi.num)

/-- The point of the grid of units of ten to the `k` that is read back and nearest to the double;
of two that are equally near the even one. -/
def Interval.point? (i : Interval) (k : Int) : Option Nat :=
  let v := i.value.inUnits k
  let low := v.num / v.den
  let rest := v.num % v.den
  match i.holds k low, i.holds k (low + 1) with
  | true, true =>
    if 2 * rest < v.den then some low
    else if v.den < 2 * rest then some (low + 1)
    else if low % 2 = 0 then some low else some (low + 1)
  | true, false => some low
  | false, true => some (low + 1)
  | false, false => none

/-- The fewest digits of a double that is not zero. -/
def shortest (mantissa : Nat) (exponent : Int) (narrowBelow : Bool) : Scientific :=
  let i := Interval.of mantissa exponent narrowBelow
  let p := places i.value 700 (-330)
  let at_ (n : Nat) : Option Scientific := (i.point? (p - n)).map fun d => ⟨d, p - n⟩
  ((List.range' 1 17).findSome? at_).getD ⟨0, 0⟩

/-- The decimal without zeros at the end of its digits. -/
def Scientific.trim (d : Scientific) : Scientific :=
  let cs := (toString d.digits).toList.reverse
  let zeros := (cs.takeWhile (· == '0')).length
  ⟨d.digits / tenTo zeros, d.exponent + zeros⟩

/-- How digits are laid out.  With the point after the first `p` digits, counted from the first
digit that is not zero, a number is positional for `p` between the two bounds. -/
structure Layout where
  leastPlace : Int
  greatestPlace : Int

/-- Positional from `1e-5` up to, but not including, `1e16`, always with a point. -/
def Layout.standard : Layout := ⟨-4, 16⟩

/-- Digits laid out without a sign.  An exponent always has its own. -/
def Scientific.text (l : Layout) (d : Scientific) : String :=
  let cs := (toString d.digits).toList
  let point : Int := cs.length + d.exponent
  if l.leastPlace ≤ point ∧ point ≤ l.greatestPlace then
    if 0 ≤ d.exponent then
      String.ofList (cs ++ List.replicate d.exponent.toNat '0') ++ ".0"
    else if 0 < point then
      String.ofList (cs.take point.toNat) ++ "." ++ String.ofList (cs.drop point.toNat)
    else "0." ++ String.ofList (List.replicate (-point).toNat '0' ++ cs)
  else
    let mark := (if 0 < point then "e+" else "e") ++ toString (point - 1)
    match cs with
    | [c] => String.singleton c ++ mark
    | c :: rest => String.singleton c ++ "." ++ String.ofList rest ++ mark
    | [] => mark

/-- The text of a double that reads back as the same double; none for what is no number. -/
def text? (x : Float) : Option String :=
  match Binary.ofFloat x with
  | .finite negative m e narrow =>
    let digits := if m = 0 then "0.0" else (shortest m e narrow).trim.text Layout.standard
    some (if negative then "-" ++ digits else digits)
  | _ => none

end CacheKeys.Decimal
