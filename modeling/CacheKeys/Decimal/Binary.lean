/-! # Doubles as exact numbers

A finite double is a sign and a natural number times a power of two.  The texts of numbers are
computed from these parts alone, in exact arithmetic. -/

namespace CacheKeys.Decimal

/-- A double, taken apart: `mantissa * 2 ^ exponent`, and whether the double below lies half as far
away as the one above. -/
inductive Binary where
  | nan
  | infinite (negative : Bool)
  | finite (negative : Bool) (mantissa : Nat) (exponent : Int) (narrowBelow : Bool)

/-- The parts of a double with the given bits. -/
def Binary.ofBits (bits : Nat) : Binary :=
  let negative := decide (1 <<< 63 ≤ bits)
  let field : Nat := (bits >>> 52) % (1 <<< 11)
  let fraction : Nat := bits % (1 <<< 52)
  if field = 2047 then if fraction = 0 then .infinite negative else .nan
  else if field = 0 then .finite negative fraction (-1074) false
  else .finite negative ((1 <<< 52) + fraction) ((field : Int) - 1075)
    (fraction = 0 && decide (1 < field))

def Binary.ofFloat (x : Float) : Binary := .ofBits x.toBits.toNat

/-- A positive fraction. -/
structure Ratio where
  num : Nat
  den : Nat

/-- The fraction `m * 2 ^ e`. -/
def Ratio.ofBinary (m : Nat) (e : Int) : Ratio := ⟨m <<< e.toNat, 1 <<< (-e).toNat⟩

def tenTo (n : Nat) : Nat := Nat.pow 10 n

/-- A fraction in units of a power of ten. -/
def Ratio.inUnits (r : Ratio) (k : Int) : Ratio :=
  ⟨r.num * tenTo (-k).toNat, r.den * tenTo k.toNat⟩

end CacheKeys.Decimal
