import CacheKeys.Text.Ascii

/-! # Decimal numerals

Reading numerals of bounded size from text.  A numeral is a run of ASCII digits, leading zeros
allowed, with a sign where the reader admits one; a value out of range is refused, never reduced. -/

namespace CacheKeys.Text

/-- One more than the greatest index, count or limit, which are kept in 64 bits: `2 ^ 64`. -/
def indexBound : Nat := 18446744073709551616

/-- One more than the greatest signed integer argument: `2 ^ 63`. -/
def integerBound : Nat := 9223372036854775808

/-- Whether the characters are ASCII digits, at least one. -/
def isNumeral (cs : List Char) : Bool :=
  !cs.isEmpty && cs.all Char.isDigit

def numeralValue (cs : List Char) : Nat :=
  Nat.ofDigitChars 10 cs 0

/-- Whether the characters are an exponent: its letter, at most one sign, and digits. -/
def isExponent : List Char → Bool
  | [] => false
  | c :: cs =>
    (c == 'e' || c == 'E') &&
      match cs with
      | '+' :: ds => isNumeral ds
      | '-' :: ds => isNumeral ds
      | ds => isNumeral ds

/-- The value of a digit in a base of at most sixteen. -/
def digitValue? (base : Nat) (c : Char) : Option Nat :=
  let value :=
    if c.isDigit then c.toNat - 48
    else if 'a' ≤ c ∧ c ≤ 'f' then c.toNat - 87
    else if 'A' ≤ c ∧ c ≤ 'F' then c.toNat - 55
    else base
  if value < base then some value else none

/-- The digits of a numeral below `bound`. -/
def natBelow? (bound : Nat) (cs : List Char) : Option Nat :=
  if isNumeral cs ∧ numeralValue cs < bound then some (numeralValue cs) else none

/-- An index or count: digits, after at most one plus sign, with a value that fits. -/
def readIndex? (s : String) : Option Nat :=
  match s.toList with
  | '+' :: cs => natBelow? indexBound cs
  | cs => natBelow? indexBound cs

/-- A signed integer: digits, after at most one sign, with a value from `-2^63` to `2^63 - 1`. -/
def readInteger? (s : String) : Option Int :=
  match s.toList with
  | '-' :: cs => (natBelow? (integerBound + 1) cs).map fun n : Nat => -(n : Int)
  | '+' :: cs => (natBelow? integerBound cs).map fun n : Nat => (n : Int)
  | cs => (natBelow? integerBound cs).map fun n : Nat => (n : Int)

end CacheKeys.Text
