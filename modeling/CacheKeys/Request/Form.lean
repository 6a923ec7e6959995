import CacheKeys.Text.Utf8

/-! # Form-encoded queries

A query is a sequence of pairs `name=value` between ampersands.  A plus sign stands for a space, a
percent sign with two hexadecimal digits for a byte; all other bytes stand for themselves. -/

namespace CacheKeys.Form

def hexValue? (b : UInt8) : Option UInt8 :=
  if 48 ≤ b ∧ b ≤ 57 then some (b - 48)
  else if 65 ≤ b ∧ b ≤ 70 then some (b - 55)
  else if 97 ≤ b ∧ b ≤ 102 then some (b - 87)
  else none

/-- The byte that two hexadecimal digits stand for. -/
def hexPair? (high low : UInt8) : Option UInt8 :=
  match hexValue? high, hexValue? low with
  | some x, some y => some (x * 16 + y)
  | _, _ => none

/-- A byte that is not escaped: a plus sign stands for a space. -/
def plain (b : UInt8) : UInt8 := if b = 43 then 32 else b

/-- The bytes that a part of a query stands for.  A percent sign without two digits after it stands
for itself. -/
def decodeBytes : List UInt8 → List UInt8
  | [] => []
  | [b] => [plain b]
  | [b, c] => [plain b, plain c]
  | b :: h :: l :: rest =>
    if b = 37 then
      match hexPair? h l with
      | some x => x :: decodeBytes rest
      | none => b :: decodeBytes (h :: l :: rest)
    else plain b :: decodeBytes (h :: l :: rest)

/-- The text that a part of a query stands for. -/
def decodeText (bytes : List UInt8) : String := Text.Utf8.decode (decodeBytes bytes)

/-- The pair between two ampersands; without an equals sign the value is empty. -/
def pair (bytes : List UInt8) : String × String :=
  (decodeText (bytes.takeWhile (fun b => b != 61)),
    decodeText ((bytes.dropWhile (fun b => b != 61)).drop 1))

/-- The pairs of a query, in order; nothing between two ampersands is no pair. -/
def pairs (query : String) : List (String × String) :=
  (((Text.Utf8.encode query).splitOn 38).filter (fun p => !p.isEmpty)).map pair

end CacheKeys.Form
