import CacheKeys.Text.CaseTable
import CacheKeys.Text.Ranges

/-! # Lowercase and uppercase texts

The full case mappings of Unicode: one character may become several, and a capital sigma becomes a
final one at the end of a word, that is after a letter with case and not before one, where
ignorable characters between them do not count. -/

namespace CacheKeys.Text

namespace CaseTable

/-- The shifted code point, if the run holds it. -/
def Shift.apply? (s : Shift) (n : Nat) : Option Nat :=
  if s.first ≤ n ∧ n ≤ s.last ∧ (n - s.first) % s.stride = 0 then some ((n : Int) + s.amount).toNat
  else none

/-- A character shifted by the run that holds it, itself if there is none. -/
def shift (table : List Shift) (c : Char) : Char :=
  match table.findSome? (fun s => s.apply? c.toNat) with
  | some n => Char.ofNat n
  | none => c

end CaseTable

/-- The lowercase form of a character, without regard to its neighbours. -/
def lowerChar (c : Char) : List Char :=
  if c.toNat < 128 then [c.toLower]
  else if c == '\u0130' then ['i', '\u0307']
  else [CaseTable.shift CaseTable.lowerShifts c]

def upperChar (c : Char) : List Char :=
  if c.toNat < 128 then [c.toUpper]
  else match CaseTable.upperSequences.lookup c.toNat with
    | some codes => codes.map Char.ofNat
    | none => [CaseTable.shift CaseTable.upperShifts c]

/-- Whether the first character that counts is a letter with case. -/
def meetsCased (cs : List Char) : Bool :=
  match cs.dropWhile (inRanges CaseTable.caseIgnorable) with
  | c :: _ => inRanges CaseTable.cased c
  | [] => false

/-- Lowers characters that stand after those of `before`, which are listed from the last one. -/
def lowerAfter (before : List Char) : List Char → List Char
  | [] => []
  | c :: cs =>
    (if c == '\u03a3' then
      [if meetsCased before && !meetsCased cs then '\u03c2' else '\u03c3']
    else lowerChar c) ++ lowerAfter (c :: before) cs

def lower (s : String) : String := String.ofList (lowerAfter [] s.toList)

def upper (s : String) : String := String.ofList (s.toList.flatMap upperChar)

end CacheKeys.Text
