import CacheKeys.Text.Ranges
import CacheKeys.Text.UnseenTable

/-! # Texts shown with escapes

A text in quotes that shows what is invisible in it: the usual short escapes, and the code point in
hexadecimal for every character without a visible form of its own. -/

namespace CacheKeys.Text

/-- A code point as lowercase hexadecimal digits, without leading zeros. -/
def hexDigits (n : Nat) : List Char := Nat.toDigits 16 n

def shownChar (c : Char) : List Char :=
  if c == '\x00' then ['\\', '0']
  else if c == '\t' then ['\\', 't']
  else if c == '\r' then ['\\', 'r']
  else if c == '\n' then ['\\', 'n']
  else if c == '"' || c == '\\' then ['\\', c]
  else if inRanges unseenRanges c then ['\\', 'u', '{'] ++ hexDigits c.toNat ++ ['}']
  else [c]

/-- A text in quotes, with escapes. -/
def shown (s : String) : String :=
  String.ofList ('"' :: (s.toList.flatMap shownChar ++ ['"']))

end CacheKeys.Text
