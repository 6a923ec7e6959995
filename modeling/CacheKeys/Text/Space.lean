import CacheKeys.Text.Ascii
import CacheKeys.Text.Ranges

/-! # White space

The property White_Space of Unicode, and texts trimmed of it. -/

namespace CacheKeys.Text

/-- Ranges of the code points that are white space. -/
def spaceRanges : List (Nat × Nat) :=
  [(0x9, 0xD), (0x20, 0x20), (0x85, 0x85), (0xA0, 0xA0), (0x1680, 0x1680), (0x2000, 0x200A),
   (0x2028, 0x2029), (0x202F, 0x202F), (0x205F, 0x205F), (0x3000, 0x3000)]

/-- Whether a character is white space; every blank is. -/
def isSpace (c : Char) : Bool := inRanges spaceRanges c

/-- The text without white space at both ends. -/
def trimSpaces (s : String) : String := String.ofList (trimChars isSpace s.toList)

end CacheKeys.Text
