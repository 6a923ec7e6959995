import CacheKeys.Text.LetterTable
import CacheKeys.Text.Ranges

/-! # Letters and digits of every script

The properties Alphabetic and Number of Unicode. -/

namespace CacheKeys.Text

/-- Whether a character is a letter, or a mark that counts as one. -/
def isAlphabetic (c : Char) : Bool := inRanges alphabeticRanges c

/-- Whether a character is a letter, a digit or another number. -/
def isAlphanumeric (c : Char) : Bool := isAlphabetic c || inRanges numberRanges c

end CacheKeys.Text
