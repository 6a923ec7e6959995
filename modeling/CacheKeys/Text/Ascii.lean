/-! # ASCII character classes

Blanks and the splitting of text into words at blanks.  A blank is one of space, tab, line feed,
form feed and carriage return; the vertical tab and the spaces beyond ASCII belong to words. -/

namespace CacheKeys.Text

/-- Space, tab, line feed, form feed or carriage return. -/
def isBlank (c : Char) : Bool :=
  c == ' ' || c == '\t' || c == '\n' || c == '\x0c' || c == '\r'

/-- The text without the characters of a class at both ends. -/
def trimChars (p : Char → Bool) (cs : List Char) : List Char :=
  ((cs.dropWhile p).reverse.dropWhile p).reverse

/-- The text without blanks at both ends. -/
def trimBlanks (s : String) : String :=
  String.ofList (trimChars isBlank s.toList)

/-- The words of a text: its maximal runs of characters that are not blank. -/
def words (s : String) : List String :=
  ((s.toList.splitOnP isBlank).filter (fun w => !w.isEmpty)).map String.ofList

/-! ### Pieces of a text -/

/-- The pieces between the occurrences of a separator; there is one more than separators. -/
def pieces (sep : Char) (s : String) : List String :=
  (s.toList.splitOn sep).map String.ofList

/-- What stands before and after the first occurrence of a separator. -/
def splitFirst? (sep : Char) (s : String) : Option (String × String) :=
  let before := s.toList.takeWhile (fun c => c != sep)
  match s.toList.dropWhile (fun c => c != sep) with
  | [] => none
  | _ :: after => some (String.ofList before, String.ofList after)

/-- What follows a number of bytes; none inside a character or after the end. -/
def dropBytes? : Nat → List Char → Option (List Char)
  | 0, cs => some cs
  | _ + 1, [] => none
  | n + 1, c :: cs => if c.utf8Size ≤ n + 1 then dropBytes? (n + 1 - c.utf8Size) cs else none

/-- The first characters, of a number of bytes together; none inside a character or after the end.
-/
def takeBytes? : Nat → List Char → Option (List Char)
  | 0, _ => some []
  | _ + 1, [] => none
  | n + 1, c :: cs =>
    if c.utf8Size ≤ n + 1 then (takeBytes? (n + 1 - c.utf8Size) cs).map (c :: ·) else none

/-- The part of a text between two positions in bytes. -/
def bytesBetween? (first last : Nat) (s : String) : Option String :=
  (dropBytes? first s.toList).bind fun rest => (takeBytes? (last - first) rest).map String.ofList

/-- Whether a text occurs inside another. -/
def occursIn (needle : List Char) : List Char → Bool
  | [] => needle.isEmpty
  | c :: cs => needle.isPrefixOf (c :: cs) || occursIn needle cs

/-- Whether `s` holds `needle` somewhere. -/
def holds (s needle : String) : Bool :=
  occursIn needle.toList s.toList

end CacheKeys.Text
