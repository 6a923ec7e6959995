/-! # Quoted text

Text between double quotes.  A double quote and a backslash inside are written with a backslash in
front; a backslash before any other character stands for itself.  `Unfinished.step` reads one
character, so that a reader of larger texts can stop inside a quote at any point. -/

namespace CacheKeys.Template.Quoted

/-- Whether a character is written with a backslash in front. -/
def needsEscape (c : Char) : Bool := c == '"' || c == '\\'

/-- The characters between the quotes. -/
def escape : List Char → List Char
  | [] => []
  | c :: cs => if needsEscape c then '\\' :: c :: escape cs else c :: escape cs

/-- The text in quotes. -/
def write (s : String) : String :=
  String.ofList ('"' :: (escape s.toList ++ ['"']))

/-- What has been read after an opening quote: the characters that it stands for so far, and whether
the last one was a backslash whose meaning is still open. -/
structure Unfinished where
  text : String
  escaped : Bool

namespace Unfinished

/-- Right after the opening quote. -/
def start : Unfinished := ⟨"", false⟩

/-- The next character ends the quote, with its text, or carries it on. -/
inductive Next where
  | closed (text : String)
  | more (quote : Unfinished)

/-- Reads one character of a quote. -/
def step (q : Unfinished) (c : Char) : Next :=
  if q.escaped then
    if needsEscape c then .more ⟨q.text.push c, false⟩
    else .more ⟨(q.text.push '\\').push c, false⟩
  else if c == '"' then .closed q.text
  else if c == '\\' then .more ⟨q.text, true⟩
  else .more ⟨q.text.push c, false⟩

/-- Reads to the closing quote: the text and what follows, `none` if the quote is never closed. -/
def finish (q : Unfinished) : List Char → Option (String × List Char)
  | [] => none
  | c :: cs =>
    match q.step c with
    | .closed text => some (text, cs)
    | .more q' => q'.finish cs

end Unfinished

/-- Reads a quote from its opening mark: the text and what follows. -/
def read? : List Char → Option (String × List Char)
  | c :: cs => if c == '"' then Unfinished.start.finish cs else none
  | [] => none

end CacheKeys.Template.Quoted
