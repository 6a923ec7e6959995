import CacheKeys.Pattern.Basic
import CacheKeys.Text.Numeral
import CacheKeys.Text.Space

/-! # Characters and sets in patterns

How the characters of a pattern are read: escapes, and sets in brackets.  Every reader takes what is
left of the text and gives back what it leaves.  In an extended pattern blanks and comments are
passed over between them.

A pattern stands between braces, so no closing brace follows an opening one in it, and escapes that
need braces have no form here. -/

namespace CacheKeys.Pattern

/-! ### Blanks and comments -/

/-- Passes over blanks and comments, which begin with a number sign and end with the line. -/
def skipBlanksFrom : (inComment : Bool) → List Char → List Char
  | _, [] => []
  | true, c :: cs => skipBlanksFrom (c != '\n') cs
  | false, c :: cs =>
    if Text.isSpace c then skipBlanksFrom false cs
    else if c == '#' then skipBlanksFrom true cs
    else c :: cs

/-- Passes over blanks and comments in an extended pattern. -/
def skipBlanks (extended : Bool) (cs : List Char) : List Char :=
  if extended then skipBlanksFrom false cs else cs

/-- The next character, in an extended pattern the next that is no blank; the number sign of a first
comment counts as a blank, but what it says does not. -/
def ahead? (extended : Bool) (cs : List Char) : Option Char :=
  let rest := match cs.dropWhile Text.isSpace with
    | '#' :: comment => comment.dropWhile Text.isSpace
    | rest => rest
  if extended then rest.head? <|> cs.head? else cs.head?

/-! ### Escapes -/

/-- What an escape stands for: a character, a class of characters, or a place between two. -/
inductive Escape where
  | letter (l : Letter)
  | shorthand (negated : Bool)
  | place (ofWord : Bool)

/-- Reads the code point of a number of hexadecimal digits. -/
def code? (extended : Bool) : (missing value : Nat) → List Char → Option (Char × List Char)
  | 0, value, cs => if value.isValidChar then some (Char.ofNat value, cs) else none
  | _ + 1, _, [] => none
  | missing + 1, value, c :: cs =>
    match Text.digitValue? 16 c with
    | none => none
    | some v => code? extended missing (value * 16 + v) (skipBlanks extended cs)

/-- The character of a short escape: marks stand for themselves. -/
def shortEscape? (c : Char) : Option Char :=
  if c == 'a' then some '\x07'
  else if c == 'f' then some '\x0c'
  else if c == 't' then some '\t'
  else if c == 'n' then some '\n'
  else if c == 'r' then some '\r'
  else if c == 'v' then some '\x0b'
  else if c.isAlphanum || c == '<' || c == '>' || 128 ≤ c.toNat then none
  else some c

/-- The number of digits after the letter of an escape for a code point. -/
def codeSize? (c : Char) : Option Nat :=
  if c == 'x' then some 2
  else if c == 'u' then some 4
  else if c == 'U' then some 8
  else none

/-- Reads an escape after its backslash. -/
def escape? (extended : Bool) : List Char → Option (Escape × List Char)
  | [] => none
  | c :: cs =>
    match codeSize? c, shortEscape? c with
    | some size, _ =>
      (code? extended size 0 (skipBlanks extended cs)).map fun r => (.letter ⟨r.1, c == 'x'⟩, r.2)
    | none, some d => some (.letter ⟨d, false⟩, cs)
    | none, none =>
      if c == 'd' || c == 's' || c == 'w' then some (.shorthand false, cs)
      else if c == 'D' || c == 'S' || c == 'W' then some (.shorthand true, cs)
      else if c == 'A' || c == 'z' then some (.place false, cs)
      else if c == 'b' || c == 'B' || c == '<' || c == '>' then some (.place true, cs)
      else none

/-! ### Sets -/

namespace CharSet

def classNames : List String :=
  ["alnum", "alpha", "ascii", "blank", "cntrl", "digit", "graph", "lower", "print", "punct",
   "space", "upper", "word", "xdigit"]

/-- Reads a class with a name between colons after its opening bracket. -/
def named? : List Char → Option (CharSet × List Char)
  | ':' :: cs =>
    let (negated, cs) := match cs with
      | '^' :: rest => (true, rest)
      | rest => (false, rest)
    match cs.dropWhile (· != ':') with
    | ':' :: ']' :: rest =>
      if classNames.contains (String.ofList (cs.takeWhile (· != ':'))) then
        some (.named negated, rest)
      else none
    | _ => none
  | _ => none

/-- Reads a character or an escape. -/
def unit? (extended : Bool) : List Char → Option (Escape × List Char)
  | [] => none
  | c :: cs => if c == '\\' then escape? extended cs else some (.letter ⟨c, false⟩, cs)

/-- The set of a single escape; a place is no set. -/
def ofEscape? : Escape → Option CharSet
  | .letter l => some (.letter l)
  | .shorthand negated => some (.shorthand negated)
  | .place _ => none

/-- The characters between two, which are in order. -/
def range? : Escape → Escape → Option CharSet
  | .letter first, .letter last =>
    if first.char ≤ last.char then some (.range first last) else none
  | _, _ => none

/-- Reads a member of a set: a character, or two with a hyphen between them.  A hyphen before a
bracket or another hyphen stands for itself. -/
def member? (extended : Bool) (cs : List Char) : Option (CharSet × List Char) := do
  let (first, cs) ← unit? extended cs
  match skipBlanks extended cs with
  | '-' :: rest =>
    let next := ahead? extended rest
    if next == some ']' || next == some '-' then return (← ofEscape? first, '-' :: rest)
    let (last, rest) ← unit? extended (skipBlanks extended rest)
    return (← range? first last, rest)
  | rest => return (← ofEscape? first, rest)

/-- Passes over hyphens and counts them. -/
def skipHyphens (extended : Bool) : Nat → List Char → Nat × List Char
  | 0, cs => (0, cs)
  | fuel + 1, cs =>
    match cs with
    | '-' :: rest =>
      let r := skipHyphens extended fuel (skipBlanks extended rest)
      (r.1 + 1, r.2)
    | _ => (0, cs)

/-- What stands at the beginning of a set, with members that would mean something else further on:
hyphens, or a closing bracket. -/
structure Opening where
  negated : Bool
  members : List CharSet

/-- Reads the beginning of a set after its opening bracket. -/
def opening (extended : Bool) (cs : List Char) : Opening × List Char :=
  let (negated, cs) := match skipBlanks extended cs with
    | '^' :: rest => (true, skipBlanks extended rest)
    | rest => (false, rest)
  let (hyphens, cs) := skipHyphens extended cs.length cs
  match hyphens, cs with
  | 0, ']' :: rest => (⟨negated, [.letter ⟨']', false⟩]⟩, skipBlanks extended rest)
  | _, _ => (⟨negated, List.replicate hyphens (.letter ⟨'-', false⟩)⟩, cs)

/-- A set after an operation whose left side has been read, if there is one. -/
def combine (left : Option CharSet) (members : List CharSet) : CharSet :=
  match left with
  | none => ofParts members
  | some l => .operation l (ofParts members)

/-- Whether a character written twice is an operation on sets. -/
def isOperation (c : Char) : Bool := c == '&' || c == '-' || c == '~'

/-- Reads a set up to its closing bracket, after an operation and the members read so far. -/
def body? (extended : Bool) :
    Nat → Option CharSet → List CharSet → List Char → Option (CharSet × List Char)
  | 0, _, _, _ => none
  | fuel + 1, left, members, cs => do
    match skipBlanks extended cs with
    | [] => none
    | ']' :: rest => return (combine left members, rest)
    | '[' :: rest =>
      match named? rest with
      | some (s, rest) => body? extended fuel left (members ++ [s]) rest
      | none =>
        let (o, rest) := opening extended rest
        let (inner, rest) ← body? extended fuel none o.members rest
        body? extended fuel left (members ++ [.nested o.negated inner]) rest
    | c :: rest =>
      if isOperation c && rest.head? == some c then
        body? extended fuel (some (combine left members)) [] (rest.drop 1)
      else
        let (s, rest) ← member? extended (c :: rest)
        body? extended fuel left (members ++ [s]) rest

/-- Reads a set after its opening bracket: whether it is negated, and what is in its brackets. -/
def read? (extended : Bool) (cs : List Char) : Option ((Bool × CharSet) × List Char) :=
  let (o, rest) := opening extended cs
  (body? extended (rest.length + 1) none o.members rest).map fun r => ((o.negated, r.1), r.2)

end CharSet

end CacheKeys.Pattern
