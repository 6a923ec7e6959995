import CacheKeys.Text.Numeral

/-! # Quoted texts in TOML

A text stands between quotes or apostrophes, single ones on one line or three on each side over
several.  Between quotes a backslash escapes; between apostrophes every character stands for itself.
Where a text ends is found first, and what its characters mean in a second pass. -/

namespace CacheKeys.Toml

def isSpace (c : Char) : Bool := c == ' ' || c == '\t'

/-- Whether a character can stand in a comment or a text: control characters other than the tab
cannot. -/
def isPlain (c : Char) : Bool := c == '\t' || (32 ≤ c.toNat && c.toNat != 127)

/-! ### The extent of a text -/

/-- The characters up to the closing quote, and what follows it.  With escapes a backslash keeps the
character after it from closing. -/
def singleBody (quote : Char) (escapes : Bool) : List Char → Option (List Char × List Char)
  | [] => none
  | c :: cs =>
    if c == quote then some ([], cs)
    else if escapes && c == '\\' then
      match cs with
      | [] => none
      | d :: ds => (singleBody quote escapes ds).map fun r => (c :: d :: r.1, r.2)
    else (singleBody quote escapes cs).map fun r => (c :: r.1, r.2)

/-- The characters up to three closing quotes, and what follows them.  Up to two quotes more belong
to the text. -/
def tripleBody (quote : Char) (escapes : Bool) : List Char → Option (List Char × List Char)
  | [] => none
  | c :: cs =>
    let quotes := ((c :: cs).takeWhile (· == quote)).length
    if 3 ≤ quotes then
      let own := min 2 (quotes - 3)
      some (List.replicate own quote, (c :: cs).drop (own + 3))
    else if escapes && c == '\\' then
      match cs with
      | [] => none
      | d :: ds => (tripleBody quote escapes ds).map fun r => (c :: d :: r.1, r.2)
    else (tripleBody quote escapes cs).map fun r => (c :: r.1, r.2)

/-! ### The meaning of its characters -/

/-- What the next character continues. -/
inductive Mode where
  | plain
  | escape
  | code (missing value : Nat)
  -- the blank rest of a line whose end is escaped, and after the line break the blanks that
  -- begin the next one
  | margin (broken : Bool)

def shortEscape? (c : Char) : Option Char :=
  if c == '"' || c == '\\' then some c
  else if c == 'b' then some '\x08'
  else if c == 't' then some '\t'
  else if c == 'n' then some '\n'
  else if c == 'f' then some '\x0c'
  else if c == 'r' then some '\r'
  else none

/-- The character of a code point; surrogates have none. -/
def scalar? (n : Nat) : Option Char :=
  if n.isValidChar then some (Char.ofNat n) else none

/-- Whether a character can stand for itself in a text on one line or on several. -/
def isBodyChar (lines : Bool) (c : Char) : Bool := isPlain c || (lines && c == '\n')

def plainStep (lines : Bool) (c : Char) : Option (List Char × Mode) :=
  if c == '\\' then some ([], .escape)
  else if isBodyChar lines c then some ([c], .plain)
  else none

/-- Reads a character: the text that it completes, and what the next one continues. -/
def Mode.step (lines : Bool) (c : Char) : Mode → Option (List Char × Mode)
  | .plain => plainStep lines c
  | .escape =>
    if c == 'u' then some ([], .code 4 0)
    else if c == 'U' then some ([], .code 8 0)
    else if lines && isSpace c then some ([], .margin false)
    else if lines && c == '\n' then some ([], .margin true)
    else (shortEscape? c).map fun d => ([d], .plain)
  | .code missing value =>
    match Text.digitValue? 16 c with
    | none => none
    | some v =>
      if missing ≤ 1 then (scalar? (value * 16 + v)).map fun d => ([d], .plain)
      else some ([], .code (missing - 1) (value * 16 + v))
  | .margin broken =>
    if isSpace c then some ([], .margin broken)
    else if c == '\n' then some ([], .margin true)
    else if broken then plainStep lines c
    else none

/-- Whether a text can end here. -/
def Mode.isComplete : Mode → Bool
  | .plain => true
  | .margin broken => broken
  | _ => false

/-- The text of characters in which backslashes escape. -/
def unescape (lines : Bool) : Mode → List Char → Option (List Char)
  | mode, [] => if mode.isComplete then some [] else none
  | mode, c :: cs =>
    match mode.step lines c with
    | none => none
    | some (done, next) => (unescape lines next cs).map (done ++ ·)

/-- The text of a body. -/
def meaning (escapes lines : Bool) (body : List Char) : Option String :=
  if escapes then (unescape lines .plain body).map String.ofList
  else if body.all (isBodyChar lines) then some (String.ofList body)
  else none

/-- The quote of which a text is made, if the character is one, and whether it admits escapes. -/
def quote? (c : Char) : Option Bool :=
  if c == '"' then some true
  else if c == '\x27' then some false
  else none

/-- Reads a text on one line after its opening quote. -/
def single? (quote : Char) (escapes : Bool) (cs : List Char) : Option (String × List Char) :=
  (singleBody quote escapes cs).bind fun r => (meaning escapes false r.1).map fun s => (s, r.2)

/-- Reads a text after its opening quote, over several lines if two quotes more follow.  A line
break right after three quotes does not belong to the text. -/
def text? (quote : Char) (escapes : Bool) (cs : List Char) : Option (String × List Char) :=
  if cs.take 2 == [quote, quote] then
    let inner := match cs.drop 2 with
      | '\n' :: rest => rest
      | rest => rest
    (tripleBody quote escapes inner).bind fun r =>
      (meaning escapes true r.1).map fun s => (s, r.2)
  else single? quote escapes cs

end CacheKeys.Toml
