import CacheKeys.Document.Toml.Quoted
import CacheKeys.Document.Toml.Tree
import CacheKeys.Document.Toml.Word

/-! # TOML

Documents read from TOML, version 1.0: lines with a header or with a value under a name.  Lists and
inline tables stand in each other less than eighty deep, and a dotted name has less than eighty
parts. -/

namespace CacheKeys.Toml

/-- A record may have more items than fields, and what is empty stands for no value. -/
def dialect : Document.Dialect where
  surplus := true
  isNothing
    | .table [] => true
    | .list [] => true
    | _ => false

/-- One more than the greatest depth of values and the greatest number of parts of a name. -/
def depthBound : Nat := 80

/-! ### Layout -/

/-- The text without the spaces at its beginning. -/
def skipSpaces (cs : List Char) : List Char := cs.dropWhile isSpace

/-- Passes over spaces, line breaks and comments. -/
def skipLayoutFrom : (inComment : Bool) → List Char → Option (List Char)
  | _, [] => some []
  | true, c :: cs =>
    if c == '\n' then skipLayoutFrom false cs
    else if isPlain c then skipLayoutFrom true cs
    else none
  | false, c :: cs =>
    if isSpace c || c == '\n' then skipLayoutFrom false cs
    else if c == '#' then skipLayoutFrom true cs
    else some (c :: cs)

/-- Passes over spaces, line breaks and comments. -/
def skipLayout (cs : List Char) : Option (List Char) := skipLayoutFrom false cs

/-- Passes over spaces at the end of a line. -/
def endLine? (cs : List Char) : Option (List Char) :=
  match skipSpaces cs with
  | [] => some []
  | c :: rest => if c == '\n' || c == '#' then some (c :: rest) else none

/-! ### Names -/

/-- Whether a character can stand in a name without quotes. -/
def isNameChar (c : Char) : Bool := c.isAlphanum || c == '_' || c == '-'

/-- Reads one part of a name. -/
def part? (cs : List Char) : Option (String × List Char) :=
  match cs with
  | [] => none
  | c :: rest =>
    match quote? c with
    | some escapes => single? c escapes rest
    | none =>
      let name := cs.takeWhile isNameChar
      if name.isEmpty then none else some (String.ofList name, cs.dropWhile isNameChar)

/-- Reads a name of at most so many parts between points: all parts but the last, and the last. -/
def path? : Nat → List Char → Option ((List String × String) × List Char)
  | 0, _ => none
  | bound + 1, cs => do
    let (name, cs) ← part? (skipSpaces cs)
    match skipSpaces cs with
    | '.' :: rest =>
      let ((path, last), rest) ← path? bound rest
      return ((name :: path, last), rest)
    | rest => return (([], name), rest)

def name? (cs : List Char) : Option ((List String × String) × List Char) :=
  path? (depthBound - 1) cs

/-! ### Values -/

/-- Reads the items of a list after its opening bracket. -/
def items? (item : List Char → Option (Document × List Char)) :
    Nat → List Char → Option (List Document × List Char)
  | 0, _ => none
  | fuel + 1, cs => do
    match ← skipLayout cs with
    | ']' :: rest => return ([], rest)
    | cs =>
      let (d, cs) ← item cs
      match ← skipLayout cs with
      | ']' :: rest => return ([d], rest)
      | ',' :: rest =>
        let (ds, rest) ← items? item fuel rest
        return (d :: ds, rest)
      | _ => none

/-- Reads a name, an equals sign and a value: how the value is set, and the rest. -/
def pair? (value : List Char → Option (Document × List Char)) (cs : List Char) :
    Option ((Fields → Option Fields) × List Char) := do
  let ((path, last), cs) ← name? cs
  match skipSpaces cs with
  | '=' :: rest =>
    let (d, rest) ← value (skipSpaces rest)
    return (assign d last true path, rest)
  | _ => none

/-- Reads the pairs of an inline table after its opening brace or a comma. -/
def pairs? (value : List Char → Option (Document × List Char)) :
    Nat → Fields → List Char → Option (Fields × List Char)
  | 0, _, _ => none
  | fuel + 1, fields, cs => do
    let (set, cs) ← pair? value cs
    let fields ← set fields
    match skipSpaces cs with
    | '}' :: rest => return (fields, rest)
    | ',' :: rest => pairs? value fuel fields rest
    | _ => none

/-- Reads an inline table after its opening brace. -/
def inline? (value : List Char → Option (Document × List Char)) (cs : List Char) :
    Option (Document × List Char) :=
  match skipSpaces cs with
  | '}' :: rest => some (.table [], rest)
  | cs => (pairs? value cs.length [] cs).map fun r => (.table (fieldDocuments r.1), r.2)

/-- Reads a text or a word. -/
def plainValue? (cs : List Char) : Option (Document × List Char) :=
  match cs with
  | [] => none
  | c :: rest =>
    match quote? c with
    | some escapes => (text? c escapes rest).map fun r => (.text r.1, r.2)
    | none =>
      let (word, rest) := splitWord cs
      (word? word).map fun d => (d, rest)

/-- Reads a value in which lists and tables stand at most so deep. -/
def value? : Nat → List Char → Option (Document × List Char)
  | depth + 1, '[' :: cs => (items? (value? depth) (cs.length + 1) cs).map fun r => (.list r.1, r.2)
  | depth + 1, '{' :: cs => inline? (value? depth) cs
  | _, cs => plainValue? cs

/-! ### Lines -/

/-- The fields read so far, and the path of the table that the next lines belong to. -/
structure Draft where
  fields : Fields
  header : List String

def header? (closing : List Char) (opening : List String → String → Fields → Option Fields)
    (d : Draft) (cs : List Char) : Option (Draft × List Char) := do
  let ((path, last), cs) ← name? cs
  if closing.isPrefixOf cs then
    return (⟨← opening path last d.fields, path ++ [last]⟩, cs.drop closing.length)
  else none

/-- Reads a header, or a value under a name. -/
def line? (d : Draft) : List Char → Option (Draft × List Char)
  | '[' :: '[' :: cs => header? [']', ']'] openItem d cs
  | '[' :: cs => header? [']'] openTable d cs
  | cs => do
    let (set, cs) ← pair? (value? (depthBound - 1)) cs
    return (⟨← changeAt set d.header d.fields, d.header⟩, cs)

def lines? : Nat → Draft → List Char → Option Fields
  | 0, _, _ => none
  | fuel + 1, d, cs => do
    match ← skipLayout cs with
    | [] => return d.fields
    | cs =>
      let (d, cs) ← line? d cs
      lines? fuel d (← endLine? cs)

/-- Line breaks written as one character. -/
def unifyBreaks : List Char → List Char
  | '\r' :: '\n' :: cs => '\n' :: unifyBreaks cs
  | c :: cs => c :: unifyBreaks cs
  | [] => []

/-- Reads a TOML text; a byte order mark in front of it is passed over. -/
def read? (s : String) : Option Document :=
  let cs := match s.toList with
    | '\ufeff' :: rest => rest
    | cs => cs
  (lines? (cs.length + 1) ⟨[], []⟩ (unifyBreaks cs)).map fun fields =>
    .table (fieldDocuments fields)

end CacheKeys.Toml
