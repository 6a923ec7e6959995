import CacheKeys.Text.Numeral

/-! # Documents

The trees that configuration files and answers are written as, and the ways in which records are
read from them.  A record is a table with its fields by name, where unknown names are passed over,
or a list with its fields by position.  What else is admitted depends on the way in which the
document is written, its dialect. -/

namespace CacheKeys

/-- A tree of plain data. -/
inductive Document where
  | null
  | bool (b : Bool)
  -- a number without fraction and exponent
  | integer (n : Int)
  -- any other number, as it is written
  | decimal (numeral : String)
  | text (s : String)
  | list (items : List Document)
  | table (fields : List (String × Document))
  -- something that can be passed over but not read, such as a text with half a character
  | unreadable

namespace Document

/-- What a way of writing documents admits where records and words are read: whether a list may go
on after the last field of a record, and which documents stand for no value. -/
structure Dialect where
  surplus : Bool
  isNothing : Document → Bool

def ofNat (n : Nat) : Document := .integer n

def ofTexts (texts : List String) : Document := .list (texts.map .text)

/-- A text that may be missing, as a document. -/
def ofText? : Option String → Document
  | some s => .text s
  | none => .null

/-! ### Order of fields -/

/-- Inserts a field into fields in the order of their names. -/
def insertField (field : String × Document) : List (String × Document) → List (String × Document)
  | [] => [field]
  | f :: fs => if field.1 < f.1 then field :: f :: fs else f :: insertField field fs

mutual

/-- The document with the fields of every table in the order of their names. -/
def byName : Document → Document
  | list items => list (byNameAll items)
  | table fields => table (fieldsByName fields)
  | d => d

/-- The same for the items of a list. -/
def byNameAll : List Document → List Document
  | [] => []
  | d :: ds => d.byName :: byNameAll ds

/-- The same for fields, which are put in order, too. -/
def fieldsByName : List (String × Document) → List (String × Document)
  | [] => []
  | (name, d) :: fs => insertField (name, d.byName) (fieldsByName fs)

end

/-! ### Reading values -/

def text? : Document → Option String
  | .text s => some s
  | _ => none

/-- Reads a truth value. -/
def bool? : Document → Option Bool
  | .bool b => some b
  | _ => none

/-- Reads an index, a count or a limit. -/
def index? : Document → Option Nat
  | .integer n => if 0 ≤ n ∧ n.toNat < Text.indexBound then some n.toNat else none
  | _ => none

/-- Reads a list, each item by the given reader. -/
def list? (item : Document → Option α) : Document → Option (List α)
  | .list items => items.mapM item
  | _ => none

/-- Reads a value that may be null. -/
def nullable? (value : Document → Option α) : Document → Option (Option α)
  | .null => some none
  | d => (value d).map some

/-- Reads one of several words; a table with the word as its only name and no value is the same. -/
def word? (meaning : String → Option α) (dialect : Dialect) : Document → Option α
  | .text s => meaning s
  | .table [(s, d)] => if dialect.isNothing d then meaning s else none
  | _ => none

/-! ### Reading records -/

/-- The fields of a record; none if a field is given twice or there are too many. -/
def fields? (names : List String) (dialect : Dialect) : Document → Option (List (String × Document))
  | .table fields =>
    if names.all fun name => (fields.filter fun f => f.1 == name).length ≤ 1 then some fields
    else none
  | .list items =>
    if dialect.surplus || items.length ≤ names.length then some (names.zip items) else none
  | _ => none

/-- Reads a field that has to be there. -/
def required? (fields : List (String × Document)) (name : String) (value : Document → Option α) :
    Option α :=
  (fields.lookup name).bind value

/-- Reads a field that has a value of its own when it is left out. -/
def optional? (fields : List (String × Document)) (name : String) (default : α)
    (value : Document → Option α) : Option α :=
  match fields.lookup name with
  | none => some default
  | some d => value d

end Document

end CacheKeys
