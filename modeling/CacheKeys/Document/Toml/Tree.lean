import CacheKeys.Document.Basic

/-! # Tables in TOML

The tables of a TOML text are opened by headers and extended by dotted names.  A table is opened at
most once; one that came about on the way to another can still be opened, and one that a dotted name
made can be extended by dotted names only.  A table in a list of tables is the last one of it. -/

namespace CacheKeys.Toml

/-- How a table came about: with a header of its own, on the way to a table with one, or in a dotted
name. -/
inductive Origin where
  | header
  | implied
  | dotted

/-- What stands under a name: a value, closed for ever, a table, or a list of tables that headers
open one after another, the last of which is still open. -/
inductive Node where
  | value (d : Document)
  | table (origin : Origin) (fields : List (String × Node))
  | tables (earlier : List (List (String × Node))) (last : List (String × Node))

/-- The fields of a table. -/
abbrev Fields := List (String × Node)

mutual

def Node.toDocument : Node → Document
  | .value d => d
  | .table _ fields => .table (fieldDocuments fields)
  | .tables earlier last => .list (tableDocuments earlier ++ [.table (fieldDocuments last)])

def fieldDocuments : List (String × Node) → List (String × Document)
  | [] => []
  | (name, node) :: rest => (name, node.toDocument) :: fieldDocuments rest

def tableDocuments : List (List (String × Node)) → List Document
  | [] => []
  | fields :: rest => .table (fieldDocuments fields) :: tableDocuments rest

end

/-- Changes what stands under a name. -/
def change (name : String) (f : Option Node → Option Node) : Fields → Option Fields
  | [] => (f none).map fun node => [(name, node)]
  | (k, node) :: rest =>
    if k = name then (f (some node)).map fun changed => (k, changed) :: rest
    else (change name f rest).map ((k, node) :: ·)

/-- Changes the fields of the table at a path of names. -/
def changeAt (f : Fields → Option Fields) : List String → Fields → Option Fields
  | [], fields => f fields
  | name :: path, fields =>
    let enter : Option Node → Option Node
      | none => (changeAt f path []).map (.table .implied)
      | some (.table origin inner) => (changeAt f path inner).map (.table origin)
      | some (.tables earlier last) => (changeAt f path last).map (.tables earlier)
      | some (.value _) => none
    change name enter fields

def openTable (path : List String) (name : String) : Fields → Option Fields :=
  let enter : Option Node → Option Node
    | none => some (.table .header [])
    | some (.table .implied inner) => some (.table .header inner)
    | some _ => none
  changeAt (change name enter) path

/-- Opens a further table of a list. -/
def openItem (path : List String) (name : String) : Fields → Option Fields :=
  let enter : Option Node → Option Node
    | none => some (.tables [] [])
    | some (.tables earlier last) => some (.tables (earlier ++ [last]) [])
    | some _ => none
  changeAt (change name enter) path

/-- Sets a value under a dotted name that has none yet; `isOpen` tells whether these fields accept
one. -/
def assign (value : Document) (name : String) :
    (isOpen : Bool) → List String → Fields → Option Fields
  | isOpen, [], fields =>
    let enter : Option Node → Option Node
      | none => some (.value value)
      | some _ => none
    if isOpen then change name enter fields else none
  | _, next :: path, fields =>
    let enter : Option Node → Option Node
      | none => (assign value name true path []).map (.table .dotted)
      | some (.table .dotted inner) => (assign value name true path inner).map (.table .dotted)
      | some (.table .implied inner) => (assign value name false path inner).map (.table .implied)
      | some (.tables earlier last) => (assign value name false path last).map (.tables earlier)
      | some (.table .header _) => none
      | some (.value _) => none
    change next enter fields

end CacheKeys.Toml
