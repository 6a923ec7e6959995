import CacheKeys.Document.Json

/-! # Messages

What a command tells, and how `Mode.render` writes it.  Most kinds of messages are for people and
are left out where the reader is a program.  A line and a document are written for every reader, so
it is up to a command which of the two it tells. -/

namespace CacheKeys.CommandLine

/-- Whether details are written, and whether the reader is a program. -/
structure Mode where
  verbose : Bool
  json : Bool
  deriving DecidableEq

/-- The output, and the one for errors. -/
inductive Stream where
  | out
  | err
  deriving DecidableEq

/-- Something that a command tells.  Each cell of a row has a least number of characters. -/
inductive Message where
  | info (text : String)
  | success (text : String)
  | warning (text : String)
  | detail (text : String)
  | heading (text : String)
  | pair (name value : String)
  | item (text : String)
  | row (cells : List (String × Nat))
  | line (text : String)
  | document (d : Document)

/-- A cell filled up with spaces. -/
def padded (cell : String × Nat) : String :=
  cell.1 ++ String.ofList (List.replicate (cell.2 - cell.1.length) ' ')

/-- Where a message is written, and as what, without the line break. -/
def Mode.render (m : Mode) : Message → Option (Stream × String)
  | .info text => if m.json then none else some (.out, "ℹ " ++ text)
  | .success text => if m.json then none else some (.out, "✓ " ++ text)
  | .warning text => if m.json then none else some (.err, "⚠ " ++ text)
  | .detail text => if !m.verbose || m.json then none else some (.err, "→ " ++ text)
  | .heading text => if m.json then none else some (.out, "\n" ++ text)
  | .pair name value => if m.json then none else some (.out, "  " ++ name ++ ": " ++ value)
  | .item text => if m.json then none else some (.out, "  • " ++ text)
  | .row cells =>
    if m.json then none else some (.out, "  " ++ String.intercalate "  " (cells.map padded))
  | .line text => some (.out, text)
  | .document d => some (.out, Json.pretty d)

/-- The line that tells why a command failed. -/
def Mode.renderFailure (m : Mode) (text : String) : String :=
  if m.json then Json.compact (.table [("error", .text text)]) else "✗ " ++ text

def Mode.lineOn (m : Mode) (stream : Stream) (message : Message) : Option String :=
  match m.render message with
  | some (s, text) => if s = stream then some (text ++ "\n") else none
  | none => none

def Mode.textOn (m : Mode) (stream : Stream) (messages : List Message) : String :=
  String.join (messages.filterMap (m.lineOn stream))

end CacheKeys.CommandLine
