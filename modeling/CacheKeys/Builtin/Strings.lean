import CacheKeys.TextFunction
import CacheKeys.Text.CaseMap

/-! # Builtin text functions

Positions and lengths count characters.  Ranges that reach beyond a text are cut to it, so a call
with readable integers always has a value. -/

namespace CacheKeys.Builtin

/-- The integer from `first` to `last` that is nearest to `n`. -/
def clamp (first last n : Int) : Int := max first (min last n)

/-- The position behind a part of a text: the end of the text if no length is given, else the sum
of start and length, first kept among the integers that an argument can be, then moved into the
text. -/
def sliceEnd (size start : Int) : Option Int → Int
  | none => size
  | some length =>
    clamp 0 size (clamp (-Text.integerBound) (Text.integerBound - 1) (start + length))

/-- The characters at the positions from `start` up to, but not including, `start + length`; all
from `start` on if there is no length. -/
def slice (s : List Char) (start : Int) (length : Option Int) : List Char :=
  let first := clamp 0 s.length start
  let last := sliceEnd s.length start length
  if last ≤ first then [] else (s.drop first.toNat).take (last - first).toNat

/-- The token at an index; empty if the index is negative or too great. -/
def token (s : String) (index : Int) : String :=
  if index < 0 then "" else ((Text.words s)[index.toNat]?).getD ""

/-- A part of a text. -/
def substr : TextFunction where
  name := "substr"
  arity := .between 2 3
  summary := "Substring from start (0-based) with optional length, clamped to the input"
  meaning args := do
    let start ← args.int 1
    let length ← args.int? 2
    return String.ofList (slice (args.text 0).toList start length)

/-- A token of a text. -/
def select : TextFunction where
  name := "select"
  arity := .exactly 2
  summary := "Whitespace-separated token at index, empty when out of range"
  meaning args := do
    let index ← args.int 1
    return token (args.text 0) index

def lower : TextFunction where
  name := "lower"
  arity := .exactly 1
  summary := "Lowercase the input"
  meaning args := .ok (Text.lower (args.text 0))

def upper : TextFunction where
  name := "upper"
  arity := .exactly 1
  summary := "Uppercase the input"
  meaning args := .ok (Text.upper (args.text 0))

def len : TextFunction where
  name := "len"
  arity := .exactly 1
  summary := "Character count of the input"
  meaning args := .ok (toString (args.text 0).length)

end CacheKeys.Builtin
