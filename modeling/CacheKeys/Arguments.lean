import CacheKeys.Sentinel
import CacheKeys.Text.Numeral

/-! # Arguments of a call

The texts that a function is called with, and the ways in which it reads them.  A missing argument
reads as the empty text; an integer may have blanks around it. -/

namespace CacheKeys

/-- The evaluated arguments of a call, in order. -/
structure Arguments where
  values : List String

namespace Arguments

def size (a : Arguments) : Nat := a.values.length

def isEmpty (a : Arguments) : Bool := a.values.isEmpty

def get? (a : Arguments) (i : Nat) : Option String := a.values[i]?

/-- The text of an argument, empty if there is none. -/
def text (a : Arguments) (i : Nat) : String := (a.get? i).getD ""

/-- Reads a signed integer between blanks. -/
def readInt (s : String) : Except Sentinel Int :=
  match Text.readInteger? (Text.trimBlanks s) with
  | some n => .ok n
  | none => .error .badType

/-- An argument as an integer. -/
def int (a : Arguments) (i : Nat) : Except Sentinel Int := readInt (a.text i)

/-- An argument as an integer, `none` if there is no such argument. -/
def int? (a : Arguments) (i : Nat) : Except Sentinel (Option Int) :=
  match a.get? i with
  | none => .ok none
  | some s => (readInt s).map some

end Arguments

end CacheKeys
