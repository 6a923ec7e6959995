import CacheKeys.Arguments

/-! # Functions on texts

A function that templates can call has a name, an arity and a meaning on argument texts.  The
meaning is asked only for argument counts that the arity accepts; every failure becomes the marker
of a sentinel, so a call always has a text. -/

namespace CacheKeys

/-- How many arguments a function takes, at least and at most, if there is a bound. -/
structure Arity where
  min : Nat
  max : Option Nat
  deriving DecidableEq

namespace Arity

def exactly (n : Nat) : Arity := ⟨n, some n⟩

def between (min max : Nat) : Arity := ⟨min, some max⟩

/-- `min` arguments or more.  No builtin function is of this kind; it is there for functions that a
program registers itself. -/
def atLeast (min : Nat) : Arity := ⟨min, none⟩

/-- Whether a number of arguments is admitted. -/
def accepts (a : Arity) (count : Nat) : Bool :=
  decide (a.min ≤ count) &&
    match a.max with
    | some max => decide (count ≤ max)
    | none => true

/-- The arity in words: one number, a closed range or an open one. -/
def text (a : Arity) : String :=
  match a.max with
  | some max =>
    if max = a.min then toString max else toString a.min ++ "..=" ++ toString max
  | none => toString a.min ++ ".."

end Arity

/-- A function that templates can call; the meaning is its value on arguments that the arity
accepts. -/
structure TextFunction where
  name : String
  arity : Arity
  summary : String
  meaning : Arguments → Except Sentinel String

namespace TextFunction

/-- The text of a call, where `marker` gives the texts of sentinels. -/
def invokeWith (marker : Sentinel → String) (f : TextFunction) (args : Arguments) : String :=
  if f.arity.accepts args.size then
    match f.meaning args with
    | .ok text => text
    | .error s => marker s
  else marker .argCount

def invoke (f : TextFunction) (args : Arguments) : String :=
  f.invokeWith Sentinel.marker args

end TextFunction

end CacheKeys
