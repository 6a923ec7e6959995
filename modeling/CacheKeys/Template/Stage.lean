import CacheKeys.TextFunction

/-! # Evaluating templates

A stage is a template node whose function names have been resolved.  Evaluating it against the
values of a context never fails: what has no value leaves a marker. -/

namespace CacheKeys.Template

/-- The values that a template reads by position. -/
structure Context where
  values : List String
  deriving DecidableEq

namespace Context

def get? (ctx : Context) (i : Nat) : Option String := ctx.values[i]?

def size (ctx : Context) : Nat := ctx.values.length

def isEmpty (ctx : Context) : Bool := ctx.values.isEmpty

end Context

/-- A node ready for evaluation. -/
inductive Stage where
  | literal (text : String)
  | argRef (index : Nat)
  | call (function : TextFunction) (args : List Stage)
  | concat (parts : List Stage)

namespace Stage

mutual

/-- The text of a stage, where `marker` gives the texts of sentinels.  The arguments of a call with
a wrong number of them are not evaluated. -/
def renderWith (marker : Sentinel → String) (ctx : Context) : Stage → String
  | .literal text => text
  | .argRef index => (ctx.get? index).getD (marker .argCount)
  | .call f args =>
    if f.arity.accepts args.length then f.invokeWith marker ⟨renderAllWith marker ctx args⟩
    else marker .argCount
  | .concat parts => String.join (renderAllWith marker ctx parts)

/-- The texts of stages. -/
def renderAllWith (marker : Sentinel → String) (ctx : Context) : List Stage → List String
  | [] => []
  | s :: ss => s.renderWith marker ctx :: renderAllWith marker ctx ss

end

/-- The text of a stage. -/
def render (ctx : Context) (s : Stage) : String := s.renderWith Sentinel.marker ctx

def isLiteral : Stage → Bool
  | .literal _ => true
  | _ => false

/-- The greater of two indices, where there may be none. -/
def maxIndex : Option Nat → Option Nat → Option Nat
  | none, b => b
  | a, none => a
  | some a, some b => some (max a b)

mutual

/-- The greatest context index that a stage reads. -/
def maxArgIndex : Stage → Option Nat
  | .literal _ => none
  | .argRef index => some index
  | .call _ args => maxArgIndexAll args
  | .concat parts => maxArgIndexAll parts

/-- The greatest context index that stages read. -/
def maxArgIndexAll : List Stage → Option Nat
  | [] => none
  | s :: ss => maxIndex s.maxArgIndex (maxArgIndexAll ss)

end

end Stage

end CacheKeys.Template
