import CacheKeys.NameTable
import CacheKeys.Rule.Basic

/-! # Collections of rules

Rules in the order of their registration, with an index of positions by name.  A rule whose name is
taken is refused and leaves the collection as it is. -/

namespace CacheKeys

/-- Rules in the order of their registration, and the position of each name. -/
structure RuleSet where
  rules : List Rule
  positions : NameTable Nat

namespace RuleSet

def empty : RuleSet := ⟨[], .empty⟩

def size (s : RuleSet) : Nat := s.rules.length

def isEmpty (s : RuleSet) : Bool := s.rules.isEmpty

def get? (s : RuleSet) (name : String) : Option Rule :=
  (s.positions.get? name).bind fun i => s.rules[i]?

def names (s : RuleSet) : List String := s.rules.map (·.name)

/-- Registers a rule in place, under a new name: its position is recorded, then it is put last. -/
def register (r : Rule) : ExceptT RuleError (StateM RuleSet) Unit := do
  if (← get).positions.contains r.name then
    throw (.duplicate r.name)
  modify fun s => { s with positions := s.positions.insert r.name s.rules.length }
  modify fun s => { s with rules := s.rules ++ [r] }

/-- The collection with one more rule, under a new name. -/
def insert (s : RuleSet) (r : Rule) : Except RuleError RuleSet :=
  match ((register r).run.run s).run with
  | (.ok _, s') => .ok s'
  | (.error e, _) => .error e

/-- The key that the rule of a name derives. -/
def derive (s : RuleSet) (name : String) (request : Request) : Option CacheKey :=
  (s.get? name).map fun r => r.derive request

/-- Registers the rule of a configuration. -/
def insertConfig (compiler : Template.Compiler) (s : RuleSet) (c : RuleConfig) :
    Except RuleError RuleSet :=
  match Rule.ofConfig compiler c with
  | .error e => .error e
  | .ok r => s.insert r

/-- The rules of all configurations; the first fault stops it. -/
def ofConfigs (compiler : Template.Compiler) (configs : List RuleConfig) :
    Except RuleError RuleSet :=
  configs.foldlM (insertConfig compiler) empty

end RuleSet

end CacheKeys
