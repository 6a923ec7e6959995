import CacheKeys.Metrics.Aggregate
import CacheKeys.NameTable

/-! # Metrics of rules

For every rule, how many keys it derived, how many of them held a marker, and how long the timed
ones took.  Collectors that were filled separately can be merged. -/

namespace CacheKeys

variable {α : Type} [Quantity α]

/-- What is known about the keys of one rule; only timed derivations have a duration. -/
structure RuleStats (α : Type) where
  durations : Aggregate α
  keys : Nat
  sentinelKeys : Nat

namespace RuleStats

/-- Nothing derived yet. -/
def empty : RuleStats α := ⟨.empty, 0, 0⟩

def countKey (s : RuleStats α) (hasSentinel : Bool) : RuleStats α :=
  { s with
    keys := s.keys + 1
    sentinelKeys := if hasSentinel then s.sentinelKeys + 1 else s.sentinelKeys }

def time (s : RuleStats α) (duration : α) : RuleStats α :=
  { s with durations := s.durations.record duration }

/-- The statistics of two collectors together. -/
def merge (s t : RuleStats α) : RuleStats α :=
  ⟨s.durations.merge t.durations, s.keys + t.keys, s.sentinelKeys + t.sentinelKeys⟩

end RuleStats

/-- The statistics of all rules that derived a key. -/
structure KeyMetrics (α : Type) where
  rules : NameTable (RuleStats α)

/-- The statistics of a rule, summed up; durations are in microseconds. -/
structure RuleMetrics (α : Type) where
  rule : String
  keys : Nat
  sentinelKeys : Nat
  duration : Summary α

namespace KeyMetrics

/-- Nothing derived yet. -/
def empty : KeyMetrics α := ⟨.empty⟩

/-- Changes the statistics of a rule. -/
def update (m : KeyMetrics α) (rule : String) (f : RuleStats α → RuleStats α) : KeyMetrics α :=
  ⟨m.rules.set rule fun old => f (old.getD .empty)⟩

/-- Counts a key and records how long it took. -/
def record (m : KeyMetrics α) (rule : String) (duration : α) (hasSentinel : Bool) : KeyMetrics α :=
  m.update rule fun s => (s.countKey hasSentinel).time duration

/-- Counts a key that was not timed. -/
def recordUntimed (m : KeyMetrics α) (rule : String) (hasSentinel : Bool) : KeyMetrics α :=
  m.update rule fun s => s.countKey hasSentinel

/-- The metrics of two collectors together. -/
def merge (m n : KeyMetrics α) : KeyMetrics α :=
  n.rules.entries.foldl (fun m e => m.update e.1 fun s => s.merge e.2) m

def totalKeys (m : KeyMetrics α) : Nat := m.rules.values.foldl (fun n r => n + r.keys) 0

/-- The statistics of every rule, in the order of their names. -/
def summaries (m : KeyMetrics α) : List (RuleMetrics α) :=
  m.rules.entries.map fun e =>
    ⟨e.1, e.2.keys, e.2.sentinelKeys, e.2.durations.snapshot.summary⟩

end KeyMetrics

end CacheKeys
