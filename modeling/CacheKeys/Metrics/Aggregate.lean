import CacheKeys.Metrics.Quantity

/-! # Aggregates and order statistics

An aggregate records samples and knows their number, mean and extremes at any time.  A snapshot puts
the samples of an aggregate in order; quantiles and the most frequent value are read from it. -/

namespace CacheKeys

variable {α : Type} [Quantity α]

/-! ### Aggregates -/

/-- Samples, in the order in which they were recorded, and what is known about them. -/
structure Aggregate (α : Type) where
  samples : Array α
  sum : α
  least : Option α
  greatest : Option α

namespace Aggregate

def empty : Aggregate α := ⟨#[], Quantity.zero, none, none⟩

/-- Records a sample; what is not finite is passed over. -/
def record (a : Aggregate α) (x : α) : Aggregate α :=
  if Quantity.isFinite x then
    ⟨a.samples.push x, Quantity.add a.sum x,
      some (match a.least with
        | some y => Quantity.lesser y x
        | none => x),
      some (match a.greatest with
        | some y => Quantity.greater y x
        | none => x)⟩
  else a

/-- Records samples one after another. -/
def recordAll (a : Aggregate α) (xs : List α) : Aggregate α := xs.foldl record a

/-- Records the samples of another aggregate. -/
def merge (a b : Aggregate α) : Aggregate α := a.recordAll b.samples.toList

def count (a : Aggregate α) : Nat := a.samples.size

/-- The arithmetic mean, zero without samples. -/
def mean (a : Aggregate α) : α :=
  if a.samples.isEmpty then Quantity.zero else Quantity.divide a.sum a.count

/-- The least sample, zero without samples. -/
def min (a : Aggregate α) : α := a.least.getD Quantity.zero

/-- The greatest sample, zero without samples. -/
def max (a : Aggregate α) : α := a.greatest.getD Quantity.zero

end Aggregate

/-! ### Snapshots -/

/-- Samples from the least to the greatest. -/
structure Snapshot (α : Type) where
  sorted : List α

def Aggregate.snapshot (a : Aggregate α) : Snapshot α :=
  ⟨a.samples.toList.mergeSort Quantity.inOrder⟩

/-- A value and how often it occurs in a row. -/
structure Run (α : Type) where
  value : α
  length : Nat

/-- The last run of a list of samples, which the next one may continue, and the longest run, the
first of several of one length. -/
structure Runs (α : Type) where
  last : Run α
  longest : Run α

/-- Before the first sample, which continues no run and is a longer one by itself. -/
def Runs.start : Runs α := ⟨⟨Quantity.undefined, 0⟩, ⟨Quantity.zero, 0⟩⟩

/-- Takes one more sample into account. -/
def Runs.step (r : Runs α) (x : α) : Runs α :=
  let last : Run α :=
    if Quantity.same x r.last.value then ⟨r.last.value, r.last.length + 1⟩ else ⟨x, 1⟩
  ⟨last, if r.longest.length < last.length then last else r.longest⟩

namespace Snapshot

/-- The sample at a fraction of the way through the samples, the last one at the end; zero without
samples. -/
def quantile (s : Snapshot α) (q : α) : α :=
  let n := s.sorted.length
  (s.sorted[Nat.min (Quantity.partsOf q n) (n - 1)]?).getD Quantity.zero

def median (s : Snapshot α) : α := s.quantile Quantity.half

/-- The most frequent value, the least of several; zero without samples. -/
def mode (s : Snapshot α) : α := (s.sorted.foldl Runs.step .start).longest.value

/-- The arithmetic mean of the samples in order, zero without samples. -/
def mean (s : Snapshot α) : α :=
  if s.sorted.isEmpty then Quantity.zero
  else Quantity.divide (s.sorted.foldl Quantity.add Quantity.neutral) s.sorted.length

end Snapshot

/-! ### Summaries -/

/-- The usual statistics of samples, with the quantiles at nine tenths and at ninety-nine
hundredths. -/
structure Summary (α : Type) where
  count : Nat
  mean : α
  min : α
  max : α
  median : α
  p90 : α
  p99 : α
  mode : α

def Snapshot.summary (s : Snapshot α) : Summary α where
  count := s.sorted.length
  mean := s.mean
  min := s.sorted.head?.getD Quantity.zero
  max := s.sorted.getLast?.getD Quantity.zero
  median := s.median
  p90 := s.quantile Quantity.nineTenths
  p99 := s.quantile Quantity.ninetyNineHundredths
  mode := s.mode

end CacheKeys
