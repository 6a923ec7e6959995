import CacheKeys.CommandLine.Session
import CacheKeys.Metrics.Report

/-! # Benchmarks

Measuring how long a template takes, by evaluating it again and again in several workers.  Each
worker evaluates into a buffer of its own (`Worker.step`).  The readings of the clock are given; of
each worker at most ten thousand durations are kept, at regular distances, and all other evaluations
are only counted. -/

namespace CacheKeys.CommandLine

open Template

/-- The readings of a clock: how long each evaluation of a worker took, and how long everything. -/
structure Clock where
  evaluation : (worker iteration : Nat) → Duration
  total : Duration

/-- The rule that evaluations are counted for. -/
def benchmarkRule : String := "bench"

/-- The greatest number of durations kept for a worker. -/
def maxSamples : Nat := 10000

/-- The distance between two evaluations of which the durations are kept. -/
def sampleStride (iterations : Nat) : Nat := max 1 ((iterations + (maxSamples - 1)) / maxSamples)

section Workers

variable {α : Type} [Quantity α]

/-- The buffer that a worker evaluates into, and its metrics. -/
structure Worker (α : Type) where
  key : String
  metrics : KeyMetrics α

namespace Worker

def start : Worker α := ⟨"", .empty⟩

def clear (w : Worker α) : Worker α := { w with key := "" }

/-- Writes a key behind what the buffer holds. -/
def evaluate (t : Compiled) (ctx : Context) (w : Worker α) : Worker α :=
  { w with key := t.evaluateOnto w.key ctx }

/-- Counts the key in the buffer; one in `stride` is timed. -/
def count (stride : Nat) (duration : Nat → α) (w : Worker α) (i : Nat) : Worker α :=
  let hasSentinel := Sentinel.isPresentIn w.key
  { w with metrics :=
      if i % stride = 0 then w.metrics.record benchmarkRule (duration i) hasSentinel
      else w.metrics.recordUntimed benchmarkRule hasSentinel }

/-- Evaluates the template once more. -/
def step (t : Compiled) (ctx : Context) (stride : Nat) (duration : Nat → α) (w : Worker α)
    (i : Nat) : Worker α :=
  (w.clear.evaluate t ctx).count stride duration i

end Worker

def workerMetrics (t : Compiled) (ctx : Context) (iterations : Nat) (duration : Nat → α) :
    KeyMetrics α :=
  ((List.range iterations).foldl (Worker.step t ctx (sampleStride iterations) duration)
    Worker.start).metrics

/-- The metrics of all workers together. -/
def benchmarkMetrics (t : Compiled) (ctx : Context) (threads iterations : Nat)
    (duration : Nat → Nat → α) : KeyMetrics α :=
  (List.range threads).foldl
    (fun m worker => m.merge (workerMetrics t ctx iterations (duration worker))) .empty

end Workers

/-- How many evaluations there were in a second; zero if no time has passed. -/
def throughput (count : Nat) (elapsed : Duration) : Float :=
  if 0 < elapsed.inSeconds then countFloat count / elapsed.inSeconds else 0

def ruleMessages (r : RuleMetrics Float) : List Message :=
  [.pair "mean" (formatMicros r.duration.mean), .pair "median" (formatMicros r.duration.median),
    .pair "p90" (formatMicros r.duration.p90), .pair "p99" (formatMicros r.duration.p99),
    .pair "max" (formatMicros r.duration.max)] ++
  if 0 < r.sentinelKeys then
    [.warning (toString r.sentinelKeys ++ " key(s) contained a sentinel")]
  else []

/-- Measures how long a template takes. -/
def benchmark (m : Mode) (s : Session) (clock : Clock) (template : String) (values : List String)
    (iterations threads : Nat) : Report :=
  if threads = 0 ∨ iterations = 0 then .ofFailure .nothingToMeasure
  else match s.compiler.compile template with
    | .error e => .ofFailure (.compile template e)
    | .ok t =>
      let metrics := benchmarkMetrics t ⟨values⟩ threads iterations
        fun worker i => (clock.evaluation worker i).inMicros
      let perSecond := throughput metrics.totalKeys clock.total
      if m.json then
        .ofMessages [.document (.table [("template", .text template), ("threads", .ofNat threads),
          ("iterations", .ofNat iterations),
          ("elapsed_ms", .ofFloat (clock.total.inSeconds * 1000)),
          ("evals_per_sec", .ofFloat perSecond), ("metrics", metrics.toDocument.byName)])]
      else
        .ofMessages (
          [.heading "Benchmark", .pair "template" template, .pair "key" (t.evaluate ⟨values⟩),
            .pair "evaluations" (toString (iterations * threads) ++ " (" ++ toString threads ++
              " thread(s) x " ++ toString iterations ++ ")"),
            .pair "elapsed" (formatMicros clock.total.inMicros),
            .pair "throughput" (Decimal.fixed 0 perSecond ++ " evals/s")] ++
          metrics.summaries.flatMap ruleMessages ++ [.detail metrics.report])

end CacheKeys.CommandLine
