import CacheKeys.Decimal.Fixed
import CacheKeys.Decimal.Shortest
import CacheKeys.Document.Json
import CacheKeys.Metrics.KeyMetrics

/-! # Reports on metrics

Durations as numbers of microseconds, and metrics as documents and as text. -/

namespace CacheKeys

/-- A duration: whole seconds, and the rest in nanoseconds. -/
structure Duration where
  seconds : Nat
  nanoseconds : Nat

def Duration.inSeconds (d : Duration) : Float :=
  countFloat (d.seconds + d.nanoseconds / 1000000000) +
    countFloat (d.nanoseconds % 1000000000) / 1000000000

def Duration.inMicros (d : Duration) : Float := d.inSeconds * 1000000

/-- A number as a document; what is no number is null. -/
def Document.ofFloat (x : Float) : Document :=
  match Decimal.text? x with
  | some numeral => .decimal numeral
  | none => .null

def Summary.toDocument (s : Summary Float) : Document :=
  .table [("count", .ofNat s.count), ("mean", .ofFloat s.mean), ("min", .ofFloat s.min),
    ("max", .ofFloat s.max), ("median", .ofFloat s.median), ("p90", .ofFloat s.p90),
    ("p99", .ofFloat s.p99), ("mode", .ofFloat s.mode)]

def RuleMetrics.toDocument (r : RuleMetrics Float) : Document :=
  .table [("rule", .text r.rule), ("keys", .ofNat r.keys), ("sentinel_keys", .ofNat r.sentinelKeys),
    ("duration_us", r.duration.toDocument)]

def RuleMetrics.lines (r : RuleMetrics Float) : List String :=
  let us := fun x => Decimal.fixed 2 x ++ "us"
  ["Rule: " ++ r.rule,
    "  Keys: " ++ toString r.keys ++ " (" ++ toString r.sentinelKeys ++ " with sentinel)",
    "  Duration: mean " ++ us r.duration.mean ++ ", median " ++ us r.duration.median ++
      ", p90 " ++ us r.duration.p90 ++ ", p99 " ++ us r.duration.p99 ++
      ", max " ++ us r.duration.max]

namespace KeyMetrics

def toDocument (m : KeyMetrics Float) : Document := .list (m.summaries.map (·.toDocument))

/-- All statistics as JSON on one line. -/
def json (m : KeyMetrics Float) : String := Json.compact m.toDocument

/-- All statistics as text. -/
def report (m : KeyMetrics Float) : String :=
  String.intercalate "\n" (m.summaries.flatMap (·.lines))

end KeyMetrics

/-- A number of microseconds in the unit that suits it. -/
def formatMicros (us : Float) : String :=
  if us < 1000 then Decimal.fixed 2 us ++ "\u00b5s"
  else if us < 1000000 then Decimal.fixed 2 (us / 1000) ++ "ms"
  else Decimal.fixed 2 (us / 1000000) ++ "s"

end CacheKeys
