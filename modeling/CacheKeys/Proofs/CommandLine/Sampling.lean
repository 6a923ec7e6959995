import Mathlib
import CacheKeys.CommandLine.Benchmark
import CacheKeys.Proofs.Metrics.Durations
import CacheKeys.Proofs.Metrics.Sharding

/-! # Samples of a benchmark

Every evaluation of a benchmark is counted and some are timed.  The distance between two timed ones
is a quotient rounded up, and so is their number (`timed_eq`), which bounds it on both sides.  Each
evaluation is one event for the collector of its worker (`workerMetrics_eq_ofEvents`), and merging
the collectors joins their events, so none is lost and none is counted twice
(`benchmark_counts_all_evaluations`). -/

namespace CacheKeys.CommandLine

/-! ### The number of timed evaluations -/

/-- The number of multiples of a distance is a quotient rounded up. -/
theorem countP_range_mod {k : ℕ} (hk : 0 < k) (n : ℕ) :
    (List.range n).countP (fun i => i % k = 0) = n ⌈/⌉ k := by
  have hcount : (List.range n).countP (fun i => i % k = 0) = n.count (· ≡ 0 [MOD k]) :=
    List.countP_congr fun i _ => by
      rw [decide_eq_true_iff, decide_eq_true_iff]
      show i % k = 0 ↔ i % k = 0 % k
      rw [Nat.zero_mod]
  rw [hcount, Nat.count_modEq_card n hk 0, Nat.zero_mod, Nat.ceilDiv_eq_add_pred_div]
  have hn := Nat.div_add_mod n k
  have hr := Nat.mod_lt n hk
  have hsum : n + k - 1 = k * (n / k) + (n % k + (k - 1)) := by omega
  rw [hsum, Nat.mul_add_div hk]
  refine congrArg (n / k + ·) ?_
  split_ifs with h0
  · exact (Nat.div_eq_of_lt_le (by omega) (by omega)).symm
  · exact (Nat.div_eq_of_lt (by omega)).symm

/-- The number of evaluations of a worker that are timed. -/
def timed (iterations : ℕ) : ℕ :=
  (List.range iterations).countP fun i => i % sampleStride iterations = 0

theorem sampleStride_eq (n : ℕ) : sampleStride n = max 1 (n ⌈/⌉ maxSamples) := by
  rw [sampleStride, Nat.ceilDiv_eq_add_pred_div]
  rfl

theorem one_le_sampleStride (n : ℕ) : 1 ≤ sampleStride n := le_max_left ..

theorem timed_eq (n : ℕ) : timed n = n ⌈/⌉ sampleStride n :=
  countP_range_mod (one_le_sampleStride n) n

/-- What a rounded-up quotient is bounded by, its product with the divisor is bounded by. -/
theorem timed_le_iff {n m : ℕ} : timed n ≤ m ↔ n ≤ sampleStride n * m := by
  rw [timed_eq, ceilDiv_le_iff_le_mul (one_le_sampleStride n)]

theorem timed_pos {n : ℕ} (hn : 1 ≤ n) : 1 ≤ timed n := by
  by_contra h
  have := timed_le_iff.1 (Nat.le_of_lt_succ (Nat.lt_of_not_le h))
  omega

theorem timed_le (n : ℕ) : timed n ≤ maxSamples := by
  have hstride : n ⌈/⌉ maxSamples ≤ sampleStride n := by
    rw [sampleStride_eq]
    exact le_max_right ..
  rw [ceilDiv_le_iff_le_mul (by decide)] at hstride
  rw [timed_le_iff, Nat.mul_comm]
  exact hstride

theorem timed_of_le {n : ℕ} (hn : n ≤ maxSamples) : timed n = n := by
  have hstride : sampleStride n = 1 := by
    rw [sampleStride_eq]
    refine max_eq_left ?_
    rw [ceilDiv_le_iff_le_mul (by decide), Nat.mul_one]
    exact hn
  rw [timed_eq, hstride, ceilDiv_one]

/-- Rounding up the distance costs less than half of the samples. -/
theorem lt_timed {n : ℕ} (hn : maxSamples < n) : maxSamples / 2 < timed n := by
  by_contra h
  have hle := timed_le_iff.1 (Nat.le_of_not_lt h)
  have hstride : sampleStride n * maxSamples ≤ n + (maxSamples - 1) := by
    unfold sampleStride maxSamples at *
    omega
  unfold maxSamples at hn hle hstride
  omega

/-! ### Evaluations as events -/

section Workers

variable {α : Type} [Quantity α]

def evaluationEvent (stride : ℕ) (duration : ℕ → α) (hasSentinel : Bool) (i : ℕ) : KeyEvent α :=
  ⟨benchmarkRule, if i % stride = 0 then some (duration i) else none, hasSentinel⟩

def workerEvents (iterations : ℕ) (duration : ℕ → α) (hasSentinel : Bool) : List (KeyEvent α) :=
  (List.range iterations).map
    (evaluationEvent (sampleStride iterations) duration hasSentinel)

/-- The events of all workers. -/
def benchmarkEvents (threads iterations : ℕ) (duration : ℕ → ℕ → α) (hasSentinel : Bool) :
    List (KeyEvent α) :=
  (List.range threads).flatMap fun worker =>
    workerEvents iterations (duration worker) hasSentinel

section Evaluations

variable (t : Template.Compiled) (ctx : Template.Context)

/-- Whether the key of every evaluation holds a marker. -/
def isMarked : Bool := Sentinel.isPresentIn (t.evaluate ctx)

theorem evaluateOnto_empty : t.evaluateOnto "" ctx = t.evaluate ctx := String.empty_append

/-- Whatever a worker did before, after one more evaluation its buffer holds the key, and it has
counted one more event. -/
theorem Worker.step_eq (stride : ℕ) (duration : ℕ → α) (w : Worker α) (i : ℕ) :
    w.step t ctx stride duration i =
      ⟨t.evaluate ctx, w.metrics.add (evaluationEvent stride duration (isMarked t ctx) i)⟩ := by
  have hkey : (w.clear.evaluate t ctx).key = t.evaluate ctx := evaluateOnto_empty t ctx
  have hmetrics : (w.clear.evaluate t ctx).metrics = w.metrics := rfl
  unfold step count evaluationEvent KeyMetrics.add isMarked
  rw [hkey, hmetrics]
  split <;> rfl

/-- The marker test has the same result in every iteration. -/
theorem Worker.metrics_foldl_step (stride : ℕ) (duration : ℕ → α) (is : List ℕ) (w : Worker α) :
    (is.foldl (step t ctx stride duration) w).metrics =
      (is.map (evaluationEvent stride duration (isMarked t ctx))).foldl KeyMetrics.add
        w.metrics := by
  induction is generalizing w with
  | nil => rfl
  | cons i is ih => rw [List.foldl_cons, ih, step_eq, List.map_cons, List.foldl_cons]

theorem workerMetrics_eq_ofEvents (iterations : ℕ) (duration : ℕ → α) :
    workerMetrics t ctx iterations duration =
      .ofEvents (workerEvents iterations duration (isMarked t ctx)) :=
  Worker.metrics_foldl_step t ctx (sampleStride iterations) duration (List.range iterations) .start

/-- With every worker that is merged its events join those before. -/
theorem reflects_benchmarkMetrics (threads iterations : ℕ) (duration : ℕ → ℕ → α) :
    (benchmarkMetrics t ctx threads iterations duration).Reflects
      (benchmarkEvents threads iterations duration (isMarked t ctx)) := by
  induction threads with
  | zero => exact KeyMetrics.reflects_empty
  | succ threads ih =>
      rw [benchmarkMetrics, benchmarkEvents, List.range_succ, List.foldl_append,
        List.flatMap_append, List.flatMap_singleton]
      refine ih.merge ?_
      rw [workerMetrics_eq_ofEvents]
      exact KeyMetrics.reflects_ofEvents _

end Evaluations

section Counts

variable (threads iterations : ℕ) (duration : ℕ → ℕ → α) (hasSentinel : Bool)

omit [Quantity α]

theorem exists_of_mem_benchmarkEvents {e : KeyEvent α}
    (he : e ∈ benchmarkEvents threads iterations duration hasSentinel) :
    ∃ worker i,
      evaluationEvent (sampleStride iterations) (duration worker) hasSentinel i = e := by
  obtain ⟨worker, -, he⟩ := List.mem_flatMap.1 he
  obtain ⟨i, -, rfl⟩ := List.mem_map.1 he
  exact ⟨worker, i, rfl⟩

theorem rule_of_mem_benchmarkEvents :
    ∀ e ∈ benchmarkEvents threads iterations duration hasSentinel, e.rule = benchmarkRule ∧
      e.hasSentinel = hasSentinel := by
  intro e he
  obtain ⟨worker, i, rfl⟩ := exists_of_mem_benchmarkEvents _ _ _ _ he
  exact ⟨rfl, rfl⟩

theorem length_benchmarkEvents :
    (benchmarkEvents threads iterations duration hasSentinel).length = iterations * threads := by
  simp [benchmarkEvents, workerEvents, List.length_flatMap, Nat.mul_comm]

theorem countP_isSome_benchmarkEvents :
    (benchmarkEvents threads iterations duration hasSentinel).countP (·.duration.isSome) =
      threads * timed iterations := by
  have hworker : ∀ worker, (workerEvents iterations (duration worker) hasSentinel).countP
      (·.duration.isSome) = timed iterations := by
    intro worker
    rw [workerEvents, List.countP_map, timed]
    refine List.countP_congr fun i _ => ?_
    simp only [Function.comp_apply, evaluationEvent]
    split_ifs with hi <;> simp [hi]
  rw [benchmarkEvents, List.countP_flatMap]
  simp [Function.comp_def, hworker]

end Counts

variable {threads iterations : ℕ} {duration : ℕ → ℕ → α} {hasSentinel : Bool}

theorem isFinite_of_mem_benchmarkEvents
    (hfinite : ∀ worker i, Quantity.isFinite (duration worker i) = true) :
    ∀ e ∈ benchmarkEvents threads iterations duration hasSentinel, ∀ d ∈ e.duration,
      Quantity.isFinite d = true := by
  intro e he d hd
  obtain ⟨worker, i, rfl⟩ := exists_of_mem_benchmarkEvents _ _ _ _ he
  unfold evaluationEvent at hd
  split_ifs at hd
  · cases hd
    exact hfinite worker i
  · cases hd

section Metrics

variable {t : Template.Compiled} {ctx : Template.Context}

/-- There is one rule, and all events are its own. -/
theorem names_benchmarkMetrics (hi : 1 ≤ iterations) (ht : 1 ≤ threads) :
    (benchmarkMetrics t ctx threads iterations duration).names = [benchmarkRule] := by
  have h := reflects_benchmarkMetrics t ctx threads iterations duration
  have hrule := rule_of_mem_benchmarkEvents threads iterations duration (isMarked t ctx)
  have hmem : ∀ name, name ∈ (benchmarkMetrics t ctx threads iterations duration).names ↔
      name ∈ [benchmarkRule] := by
    intro name
    rw [h.names, List.mem_singleton]
    constructor
    · rintro ⟨e, he, rfl⟩
      exact (hrule e he).1
    · rintro rfl
      have hpos : 0 < (benchmarkEvents threads iterations duration (isMarked t ctx)).length := by
        rw [length_benchmarkEvents]
        exact Nat.mul_pos hi ht
      obtain ⟨e, he⟩ := List.exists_mem_of_length_pos hpos
      exact ⟨e, he, (hrule e he).1⟩
  exact List.perm_singleton.1 ((List.perm_ext_iff_of_nodup
    (NameTable.nodup_names _) (List.nodup_singleton _)).2 hmem)

theorem stats_benchmarkMetrics (threads iterations : ℕ) (duration : ℕ → ℕ → α) :
    ((benchmarkMetrics t ctx threads iterations duration).stats benchmarkRule).Reflects
      (benchmarkEvents threads iterations duration (isMarked t ctx)) := by
  have hrule := rule_of_mem_benchmarkEvents threads iterations duration (isMarked t ctx)
  have hall : KeyEvent.ofRule benchmarkRule
      (benchmarkEvents threads iterations duration (isMarked t ctx)) =
        benchmarkEvents threads iterations duration (isMarked t ctx) :=
    List.filter_eq_self.2 fun e he => decide_eq_true (hrule e he).1
  rw [← hall]
  exact (reflects_benchmarkMetrics t ctx threads iterations duration).stats benchmarkRule

theorem sentinelKeys_benchmarkMetrics :
    ((benchmarkMetrics t ctx threads iterations duration).stats benchmarkRule).sentinelKeys =
      if isMarked t ctx then iterations * threads else 0 := by
  have hrule := rule_of_mem_benchmarkEvents threads iterations duration (isMarked t ctx)
  rw [(stats_benchmarkMetrics ..).sentinelKeys, ← length_benchmarkEvents threads iterations duration
    (isMarked t ctx)]
  split_ifs with hs
  · exact List.countP_eq_length.2 fun e he => (hrule e he).2.trans hs
  · exact List.countP_eq_zero.2 fun e he => by simp [(hrule e he).2, hs]

theorem count_benchmarkMetrics
    (hfinite : ∀ worker i, Quantity.isFinite (duration worker i) = true) :
    ((benchmarkMetrics t ctx threads iterations duration).stats
      benchmarkRule).durations.count = threads * timed iterations := by
  rw [(stats_benchmarkMetrics ..).count_eq (isFinite_of_mem_benchmarkEvents hfinite),
    countP_isSome_benchmarkEvents]

variable (t ctx) in
/-- The summary of the one rule. -/
theorem exists_summaries_benchmarkMetrics (hi : 1 ≤ iterations) (ht : 1 ≤ threads)
    (hfinite : ∀ worker i, Quantity.isFinite (duration worker i) = true) :
    ∃ r : RuleMetrics α,
      (benchmarkMetrics t ctx threads iterations duration).summaries = [r] ∧
        r.rule = benchmarkRule ∧ r.keys = iterations * threads ∧
        r.duration.count = threads * timed iterations ∧
        r.sentinelKeys = if isMarked t ctx then iterations * threads else 0 := by
  have hnames : (benchmarkMetrics t ctx threads iterations duration).rules.entries.map
      Prod.fst = [benchmarkRule] := names_benchmarkMetrics hi ht
  obtain ⟨⟨name, stats⟩, hentries, rfl⟩ := List.map_eq_singleton_iff.1 hnames
  obtain ⟨r, hsummaries, hrule⟩ : ∃ r : RuleMetrics α,
      (benchmarkMetrics t ctx threads iterations duration).summaries = [r] ∧
        r.rule = benchmarkRule :=
    ⟨_, by rw [KeyMetrics.summaries, hentries, List.map_singleton], rfl⟩
  obtain ⟨hkeys, hsentinel, hcount⟩ := KeyMetrics.eq_stats_of_mem_summaries
    (hsummaries ▸ List.mem_singleton_self r)
  rw [hrule] at hkeys hsentinel hcount
  exact ⟨r, hsummaries, hrule,
    hkeys.trans ((stats_benchmarkMetrics ..).keys.trans (length_benchmarkEvents ..)),
    hcount.trans (count_benchmarkMetrics hfinite), hsentinel.trans sentinelKeys_benchmarkMetrics⟩

end Metrics

end Workers

/-! ### Benchmarks -/

/-- What the clock reads is a finite duration of every evaluation. -/
def Clock.micros (clock : Clock) (worker iteration : ℕ) : Float :=
  (clock.evaluation worker iteration).inMicros

/-- For programs a benchmark has one answer, with the merged metrics, and for people it tells the
statistics of every rule. -/
theorem messages_benchmark {iterations threads : ℕ} (hi : 1 ≤ iterations) (ht : 1 ≤ threads)
    (m : Mode) (s : Session) (clock : Clock) (template : String) (values : List String)
    {t : Template.Compiled} (hcompile : s.compiler.compile template = .ok t) :
    let metrics := benchmarkMetrics t ⟨values⟩ threads iterations clock.micros
    (m.json = true → ∃ fields,
      (benchmark m s clock template values iterations threads).messages =
        [.document (.table fields)] ∧
      fields.lookup "metrics" = some metrics.toDocument.byName) ∧
    (m.json = false → ∃ before,
      (benchmark m s clock template values iterations threads).messages =
        before ++ metrics.summaries.flatMap ruleMessages ++ [.detail metrics.report]) := by
  have hsome : ¬(threads = 0 ∨ iterations = 0) := by omega
  unfold benchmark
  rw [if_neg hsome, hcompile]
  constructor
  · intro hjson
    simp only [hjson]
    exact ⟨_, rfl, rfl⟩
  · intro hjson
    simp only [hjson]
    exact ⟨_, rfl⟩

/-- A benchmark keeps at least one and at most ten thousand samples of each worker, all of them if
there are not more, and else more than half of that.  The merged metrics list one rule, which counts
every evaluation and holds the samples of all workers; the keys are marked all or none, as the one
key that the template evaluates to is.  This rule is what programs and people are told about. -/
theorem benchmark_counts_all_evaluations {iterations threads : ℕ} (hi : 1 ≤ iterations)
    (ht : 1 ≤ threads) :
    (1 ≤ sampleStride iterations ∧ 1 ≤ timed iterations ∧ timed iterations ≤ 10000 ∧
      (iterations ≤ 10000 → timed iterations = iterations) ∧
      (10000 < iterations → 5000 < timed iterations)) ∧
    ∀ (s : Session) (clock : Clock) (template : String) (values : List String)
      (t : Template.Compiled), s.compiler.compile template = .ok t →
      ∃ r : RuleMetrics Float,
        let metrics := benchmarkMetrics t ⟨values⟩ threads iterations clock.micros
        metrics.totalKeys = iterations * threads ∧ metrics.summaries = [r] ∧
        r.rule = benchmarkRule ∧ r.keys = iterations * threads ∧
        r.duration.count = threads * timed iterations ∧
        r.sentinelKeys =
          (if Sentinel.isPresentIn (t.evaluate ⟨values⟩) then iterations * threads else 0) ∧
        ∀ m : Mode,
          (m.json = true → ∃ fields,
            (benchmark m s clock template values iterations threads).messages =
              [.document (.table fields)] ∧
            fields.lookup "metrics" = some (Document.list [r.toDocument]).byName) ∧
          (m.json = false → ∃ before,
            (benchmark m s clock template values iterations threads).messages =
              before ++ ruleMessages r ++ [.detail metrics.report]) := by
  refine ⟨⟨one_le_sampleStride iterations, timed_pos hi, timed_le iterations, timed_of_le,
    lt_timed⟩, fun s clock template values t hcompile => ?_⟩
  have hfinite : ∀ worker i, Quantity.isFinite (clock.micros worker i) = true :=
    fun worker i => (clock.evaluation worker i).isFinite_inMicros
  obtain ⟨r, hsummaries, hrule, hkeys, hcount, hsentinel⟩ :=
    exists_summaries_benchmarkMetrics t ⟨values⟩ hi ht hfinite
  refine ⟨r, ?_, hsummaries, hrule, hkeys, hcount, hsentinel, fun m => ?_⟩
  · exact (reflects_benchmarkMetrics ..).totalKeys_eq.trans (length_benchmarkEvents ..)
  · have hmessages := messages_benchmark hi ht m s clock template values hcompile
    simp only [KeyMetrics.toDocument, hsummaries, List.map_singleton, List.flatMap_singleton]
      at hmessages
    exact hmessages

/-- Two workers, each with one evaluation in three timed, and a template that reads a value which is
not there. -/
theorem benchmark_counts_all_evaluations_two_workers :
    let s : Session := ⟨.ofFiles "/" [], Config.standard, none⟩
    let clock : Clock := ⟨fun worker i => ⟨worker, i⟩, ⟨1, 0⟩⟩
    1 ≤ 20001 ∧ 1 ≤ 2 ∧ sampleStride 20001 = 3 ∧ 5000 < timed 20001 ∧ timed 20001 ≤ 10000 ∧
    ∃ (t : Template.Compiled) (r : RuleMetrics Float) (fields : List (String × Document)),
      s.compiler.compile "\x7b0\x7d" = .ok t ∧
      (benchmarkMetrics t ⟨[]⟩ 2 20001 clock.micros).summaries = [r] ∧
      r.keys = 40002 ∧ r.sentinelKeys = 40002 ∧ r.duration.count = 2 * timed 20001 ∧
      (benchmark ⟨false, true⟩ s clock "\x7b0\x7d" [] 20001 2).messages =
        [.document (.table fields)] ∧
      fields.lookup "metrics" = some (Document.list [r.toDocument]).byName := by
  intro s clock
  have hcompile : s.compiler.compile "\x7b0\x7d" =
      .ok ⟨"\x7b0\x7d", [.argRef 0], []⟩ := by rfl
  have hi : 1 ≤ 20001 := by decide
  have ht : 1 ≤ 2 := by decide
  obtain ⟨⟨-, -, hle, -, hlt⟩, hmetrics⟩ := benchmark_counts_all_evaluations hi ht
  obtain ⟨r, -, hsummaries, -, hkeys, hcount, hsentinel, hmessages⟩ :=
    hmetrics s clock "\x7b0\x7d" [] _ hcompile
  have hmarked : Sentinel.isPresentIn (Template.Compiled.evaluate ⟨"\x7b0\x7d", [.argRef 0], []⟩
      ⟨[]⟩) = true := by decide
  rw [if_pos hmarked] at hsentinel
  obtain ⟨fields, hanswer, hlookup⟩ := (hmessages ⟨false, true⟩).1 rfl
  exact ⟨hi, ht, by decide, hlt (by decide), hle, _, r, fields, hcompile, hsummaries, hkeys,
    hsentinel, hcount, hanswer, hlookup⟩

end CacheKeys.CommandLine
