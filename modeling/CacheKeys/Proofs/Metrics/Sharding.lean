import Mathlib
import CacheKeys.Metrics.KeyMetrics

/-! # Collectors that are filled separately

A collector is filled with events and by merging other collectors into it; `Filling` says in which
way.  `KeyMetrics.Reflects` relates a collector to events without regard to their order: for every
rule it counts the events of the rule and holds their finite durations.  One event keeps it
(`Reflects.add`), merging two collectors joins their events (`Reflects.merge`), so any way of
filling a collector gives what one collector gives that is fed with all events
(`Filling.collector_agrees_with_single`). -/

namespace CacheKeys

variable {α : Type} [Quantity α]

/-! ### Samples of aggregates -/

namespace Aggregate

theorem samples_record (a : Aggregate α) (x : α) :
    (a.record x).samples.toList = a.samples.toList ++ [x].filter Quantity.isFinite := by
  unfold record
  cases h : Quantity.isFinite x <;> simp [h]

theorem samples_recordAll (a : Aggregate α) (xs : List α) :
    (a.recordAll xs).samples.toList = a.samples.toList ++ xs.filter Quantity.isFinite := by
  induction xs generalizing a with
  | nil => simp [recordAll]
  | cons x xs ih =>
      show ((a.record x).recordAll xs).samples.toList = _
      rw [ih, samples_record, List.append_assoc, ← List.filter_append, List.singleton_append]

theorem samples_merge (a b : Aggregate α) :
    (a.merge b).samples.toList =
      a.samples.toList ++ b.samples.toList.filter Quantity.isFinite :=
  a.samples_recordAll b.samples.toList

end Aggregate

/-! ### Events -/

/-- A key that a rule derived, with the time that it took, if that was measured. -/
structure KeyEvent (α : Type) where
  rule : String
  duration : Option α
  hasSentinel : Bool

namespace KeyEvent

/-- The duration, if it is one that is recorded. -/
def sample? (e : KeyEvent α) : Option α := e.duration.filter Quantity.isFinite

def ofRule (name : String) (es : List (KeyEvent α)) : List (KeyEvent α) :=
  es.filter fun e => e.rule = name

omit [Quantity α] in
theorem ofRule_append (name : String) (es es' : List (KeyEvent α)) :
    ofRule name (es ++ es') = ofRule name es ++ ofRule name es' :=
  List.filter_append ..

omit [Quantity α] in
theorem countP_ofRule (name : String) (es : List (KeyEvent α)) (p : KeyEvent α → Bool) :
    (ofRule name es).countP p = es.countP fun e => e.rule = name ∧ p e := by
  rw [ofRule, List.countP_filter]
  exact List.countP_congr fun e _ => by simp [and_comm]

end KeyEvent

/-- Tells a collector of a key. -/
def KeyMetrics.add (m : KeyMetrics α) (e : KeyEvent α) : KeyMetrics α :=
  match e.duration with
  | some duration => m.record e.rule duration e.hasSentinel
  | none => m.recordUntimed e.rule e.hasSentinel

/-- A collector that was told of all keys itself. -/
def KeyMetrics.ofEvents (es : List (KeyEvent α)) : KeyMetrics α := es.foldl add empty

/-! ### Statistics of one rule -/

namespace RuleStats

/-- The statistics with one more key. -/
def add (s : RuleStats α) (e : KeyEvent α) : RuleStats α :=
  match e.duration with
  | some duration => (s.countKey e.hasSentinel).time duration
  | none => s.countKey e.hasSentinel

/-- The statistics count the events and hold their durations. -/
structure Reflects (s : RuleStats α) (es : List (KeyEvent α)) : Prop where
  keys : s.keys = es.length
  sentinelKeys : s.sentinelKeys = es.countP (·.hasSentinel)
  samples : s.durations.samples.toList.Perm (es.filterMap KeyEvent.sample?)

theorem reflects_empty : (empty : RuleStats α).Reflects [] := ⟨rfl, rfl, .nil⟩

theorem Reflects.perm {s : RuleStats α} {es es' : List (KeyEvent α)} (h : s.Reflects es)
    (hp : es.Perm es') : s.Reflects es' where
  keys := h.keys.trans hp.length_eq
  sentinelKeys := h.sentinelKeys.trans (hp.countP_eq _)
  samples := h.samples.trans (hp.filterMap _)

theorem keys_add (s : RuleStats α) (e : KeyEvent α) : (s.add e).keys = s.keys + 1 := by
  unfold add
  cases e.duration <;> rfl

theorem sentinelKeys_add (s : RuleStats α) (e : KeyEvent α) :
    (s.add e).sentinelKeys = s.sentinelKeys + if e.hasSentinel then 1 else 0 := by
  unfold add
  cases e.duration <;> cases h : e.hasSentinel <;> simp [countKey, time]

theorem samples_add (s : RuleStats α) (e : KeyEvent α) :
    (s.add e).durations.samples.toList =
      s.durations.samples.toList ++ [e].filterMap KeyEvent.sample? := by
  unfold add KeyEvent.sample?
  cases h : e.duration with
  | none => simp [countKey, h]
  | some d =>
      show (s.durations.record d).samples.toList = _
      rw [Aggregate.samples_record]
      cases hd : Quantity.isFinite d <;> simp [Option.filter, h, hd]

/-- One more event counts once, with its duration if it was measured. -/
theorem Reflects.add {s : RuleStats α} {es : List (KeyEvent α)} (h : s.Reflects es)
    (e : KeyEvent α) : (s.add e).Reflects (es ++ [e]) where
  keys := by
    rw [keys_add, h.keys, List.length_append, List.length_singleton]
  sentinelKeys := by
    rw [sentinelKeys_add, h.sentinelKeys, List.countP_append, List.countP_singleton]
  samples := by
    rw [samples_add, List.filterMap_append]
    exact h.samples.append_right _

/-- What statistics hold are finite durations. -/
theorem Reflects.forall_isFinite {s : RuleStats α} {es : List (KeyEvent α)} (h : s.Reflects es) :
    ∀ x ∈ s.durations.samples.toList, Quantity.isFinite x = true := by
  intro x hx
  obtain ⟨e, -, he⟩ := List.mem_filterMap.1 (h.samples.mem_iff.1 hx)
  exact (Option.filter_eq_some_iff.1 he).2

/-- Merging joins the events, and no duration is passed over. -/
theorem Reflects.merge {s t : RuleStats α} {es es' : List (KeyEvent α)} (h : s.Reflects es)
    (h' : t.Reflects es') : (s.merge t).Reflects (es ++ es') where
  keys := by
    show s.keys + t.keys = _
    rw [h.keys, h'.keys, List.length_append]
  sentinelKeys := by
    show s.sentinelKeys + t.sentinelKeys = _
    rw [h.sentinelKeys, h'.sentinelKeys, List.countP_append]
  samples := by
    show (s.durations.merge t.durations).samples.toList.Perm _
    rw [Aggregate.samples_merge, List.filter_eq_self.2 h'.forall_isFinite, List.filterMap_append]
    exact h.samples.append h'.samples

theorem Reflects.sentinelKeys_le {s : RuleStats α} {es : List (KeyEvent α)} (h : s.Reflects es) :
    s.sentinelKeys ≤ s.keys := by
  rw [h.keys, h.sentinelKeys]
  exact List.countP_le_length

/-- If all durations are finite, there is a sample for each timed event. -/
theorem Reflects.count_eq {s : RuleStats α} {es : List (KeyEvent α)} (h : s.Reflects es)
    (hf : ∀ e ∈ es, ∀ d ∈ e.duration, Quantity.isFinite d = true) :
    s.durations.count = es.countP (·.duration.isSome) := by
  have hsample : ∀ e ∈ es, e.sample?.isSome = e.duration.isSome := by
    intro e he
    unfold KeyEvent.sample?
    cases hd : e.duration with
    | none => rfl
    | some d => simp [hf e he d hd]
  rw [Aggregate.count, ← Array.length_toList, h.samples.length_eq, List.length_filterMap_eq_countP]
  exact List.countP_congr fun e he => by rw [hsample e he]

end RuleStats

/-! ### Statistics by rule -/

namespace KeyMetrics

/-- The statistics of a rule, empty if it derived no key. -/
def stats (m : KeyMetrics α) (name : String) : RuleStats α := (m.rules.get? name).getD .empty

def names (m : KeyMetrics α) : List String := m.rules.names

theorem add_eq_update (m : KeyMetrics α) (e : KeyEvent α) :
    m.add e = m.update e.rule fun s => s.add e := by
  unfold add RuleStats.add
  cases e.duration <;> rfl

theorem stats_update (m : KeyMetrics α) (rule name : String) (f : RuleStats α → RuleStats α) :
    (m.update rule f).stats name = if name = rule then f (m.stats rule) else m.stats name := by
  unfold stats update
  rw [NameTable.get?_set]
  split <;> rfl

theorem mem_names_update {m : KeyMetrics α} {rule name : String}
    {f : RuleStats α → RuleStats α} :
    name ∈ (m.update rule f).names ↔ name = rule ∨ name ∈ m.names := by
  unfold names update
  rw [NameTable.mem_names_iff, NameTable.mem_names_iff, NameTable.get?_set]
  split
  · next h => simp [h]
  · next h => simp [h]

/-- A fold over entries with different names changes the statistics of each name once. -/
theorem stats_foldl_update {l : List (String × RuleStats α)}
    (hl : l.Pairwise fun a b => a.1 < b.1) (m : KeyMetrics α) (name : String) :
    (l.foldl (fun m e => m.update e.1 fun s => s.merge e.2) m).stats name =
      (m.stats name).merge ((NameTable.lookup name l).getD .empty) := by
  induction l generalizing m with
  | nil => rfl
  | cons e l ih =>
      rw [List.pairwise_cons] at hl
      rw [List.foldl_cons, ih hl.2, stats_update, NameTable.lookup]
      by_cases hn : e.1 = name
      · have hnone : NameTable.lookup name l = none :=
          NameTable.lookup_eq_none fun e' he' heq =>
            String.lt_irrefl _ (heq ▸ hn ▸ hl.1 e' he')
        rw [if_pos hn, if_pos hn.symm, hnone, hn]
        rfl
      · rw [if_neg hn, if_neg (Ne.symm hn)]

theorem stats_merge (m n : KeyMetrics α) (name : String) :
    (m.merge n).stats name = (m.stats name).merge (n.stats name) :=
  stats_foldl_update n.rules.sorted m name

theorem mem_names_merge {m n : KeyMetrics α} {name : String} :
    name ∈ (m.merge n).names ↔ name ∈ m.names ∨ name ∈ n.names := by
  have hfold : ∀ (l : List (String × RuleStats α)) (m : KeyMetrics α),
      name ∈ (l.foldl (fun m e => m.update e.1 fun s => s.merge e.2) m).names ↔
        name ∈ m.names ∨ name ∈ l.map Prod.fst := by
    intro l
    induction l with
    | nil => simp
    | cons e l ih =>
        intro m
        rw [List.foldl_cons, ih, mem_names_update, List.map_cons, List.mem_cons]
        tauto
  exact hfold n.rules.entries m

/-- The collector has the rules of the events, each with the statistics of its own events. -/
structure Reflects (m : KeyMetrics α) (es : List (KeyEvent α)) : Prop where
  names : ∀ name, name ∈ m.names ↔ ∃ e ∈ es, e.rule = name
  stats : ∀ name, (m.stats name).Reflects (KeyEvent.ofRule name es)

theorem reflects_empty : (empty : KeyMetrics α).Reflects [] where
  names name := by simp [KeyMetrics.names, empty, NameTable.empty, NameTable.names]
  stats _ := RuleStats.reflects_empty

theorem Reflects.perm {m : KeyMetrics α} {es es' : List (KeyEvent α)} (h : m.Reflects es)
    (hp : es.Perm es') : m.Reflects es' where
  names name := by
    rw [h.names]
    exact exists_congr fun e => by rw [hp.mem_iff]
  stats name := (h.stats name).perm (hp.filter _)

/-- Telling a collector of a key adds its event. -/
theorem Reflects.add {m : KeyMetrics α} {es : List (KeyEvent α)} (h : m.Reflects es)
    (e : KeyEvent α) : (m.add e).Reflects (es ++ [e]) where
  names name := by
    rw [add_eq_update, mem_names_update, h.names]
    simp only [List.mem_append, List.mem_singleton, or_and_right, exists_or, exists_eq_left]
    rw [or_comm, eq_comm]
  stats name := by
    rw [add_eq_update, stats_update, KeyEvent.ofRule_append]
    by_cases hn : name = e.rule
    · rw [if_pos hn, ← hn]
      have he : KeyEvent.ofRule name [e] = [e] := by simp [KeyEvent.ofRule, hn]
      rw [he]
      exact (h.stats name).add e
    · rw [if_neg hn]
      have he : KeyEvent.ofRule name [e] = [] := by simp [KeyEvent.ofRule, Ne.symm hn]
      rw [he, List.append_nil]
      exact h.stats name

/-- Merging collectors joins their events. -/
theorem Reflects.merge {m n : KeyMetrics α} {es es' : List (KeyEvent α)} (h : m.Reflects es)
    (h' : n.Reflects es') : (m.merge n).Reflects (es ++ es') where
  names name := by
    rw [mem_names_merge, h.names, h'.names]
    simp only [List.mem_append, or_and_right, exists_or]
  stats name := by
    rw [stats_merge, KeyEvent.ofRule_append]
    exact (h.stats name).merge (h'.stats name)

theorem reflects_ofEvents (es : List (KeyEvent α)) : (ofEvents es).Reflects es := by
  induction es using List.reverseRecOn with
  | nil => exact reflects_empty
  | append_singleton es e ih =>
      rw [ofEvents, List.foldl_append]
      exact ih.add e

/-! ### The number of all keys -/

theorem stats_of_mem {m : KeyMetrics α} {e : String × RuleStats α} (he : e ∈ m.rules.entries) :
    m.stats e.1 = e.2 := by
  rw [stats, m.rules.mem_entries_iff.1 he]
  rfl

/-- What is reported about a rule are its statistics. -/
theorem eq_stats_of_mem_summaries {m : KeyMetrics α} {r : RuleMetrics α} (h : r ∈ m.summaries) :
    r.keys = (m.stats r.rule).keys ∧ r.sentinelKeys = (m.stats r.rule).sentinelKeys ∧
      r.duration.count = (m.stats r.rule).durations.count := by
  obtain ⟨e, he, rfl⟩ := List.mem_map.1 h
  rw [stats_of_mem he]
  refine ⟨rfl, rfl, ?_⟩
  show (e.2.durations.samples.toList.mergeSort Quantity.inOrder).length = _
  rw [List.length_mergeSort, Array.length_toList, Aggregate.count]

theorem totalKeys_eq_sum (m : KeyMetrics α) :
    m.totalKeys = (m.names.map fun name => (m.stats name).keys).sum := by
  have hfold : ∀ (l : List (RuleStats α)) (n : ℕ),
      l.foldl (fun n r => n + r.keys) n = n + (l.map (·.keys)).sum := by
    intro l
    induction l with
    | nil => simp
    | cons r l ih =>
        intro n
        rw [List.foldl_cons, ih, List.map_cons, List.sum_cons, Nat.add_assoc]
  rw [totalKeys, hfold, Nat.zero_add, NameTable.values, names, NameTable.names, List.map_map,
    List.map_map]
  refine congrArg List.sum (List.map_congr_left fun e he => ?_)
  show e.2.keys = (m.stats e.1).keys
  rw [stats_of_mem he]

/-- Every event is counted under the one rule that it belongs to. -/
theorem Reflects.totalKeys_eq {m : KeyMetrics α} {es : List (KeyEvent α)} (h : m.Reflects es) :
    m.totalKeys = es.length := by
  have hkeys : ∀ name, (m.stats name).keys = (es.map (·.rule)).count name := by
    intro name
    rw [(h.stats name).keys, KeyEvent.ofRule, ← List.countP_eq_length_filter, List.count,
      List.countP_map]
    exact List.countP_congr fun e _ => by simp
  have hnames : m.names.toFinset = (es.map (·.rule)).toFinset := by
    ext name
    rw [List.mem_toFinset, h.names, List.mem_toFinset, List.mem_map]
  have hnodup : m.names.Nodup := m.rules.nodup_names
  calc m.totalKeys
      = (m.names.map fun name => (es.map (·.rule)).count name).sum := by
        rw [totalKeys_eq_sum]
        exact congrArg List.sum (List.map_congr_left fun name _ => hkeys name)
    _ = ∑ name ∈ (es.map (·.rule)).toFinset, (es.map (·.rule)).count name := by
        rw [← hnames, List.sum_toFinset _ hnodup]
    _ = es.length := by
        rw [List.sum_toFinset_count_eq_length, List.length_map]

end KeyMetrics

/-! ### Fillings -/

/-- How a collector is filled: with keys of its own, and with what other collectors were filled
with. -/
inductive Filling (α : Type) where
  | empty
  | record (before : Filling α) (e : KeyEvent α)
  | merge (before other : Filling α)

namespace Filling

def collector : Filling α → KeyMetrics α
  | empty => .empty
  | record before e => before.collector.add e
  | merge before other => before.collector.merge other.collector

/-- The events that come together in the collector. -/
def events : Filling α → List (KeyEvent α)
  | empty => []
  | record before e => before.events ++ [e]
  | merge before other => before.events ++ other.events

theorem reflects_collector : ∀ f : Filling α, f.collector.Reflects f.events
  | empty => KeyMetrics.reflects_empty
  | record before e => before.reflects_collector.add e
  | merge before other => before.reflects_collector.merge other.reflects_collector

/-- However events are spread over collectors and these are merged, the collector in the end agrees
with one that was told of all events itself.  It lists the rules that occur by name, each with the
numbers of its events, no count exceeds the number of events, and if all durations are finite it
holds all that were measured. -/
theorem collector_agrees_with_single (f : Filling α) {es : List (KeyEvent α)}
    (hp : f.events.Perm es) :
    (∀ name,
      (f.collector.stats name).keys = ((KeyMetrics.ofEvents es).stats name).keys ∧
      (f.collector.stats name).sentinelKeys = ((KeyMetrics.ofEvents es).stats name).sentinelKeys ∧
      (f.collector.stats name).durations.samples.toList.Perm
        ((KeyMetrics.ofEvents es).stats name).durations.samples.toList) ∧
    (f.collector.summaries.map (·.rule)).Pairwise (· < ·) ∧
    (∀ name, name ∈ f.collector.summaries.map (·.rule) ↔ ∃ e ∈ es, e.rule = name) ∧
    (∀ r ∈ f.collector.summaries,
      r.keys = (es.countP fun e => e.rule = r.rule) ∧
      r.sentinelKeys = (es.countP fun e => e.rule = r.rule ∧ e.hasSentinel) ∧
      r.duration.count = ((KeyMetrics.ofEvents es).stats r.rule).durations.count ∧
      ((∀ e ∈ es, ∀ d ∈ e.duration, Quantity.isFinite d = true) →
        r.duration.count = es.countP fun e => e.rule = r.rule ∧ e.duration.isSome)) ∧
    f.collector.totalKeys = es.length ∧
    ∀ name,
      (f.collector.stats name).sentinelKeys ≤ (f.collector.stats name).keys ∧
      (f.collector.stats name).keys ≤ es.length ∧
      ((∀ e ∈ es, ∀ d ∈ e.duration, Quantity.isFinite d = true) →
        (f.collector.stats name).durations.count =
          es.countP fun e => e.rule = name ∧ e.duration.isSome) := by
  have h : f.collector.Reflects es := f.reflects_collector.perm hp
  have hsingle := KeyMetrics.reflects_ofEvents es
  have hrules : f.collector.summaries.map (·.rule) = f.collector.names := by
    rw [KeyMetrics.summaries, List.map_map]
    rfl
  have hcount : ∀ name, (∀ e ∈ es, ∀ d ∈ e.duration, Quantity.isFinite d = true) →
      (f.collector.stats name).durations.count =
        es.countP fun e => e.rule = name ∧ e.duration.isSome := by
    intro name hf
    rw [(h.stats name).count_eq fun e he => hf e (List.mem_of_mem_filter he),
      KeyEvent.countP_ofRule]
  refine ⟨fun name => ?_, ?_, ?_, fun r hr => ?_, h.totalKeys_eq, fun name => ?_⟩
  · have hs := h.stats name
    have ht := hsingle.stats name
    exact ⟨hs.keys.trans ht.keys.symm, hs.sentinelKeys.trans ht.sentinelKeys.symm,
      hs.samples.trans ht.samples.symm⟩
  · rw [hrules]
    exact f.collector.rules.pairwise_names
  · rw [hrules]
    exact h.names
  · obtain ⟨hkeys, hsentinel, hduration⟩ := KeyMetrics.eq_stats_of_mem_summaries hr
    have hs := h.stats r.rule
    have hsamples := hs.samples.trans (hsingle.stats r.rule).samples.symm
    refine ⟨?_, ?_, ?_, fun hf => hduration.trans (hcount r.rule hf)⟩
    · rw [hkeys, hs.keys, KeyEvent.ofRule, List.countP_eq_length_filter]
    · rw [hsentinel, hs.sentinelKeys, KeyEvent.countP_ofRule]
    · rw [hduration, Aggregate.count, Aggregate.count, ← Array.length_toList,
        ← Array.length_toList, hsamples.length_eq]
  · have hs := h.stats name
    refine ⟨hs.sentinelKeys_le, ?_, hcount name⟩
    rw [hs.keys]
    exact List.length_filter_le ..

/-- Two rules, three collectors, one of them empty, and the events in another order. -/
theorem collector_agrees_with_single_two_shards :
    let a : KeyEvent Float := ⟨"a", some 1.5, false⟩
    let b : KeyEvent Float := ⟨"b", none, true⟩
    let a' : KeyEvent Float := ⟨"a", some 0.5, true⟩
    let f : Filling Float :=
      .merge (.merge .empty (.record (.record .empty a) b)) (.record .empty a')
    f.events.Perm [a', a, b] ∧
      f.collector.totalKeys = 3 ∧
      (f.collector.summaries.map (·.rule)).Pairwise (· < ·) ∧
      "a" ∈ f.collector.summaries.map (·.rule) ∧ "b" ∈ f.collector.summaries.map (·.rule) ∧
      (∀ r ∈ f.collector.summaries, r.rule = "a" →
        r.keys = 2 ∧ r.sentinelKeys = 1 ∧ r.duration.count = 2) ∧
      (∀ r ∈ f.collector.summaries, r.rule = "b" →
        r.keys = 1 ∧ r.sentinelKeys = 1 ∧ r.duration.count = 0) ∧
      (f.collector.stats "a").sentinelKeys ≤ (f.collector.stats "a").keys ∧
      (f.collector.stats "a").durations.count = 2 := by
  intro a b a' f
  have hp : f.events.Perm [a', a, b] :=
    (List.perm_append_comm : ([a, b] ++ [a']).Perm ([a'] ++ [a, b]))
  have hfinite : ∀ e ∈ [a', a, b], ∀ d ∈ e.duration, Quantity.isFinite d = true := by
    decide
  obtain ⟨-, hsorted, hrules, hsummaries, htotal, hstats⟩ := f.collector_agrees_with_single hp
  have hcounts : ∀ r ∈ f.collector.summaries, ∀ name, r.rule = name →
      r.keys = ([a', a, b].countP fun e => e.rule = name) ∧
      r.sentinelKeys = ([a', a, b].countP fun e => e.rule = name ∧ e.hasSentinel) ∧
      r.duration.count = ([a', a, b].countP fun e => e.rule = name ∧ e.duration.isSome) := by
    rintro r hr _ rfl
    obtain ⟨hkeys, hsentinel, -, hcount⟩ := hsummaries r hr
    exact ⟨hkeys, hsentinel, hcount hfinite⟩
  exact ⟨hp, htotal, hsorted, (hrules "a").2 ⟨a, by simp, rfl⟩, (hrules "b").2 ⟨b, by simp, rfl⟩,
    fun r hr => hcounts r hr "a", fun r hr => hcounts r hr "b", (hstats "a").1,
    (hstats "a").2.2 hfinite⟩

end Filling

end CacheKeys
