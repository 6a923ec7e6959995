import Mathlib
import CacheKeys.Rule.Collection

/-! # Registering rules

A collection keeps its rules in a list and their positions in an index by name.  `IsIndexed` says
that the two agree; a registration keeps it (`isIndexed_attempt`), so it holds after any number of
attempts, refused ones among them.  What a collection then holds are the first rules of each name
(`rules_registered`), and a refused attempt leaves no trace
(`registered_holds_first_of_each_name`). -/

namespace CacheKeys.RuleSet

/-! ### One registration -/

/-- The collection with a rule at its end, under its name. -/
def add (s : RuleSet) (r : Rule) : RuleSet :=
  ⟨s.rules ++ [r], s.positions.insert r.name s.rules.length⟩

/-- A registration either fails before anything is changed or adds the rule. -/
theorem run_register (s : RuleSet) (r : Rule) :
    ((register r).run.run s).run =
      if s.positions.contains r.name then (.error (.duplicate r.name), s)
      else (.ok (), s.add r) := by
  have hget : ((get : ExceptT RuleError (StateM RuleSet) RuleSet).run.run s).run = (.ok s, s) := rfl
  have hmodify : ∀ (f : RuleSet → RuleSet) (s : RuleSet),
      ((modify f : ExceptT RuleError (StateM RuleSet) PUnit).run.run s).run = (.ok ⟨⟩, f s) :=
    fun _ _ => rfl
  unfold register
  cases h : s.positions.contains r.name with
  | true => simp [hget, h]
  | false => simp [hget, hmodify, h, add]

theorem insert_eq (s : RuleSet) (r : Rule) :
    s.insert r =
      if s.positions.contains r.name then .error (.duplicate r.name) else .ok (s.add r) := by
  unfold insert
  rw [run_register]
  cases s.positions.contains r.name <;> rfl

/-! ### The index -/

/-- The index has the names of the rules, each with the position of its rule. -/
def IsIndexed (s : RuleSet) : Prop :=
  ∀ name i, s.positions.get? name = some i ↔ ∃ r, s.rules[i]? = some r ∧ r.name = name

theorem isIndexed_empty : empty.IsIndexed := by
  intro name i
  simp [empty, NameTable.empty, NameTable.get?, NameTable.lookup]

variable {s : RuleSet}

theorem IsIndexed.contains_iff (h : s.IsIndexed) {name : String} :
    s.positions.contains name = true ↔ name ∈ s.names := by
  rw [NameTable.contains, Option.isSome_iff_exists, names, List.mem_map]
  constructor
  · rintro ⟨i, hi⟩
    obtain ⟨r, hr, hn⟩ := (h name i).1 hi
    exact ⟨r, List.mem_of_getElem? hr, hn⟩
  · rintro ⟨r, hr, hn⟩
    obtain ⟨i, hi⟩ := List.mem_iff_getElem?.1 hr
    exact ⟨i, (h name i).2 ⟨r, hi, hn⟩⟩

/-- A rule whose name is new is put where the index then points. -/
theorem IsIndexed.add (h : s.IsIndexed) {r : Rule} (hr : r.name ∉ s.names) :
    (s.add r).IsIndexed := by
  intro name i
  have hpos : (s.add r).positions.get? name =
      if name = r.name then some s.rules.length else s.positions.get? name :=
    s.positions.get?_insert r.name name s.rules.length
  have hrule : (s.add r).rules[i]? =
      if i < s.rules.length then s.rules[i]? else [r][i - s.rules.length]? := List.getElem?_append
  rw [hpos, hrule]
  by_cases hn : name = r.name
  · -- only the new rule has the name, so all earlier positions are out
    rw [if_pos hn]
    constructor
    · intro hi
      cases hi
      exact ⟨r, by simp, hn.symm⟩
    · rintro ⟨r', hr', hn'⟩
      split at hr'
      · next hi =>
        exact absurd (List.mem_map.2 ⟨r', List.mem_of_getElem? hr', hn'.trans hn⟩) hr
      · next hi =>
        have hlt := (List.getElem?_eq_some_iff.1 hr').1
        simp only [List.length_singleton] at hlt
        exact congrArg some (by omega)
  · rw [if_neg hn, h]
    constructor
    · rintro ⟨r', hr', hn'⟩
      have hi := (List.getElem?_eq_some_iff.1 hr').1
      exact ⟨r', by rw [if_pos hi, hr'], hn'⟩
    · rintro ⟨r', hr', hn'⟩
      split at hr'
      · exact ⟨r', hr', hn'⟩
      · have hmem := List.mem_singleton.1 (List.mem_of_getElem? hr')
        exact absurd (hn'.symm.trans (congrArg Rule.name hmem)) hn

/-- The index leads to the rule of a name. -/
theorem IsIndexed.get?_eq_find? (h : s.IsIndexed) (name : String) :
    s.get? name = s.rules.find? fun r => r.name = name := by
  unfold get?
  cases hp : s.positions.get? name with
  | none =>
      have hnone : ∀ r ∈ s.rules, r.name ≠ name := by
        intro r hr hn
        obtain ⟨i, hi⟩ := List.mem_iff_getElem?.1 hr
        rw [(h name i).2 ⟨r, hi, hn⟩] at hp
        cases hp
      exact (List.find?_eq_none.2 (by simpa using hnone)).symm
  | some i =>
      obtain ⟨r, hr, hn⟩ := (h name i).1 hp
      cases hf : s.rules.find? (fun r => r.name = name) with
      | none => exact absurd hn (by simpa using List.find?_eq_none.1 hf r (List.mem_of_getElem? hr))
      | some r' =>
          obtain ⟨j, hj⟩ := List.mem_iff_getElem?.1 (List.mem_of_find?_eq_some hf)
          have hj' := (h name j).2 ⟨r', hj, by simpa using List.find?_some hf⟩
          rw [hp] at hj'
          cases hj'
          exact hj

/-- Every rule has one entry in the index, and there are no others. -/
theorem IsIndexed.perm_entries (h : s.IsIndexed) :
    s.positions.entries.Perm (s.rules.zipIdx.map fun p => (p.1.name, p.2)) := by
  have hnodup : s.positions.entries.Nodup := s.positions.nodup_names.of_map Prod.fst
  have hnodup' : (s.rules.zipIdx.map fun p => (p.1.name, p.2)).Nodup := by
    refine List.Nodup.of_map Prod.snd ?_
    rw [List.map_map]
    show (s.rules.zipIdx.map Prod.snd).Nodup
    rw [List.zipIdx_map_snd]
    exact List.nodup_range'
  rw [List.perm_ext_iff_of_nodup hnodup hnodup']
  rintro ⟨name, i⟩
  rw [NameTable.mem_entries_iff, h, List.mem_map]
  constructor
  · rintro ⟨r, hr, rfl⟩
    exact ⟨(r, i), List.mem_zipIdx_iff_getElem?.2 hr, rfl⟩
  · rintro ⟨⟨r, j⟩, hr, he⟩
    cases he
    exact ⟨r, List.mem_zipIdx_iff_getElem?.1 hr, rfl⟩

/-- No two rules share a name. -/
theorem IsIndexed.nodup_names (h : s.IsIndexed) : s.names.Nodup := by
  have hnames : (s.rules.zipIdx.map fun p => (p.1.name, p.2)).map Prod.fst = s.names := by
    calc (s.rules.zipIdx.map fun p => (p.1.name, p.2)).map Prod.fst
        = (s.rules.zipIdx.map Prod.fst).map (·.name) := by
          rw [List.map_map, List.map_map]
          rfl
      _ = s.names := by
          rw [List.zipIdx_map_fst]
          rfl
  have hperm : s.positions.names.Perm s.names := hnames ▸ h.perm_entries.map Prod.fst
  exact hperm.nodup_iff.1 s.positions.nodup_names

theorem IsIndexed.size_positions (h : s.IsIndexed) : s.positions.size = s.size := by
  rw [NameTable.size, h.perm_entries.length_eq, List.length_map, List.length_zipIdx, size]

/-! ### The first rules of all names -/

def firstOfEachName : List Rule → List Rule
  | [] => []
  | r :: rs => r :: (firstOfEachName rs).filter fun r' => r'.name ≠ r.name

theorem find?_firstOfEachName (rs : List Rule) (name : String) :
    (firstOfEachName rs).find? (fun r => r.name = name) = rs.find? fun r => r.name = name := by
  induction rs with
  | nil => rfl
  | cons r rs ih =>
      rw [firstOfEachName, List.find?_cons, List.find?_cons, List.find?_filter]
      by_cases hn : r.name = name
      · simp [hn]
      · simp only [hn, decide_false, ← ih]
        congr 1
        funext r'
        by_cases hn' : r'.name = name
        · simp [hn', Ne.symm hn]
        · simp [hn']

theorem mem_names_firstOfEachName {rs : List Rule} {name : String} :
    name ∈ (firstOfEachName rs).map (·.name) ↔ name ∈ rs.map (·.name) := by
  have hfind : ∀ rs : List Rule, name ∈ rs.map (·.name) ↔
      (rs.find? fun r => r.name = name).isSome := by
    intro rs
    simp [List.find?_isSome]
  rw [hfind, hfind, find?_firstOfEachName]

theorem nodup_names_firstOfEachName (rs : List Rule) :
    ((firstOfEachName rs).map (·.name)).Nodup := by
  induction rs with
  | nil => exact List.nodup_nil
  | cons r rs ih =>
      rw [firstOfEachName, List.map_cons, List.nodup_cons]
      constructor
      · simp
      · exact ih.sublist (List.filter_sublist.map _)

/-- A rule at the end counts if its name is new. -/
theorem firstOfEachName_concat (rs : List Rule) (r : Rule) :
    firstOfEachName (rs ++ [r]) =
      if r.name ∈ rs.map (·.name) then firstOfEachName rs else firstOfEachName rs ++ [r] := by
  induction rs with
  | nil => simp [firstOfEachName]
  | cons r₀ rs ih =>
      rw [List.cons_append, firstOfEachName, ih, firstOfEachName, List.map_cons]
      by_cases hm : r.name ∈ rs.map (·.name)
      · rw [if_pos hm, if_pos (List.mem_cons_of_mem _ hm)]
      · rw [if_neg hm, List.filter_append]
        by_cases hr : r.name = r₀.name
        · simp [hr]
        · simp [hr, hm]

theorem length_firstOfEachName (rs : List Rule) :
    (firstOfEachName rs).length = (rs.map (·.name)).toFinset.card := by
  have hsame : ((firstOfEachName rs).map (·.name)).toFinset = (rs.map (·.name)).toFinset := by
    ext name
    rw [List.mem_toFinset, List.mem_toFinset, mem_names_firstOfEachName]
  rw [← hsame, List.toFinset_card_of_nodup (nodup_names_firstOfEachName rs), List.length_map]

/-! ### Runs of registrations -/

/-- The collection after an attempt to register a rule. -/
def attempt (s : RuleSet) (r : Rule) : RuleSet := ((register r).run.run s).run.2

/-- The collection after attempts to register rules one after another, from an empty one on. -/
def registered (rs : List Rule) : RuleSet := rs.foldl attempt empty

theorem attempt_eq (s : RuleSet) (r : Rule) :
    s.attempt r = if s.positions.contains r.name then s else s.add r := by
  rw [attempt, run_register]
  cases s.positions.contains r.name <;> rfl

/-- An attempt keeps the index in step with the rules, whether or not it succeeds. -/
theorem isIndexed_attempt (h : s.IsIndexed) (r : Rule) : (s.attempt r).IsIndexed := by
  rw [attempt_eq]
  split
  · exact h
  · next hc => exact h.add fun hr => hc (h.contains_iff.2 hr)

theorem isIndexed_registered (rs : List Rule) : (registered rs).IsIndexed := by
  have hrun : ∀ s : RuleSet, s.IsIndexed → (rs.foldl attempt s).IsIndexed := by
    induction rs with
    | nil => exact fun s h => h
    | cons r rs ih => exact fun s h => ih _ (isIndexed_attempt h r)
  exact hrun empty isIndexed_empty

theorem registered_concat (rs : List Rule) (r : Rule) :
    registered (rs ++ [r]) = (registered rs).attempt r := by
  rw [registered, List.foldl_append]
  rfl

/-- What is registered are the first rules of all names. -/
theorem rules_registered (rs : List Rule) : (registered rs).rules = firstOfEachName rs := by
  induction rs using List.reverseRecOn with
  | nil => rfl
  | append_singleton rs r ih =>
      rw [registered_concat, attempt_eq, firstOfEachName_concat, ← ih]
      have hc : (registered rs).positions.contains r.name = true ↔ r.name ∈ rs.map (·.name) := by
        rw [(isIndexed_registered rs).contains_iff, names, ih, mem_names_firstOfEachName]
      by_cases hm : r.name ∈ rs.map (·.name)
      · rw [if_pos (hc.2 hm), if_pos hm]
      · rw [if_neg (fun h => hm (hc.1 h)), if_neg hm]
        rfl

theorem contains_registered {rs : List Rule} {name : String} :
    (registered rs).positions.contains name = true ↔ name ∈ rs.map (·.name) := by
  rw [(isIndexed_registered rs).contains_iff, names, rules_registered, mem_names_firstOfEachName]

/-- After any attempts the index leads from each name to the position of its rule and nowhere else,
the rules are the first of their names, and a further attempt is refused exactly if its name is
taken; a refused attempt changes nothing, now or later. -/
theorem registered_holds_first_of_each_name (rs : List Rule) :
    (∀ name i, (registered rs).positions.get? name = some i ↔
      ∃ r, (registered rs).rules[i]? = some r ∧ r.name = name) ∧
    (registered rs).positions.size = (registered rs).rules.length ∧
    (registered rs).rules = firstOfEachName rs ∧
    (∀ name, (registered rs).get? name = rs.find? fun r => r.name = name) ∧
    (registered rs).size = (rs.map (·.name)).toFinset.card ∧
    ∀ r : Rule,
      ((register r).run.run (registered rs)).run =
        (if r.name ∈ rs.map (·.name) then (.error (.duplicate r.name), registered rs)
          else (.ok (), registered (rs ++ [r]))) ∧
      (r.name ∈ rs.map (·.name) → ∀ rs', registered (rs ++ r :: rs') = registered (rs ++ rs')) := by
  have hindex := isIndexed_registered rs
  have hrules := rules_registered rs
  refine ⟨hindex, hindex.size_positions, hrules, fun name => ?_, ?_, fun r => ⟨?_, ?_⟩⟩
  · rw [hindex.get?_eq_find?, hrules, find?_firstOfEachName]
  · rw [size, hrules, length_firstOfEachName]
  · rw [run_register, registered_concat, attempt_eq]
    by_cases hm : r.name ∈ rs.map (·.name)
    · rw [if_pos (contains_registered.2 hm), if_pos hm]
    · have hc : ¬(registered rs).positions.contains r.name = true := fun h =>
        hm (contains_registered.1 h)
      rw [if_neg hc, if_neg hm, if_neg hc]
  · intro hm rs'
    have hstay : (registered rs).attempt r = registered rs := by
      rw [attempt_eq, if_pos (contains_registered.2 hm)]
    calc registered (rs ++ r :: rs')
        = rs'.foldl attempt ((registered rs).attempt r) := by
          rw [registered, List.foldl_append, List.foldl_cons, registered]
      _ = rs'.foldl attempt (registered rs) := by rw [hstay]
      _ = registered (rs ++ rs') := by rw [registered, registered, List.foldl_append]

end CacheKeys.RuleSet
