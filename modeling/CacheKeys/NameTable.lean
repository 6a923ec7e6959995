/-! # Tables ordered by name

A table holds at most one value per name and lists its entries in the order of their names, which
is the order of code points.  `get?_set` says what an update does to every look-up. -/

namespace CacheKeys

/-- Values by name, in strictly increasing order of name. -/
structure NameTable (α : Type) where
  entries : List (String × α)
  sorted : entries.Pairwise (fun a b => a.1 < b.1)

namespace NameTable

variable {α : Type}

/-! ### Operations on entry lists -/

/-- The value stored under a name. -/
def lookup (name : String) : List (String × α) → Option α
  | [] => none
  | (k, v) :: rest => if k = name then some v else lookup name rest

/-- Replaces the value of a name by a function of the old one, at its place in the order. -/
def place (name : String) (f : Option α → α) : List (String × α) → List (String × α)
  | [] => [(name, f none)]
  | (k, v) :: rest =>
    if k = name then (k, f (some v)) :: rest
    else if name < k then (name, f none) :: (k, v) :: rest
    else (k, v) :: place name f rest

theorem mem_place {name : String} {f : Option α → α} {e : String × α} :
    ∀ {l : List (String × α)}, e ∈ place name f l → e.1 = name ∨ e ∈ l
  | [], h => by simp [place] at h; exact .inl (by rw [h])
  | (k, v) :: rest, h => by
    unfold place at h
    split at h
    · next hk => rcases List.mem_cons.1 h with h | h
                 · exact .inl (by rw [h]; exact hk)
                 · exact .inr (List.mem_cons_of_mem _ h)
    · split at h
      · rcases List.mem_cons.1 h with h | h
        · exact .inl (by rw [h])
        · exact .inr h
      · rcases List.mem_cons.1 h with h | h
        · exact .inr (by rw [h]; exact List.mem_cons_self)
        · exact (mem_place h).imp_right (List.mem_cons_of_mem _)

theorem lt_of_not_lt_of_ne {a b : String} (h : ¬ b < a) (hne : a ≠ b) : a < b := by
  refine String.not_le.1 fun hba => hne ?_
  exact String.le_antisymm (String.not_lt.1 h) hba

theorem pairwise_place (name : String) (f : Option α → α) : ∀ (l : List (String × α)),
    l.Pairwise (fun a b => a.1 < b.1) → (place name f l).Pairwise (fun a b => a.1 < b.1)
  | [], _ => by simp [place]
  | (k, v) :: rest, h => by
    rw [List.pairwise_cons] at h
    unfold place
    split
    · exact List.pairwise_cons.2 h
    · next hk =>
      split
      · next hlt =>
        refine List.pairwise_cons.2 ⟨fun e he => ?_, List.pairwise_cons.2 h⟩
        rcases List.mem_cons.1 he with rfl | he
        · exact hlt
        · exact String.lt_trans hlt (h.1 e he)
      · next hlt =>
        refine List.pairwise_cons.2 ⟨fun e he => ?_, pairwise_place name f rest h.2⟩
        rcases mem_place he with he | he
        · exact he ▸ lt_of_not_lt_of_ne hlt hk
        · exact h.1 e he

/-! ### Operations on tables -/

def empty : NameTable α := ⟨[], List.Pairwise.nil⟩

/-- Replaces the value of a name by a function of the old one. -/
def set (t : NameTable α) (name : String) (f : Option α → α) : NameTable α :=
  ⟨place name f t.entries, pairwise_place name f t.entries t.sorted⟩

/-- Stores a value under a name, in place of an earlier one. -/
def insert (t : NameTable α) (name : String) (value : α) : NameTable α :=
  t.set name (fun _ => value)

/-- Stores pairs one after another: the last value of a name stays. -/
def insertAll (t : NameTable α) (pairs : List (String × α)) : NameTable α :=
  pairs.foldl (fun t p => t.insert p.1 p.2) t

/-- The table of a list of pairs: the last value of a name stays. -/
def ofList (pairs : List (String × α)) : NameTable α :=
  empty.insertAll pairs

/-- The value stored under a name. -/
def get? (t : NameTable α) (name : String) : Option α :=
  lookup name t.entries

/-- Whether a value is stored under a name. -/
def contains (t : NameTable α) (name : String) : Bool :=
  (t.get? name).isSome

def size (t : NameTable α) : Nat := t.entries.length

def isEmpty (t : NameTable α) : Bool := t.entries.isEmpty

def names (t : NameTable α) : List String := t.entries.map Prod.fst

def values (t : NameTable α) : List α := t.entries.map Prod.snd

theorem lookup_eq_none {name : String} :
    ∀ {l : List (String × α)}, (∀ e ∈ l, e.1 ≠ name) → lookup name l = none
  | [], _ => rfl
  | (k, v) :: rest, h => by
    rw [lookup, if_neg (h (k, v) List.mem_cons_self)]
    exact lookup_eq_none fun e he => h e (List.mem_cons_of_mem _ he)

theorem mem_of_lookup {name : String} {v : α} :
    ∀ {l : List (String × α)}, lookup name l = some v → (name, v) ∈ l
  | (k, w) :: rest, h => by
    rw [lookup] at h
    split at h
    · next hk =>
      cases h
      rw [hk]
      exact List.mem_cons_self
    · exact List.mem_cons_of_mem _ (mem_of_lookup h)

theorem lookup_of_mem {name : String} {v : α} :
    ∀ {l : List (String × α)}, l.Pairwise (fun a b => a.1 < b.1) → (name, v) ∈ l →
      lookup name l = some v
  | (k, w) :: rest, h, hm => by
    rw [List.pairwise_cons] at h
    rw [lookup]
    rcases List.mem_cons.1 hm with he | hm
    · cases he
      rw [if_pos rfl]
    · have hne : k ≠ name := fun hk => String.lt_irrefl _ (hk ▸ h.1 _ hm)
      rw [if_neg hne]
      exact lookup_of_mem h.2 hm

theorem lookup_place (name other : String) (f : Option α → α) :
    ∀ l : List (String × α), l.Pairwise (fun a b => a.1 < b.1) →
      lookup other (place name f l) =
        if other = name then some (f (lookup name l)) else lookup other l
  | [], _ => by
    by_cases h : name = other
    · simp [place, lookup, h]
    · simp [place, lookup, h, Ne.symm h]
  | (k, v) :: rest, h => by
    rw [List.pairwise_cons] at h
    have ih := lookup_place name other f rest h.2
    unfold place
    split
    · next hk =>
      subst hk
      by_cases ho : k = other
      · simp [lookup, ho]
      · simp [lookup, ho, Ne.symm ho]
    · next hk =>
      split
      · next hlt =>
        by_cases ho : name = other
        · subst ho
          have hnone : lookup name rest = none :=
            lookup_eq_none fun e he heq =>
              String.lt_irrefl _ (String.lt_trans hlt (heq ▸ h.1 e he))
          simp [lookup, hk, hnone]
        · simp [lookup, ho, Ne.symm ho]
      · by_cases ho : k = other
        · subst ho
          simp [lookup, hk]
        · simp only [lookup, if_neg ho, if_neg hk, ih]

/-- An update changes the look-up of its own name only. -/
theorem get?_set (t : NameTable α) (name other : String) (f : Option α → α) :
    (t.set name f).get? other = if other = name then some (f (t.get? name)) else t.get? other :=
  lookup_place name other f t.entries t.sorted

/-- After an insertion the name has the new value and all other names their old ones. -/
theorem get?_insert (t : NameTable α) (name other : String) (value : α) :
    (t.insert name value).get? other = if other = name then some value else t.get? other :=
  t.get?_set name other _

/-- The entries are the names with the values that are found under them. -/
theorem mem_entries_iff (t : NameTable α) {name : String} {v : α} :
    (name, v) ∈ t.entries ↔ t.get? name = some v :=
  ⟨lookup_of_mem t.sorted, mem_of_lookup⟩

theorem mem_names_iff (t : NameTable α) {name : String} :
    name ∈ t.names ↔ (t.get? name).isSome := by
  rw [names, List.mem_map, Option.isSome_iff_exists]
  constructor
  · rintro ⟨⟨k, v⟩, he, rfl⟩
    exact ⟨v, t.mem_entries_iff.1 he⟩
  · rintro ⟨v, hv⟩
    exact ⟨(name, v), t.mem_entries_iff.2 hv, rfl⟩

theorem pairwise_names (t : NameTable α) : t.names.Pairwise (· < ·) :=
  List.pairwise_map.2 t.sorted

/-- The names increase, so none is listed twice. -/
theorem nodup_names (t : NameTable α) : t.names.Nodup := by
  refine List.Pairwise.imp ?_ t.pairwise_names
  rintro name _ hlt rfl
  exact String.lt_irrefl _ hlt

end NameTable

end CacheKeys
