import Mathlib
import CacheKeys.Proofs.Text.Pieces
import CacheKeys.Request.Field

/-! # What a canonical query tells

A canonical query lists names and values as they are, with nothing in place of an equals sign in a
name or an ampersand in a value.  Between tables without such signs it tells the difference
(`queryText_inj`).  In general it does not: a text with two equals signs is the canonical query of
two tables with a single parameter, which divide it at different signs, so that only a text with at
most one equals sign belongs to a single table (`exists_same_canonicalQuery_iff`). -/

namespace CacheKeys

/-! ### Texts of parameters -/

/-- The characters of a parameter. -/
def pairText (p : String × String) : List Char := p.1.toList ++ '=' :: p.2.toList

/-- The characters of parameters, each after an ampersand. -/
def laterText : List (String × String) → List Char
  | [] => []
  | p :: ps => '&' :: (pairText p ++ laterText ps)

/-- The characters of parameters, with ampersands between them. -/
def queryText : List (String × String) → List Char
  | [] => []
  | p :: ps => pairText p ++ laterText ps

theorem intercalate_pairText (p : String × String) (ps : List (String × String)) :
    ['&'].intercalate (pairText p :: ps.map pairText) = pairText p ++ laterText ps := by
  induction ps generalizing p with
  | nil => simp [laterText]
  | cons q qs ih => rw [List.map_cons, List.intercalate_cons_cons, ih q]; simp [laterText]

theorem Request.toList_canonicalQuery (r : Request) :
    r.canonicalQuery.toList = queryText r.query.entries := by
  have hp : (r.query.entries.map fun p => p.1 ++ "=" ++ p.2).map String.toList =
      r.query.entries.map pairText := by
    simp [Function.comp_def, pairText]
  rw [canonicalQuery, String.toList_intercalate, hp]
  cases r.query.entries with
  | nil => rfl
  | cons p ps => exact intercalate_pairText p ps

theorem NameTable.ext_entries {α : Type} {t t' : NameTable α} (h : t.entries = t'.entries) :
    t = t' := by
  obtain ⟨entries, sorted⟩ := t
  obtain ⟨entries', sorted'⟩ := t'
  cases h
  rfl

/-- Requests have the same canonical query if and only if their parameters have the same text. -/
theorem Request.canonicalQuery_eq_iff {r s : Request} :
    r.canonicalQuery = s.canonicalQuery ↔
      queryText r.query.entries = queryText s.query.entries := by
  rw [← String.toList_inj, r.toList_canonicalQuery, s.toList_canonicalQuery]

/-! ### Parameters that can be told apart -/

/-- No name holds an equals sign and no value an ampersand, so the first of them ends it. -/
def NameTable.IsSeparable (t : NameTable String) : Prop :=
  ∀ p ∈ t.entries, '=' ∉ p.1.toList ∧ '&' ∉ p.2.toList

instance (t : NameTable String) : Decidable t.IsSeparable :=
  inferInstanceAs (Decidable (∀ p ∈ t.entries, '=' ∉ p.1.toList ∧ '&' ∉ p.2.toList))

/-- Texts that are followed by the same sign, which none of them holds, end at the same place. -/
theorem append_inj_of_notMem {c : Char} {xs xs' ys ys' : List Char} (hx : c ∉ xs) (hx' : c ∉ xs')
    (hy : ∀ d ∈ ys.head?, d = c) (hy' : ∀ d ∈ ys'.head?, d = c) (h : xs ++ ys = xs' ++ ys') :
    xs = xs' ∧ ys = ys' := by
  have hxs : xs = xs' := by
    rw [← Text.takeWhile_append_of_notMem hx hy, h, Text.takeWhile_append_of_notMem hx' hy']
  subst hxs
  exact ⟨rfl, List.append_cancel_left h⟩

theorem head?_laterText (ps : List (String × String)) : ∀ d ∈ (laterText ps).head?, d = '&' := by
  cases ps with
  | nil => simp [laterText]
  | cons p ps => simp [laterText]

theorem pairText_append_inj {p q : String × String} {ys ys' : List Char}
    (hp : '=' ∉ p.1.toList ∧ '&' ∉ p.2.toList) (hq : '=' ∉ q.1.toList ∧ '&' ∉ q.2.toList)
    (hy : ∀ d ∈ ys.head?, d = '&') (hy' : ∀ d ∈ ys'.head?, d = '&')
    (h : pairText p ++ ys = pairText q ++ ys') : p = q ∧ ys = ys' := by
  simp only [pairText, List.append_assoc, List.cons_append] at h
  obtain ⟨h₁, h₂⟩ := append_inj_of_notMem hp.1 hq.1 (by simp) (by simp) h
  obtain ⟨h₃, h₄⟩ := append_inj_of_notMem hp.2 hq.2 hy hy' (List.cons.inj h₂).2
  exact ⟨Prod.ext (String.toList_inj.1 h₁) (String.toList_inj.1 h₃), h₄⟩

theorem laterText_inj {ps qs : List (String × String)}
    (hp : ∀ p ∈ ps, '=' ∉ p.1.toList ∧ '&' ∉ p.2.toList)
    (hq : ∀ q ∈ qs, '=' ∉ q.1.toList ∧ '&' ∉ q.2.toList) (h : laterText ps = laterText qs) :
    ps = qs := by
  induction ps generalizing qs with
  | nil =>
      cases qs with
      | nil => rfl
      | cons q qs => cases h
  | cons p ps ih =>
      cases qs with
      | nil => cases h
      | cons q qs =>
          obtain ⟨hp₀, hps⟩ := List.forall_mem_cons.1 hp
          obtain ⟨hq₀, hqs⟩ := List.forall_mem_cons.1 hq
          obtain ⟨rfl, hl⟩ := pairText_append_inj hp₀ hq₀ (head?_laterText ps) (head?_laterText qs)
            (List.cons.inj h).2
          rw [ih hps hqs hl]

theorem queryText_eq_nil_iff {ps : List (String × String)} : queryText ps = [] ↔ ps = [] := by
  cases ps with
  | nil => simp [queryText]
  | cons p ps => simp [queryText, pairText]

/-- Separable parameters are found again in their text. -/
theorem queryText_inj {t t' : NameTable String} (ht : t.IsSeparable) (ht' : t'.IsSeparable)
    (h : queryText t.entries = queryText t'.entries) : t = t' := by
  refine NameTable.ext_entries ?_
  unfold NameTable.IsSeparable at ht ht'
  generalize t.entries = ps, t'.entries = qs at ht ht' h
  -- an ampersand in front makes both texts ones in which every parameter comes after an ampersand
  refine laterText_inj ht ht' ?_
  cases ps with
  | nil => rw [queryText_eq_nil_iff.1 h.symm]
  | cons p ps =>
      cases qs with
      | nil => exact absurd (queryText_eq_nil_iff.1 h) (List.cons_ne_nil p ps)
      | cons q qs => exact congrArg ('&' :: ·) h

/-! ### Texts of a single table -/

theorem length_le_count_laterText (ps : List (String × String)) :
    ps.length ≤ (laterText ps).count '=' := by
  induction ps with
  | nil => exact Nat.zero_le _
  | cons p ps ih =>
      simp only [laterText, pairText, List.count_cons, List.count_append, List.length_cons]
      simp
      omega

/-- Each parameter has an equals sign of its own. -/
theorem length_le_count_queryText (ps : List (String × String)) :
    ps.length ≤ (queryText ps).count '=' := by
  cases ps with
  | nil => exact Nat.zero_le _
  | cons p ps =>
      have h := length_le_count_laterText ps
      simp only [queryText, pairText, List.count_append, List.count_cons, List.length_cons]
      simp
      omega

theorem queryText_singleton (p : String × String) : queryText [p] = pairText p := by
  simp [queryText, laterText]

/-- A parameter in whose text an equals sign stands once is found again in it. -/
theorem pairText_inj_of_count {p q : String × String} (hp : (pairText p).count '=' ≤ 1)
    (h : pairText p = pairText q) : p = q := by
  have hn : ∀ {p : String × String}, (pairText p).count '=' ≤ 1 → '=' ∉ p.1.toList := by
    intro p hp
    rw [pairText, List.count_append, List.count_cons_self] at hp
    exact List.count_eq_zero.1 (by omega)
  obtain ⟨h₁, h₂⟩ := append_inj_of_notMem (hn hp) (hn (h ▸ hp)) (by simp) (by simp) h
  exact Prod.ext (String.toList_inj.1 h₁) (String.toList_inj.1 (List.cons.inj h₂).2)

theorem queryText_inj_of_count {ps qs : List (String × String)} (hp : (queryText ps).count '=' ≤ 1)
    (h : queryText ps = queryText qs) : ps = qs := by
  have hlp := (length_le_count_queryText ps).trans hp
  have hlq := (length_le_count_queryText qs).trans (h ▸ hp)
  match ps, qs, hlp, hlq with
  | [], qs, _, _ => exact (queryText_eq_nil_iff.1 h.symm).symm
  | ps, [], _, _ => exact queryText_eq_nil_iff.1 h
  | [p], [q], _, _ =>
      rw [queryText_singleton] at hp
      rw [queryText_singleton, queryText_singleton] at h
      rw [pairText_inj_of_count hp h]

def Request.single (name value : String) : Request := (Request.make "GET" "/").withQuery name value

theorem Request.entries_single (name value : String) :
    (single name value).query.entries = [(name, value)] := rfl

/-- A text with two equals signs can be divided at either of them. -/
theorem exists_two_singles {text : List Char} (h : 2 ≤ text.count '=') :
    ∃ p q : String × String, p ≠ q ∧ pairText p = text ∧ pairText q = text := by
  obtain ⟨a, rest, rfl, ha⟩ :=
    List.eq_append_cons_of_mem (List.count_pos_iff.1 (by omega : 0 < text.count '='))
  have hr : 0 < rest.count '=' := by
    rw [List.count_append, List.count_cons_self, List.count_eq_zero.2 ha] at h
    omega
  obtain ⟨b, c, rfl, -⟩ := List.eq_append_cons_of_mem (List.count_pos_iff.1 hr)
  refine ⟨(String.ofList a, String.ofList (b ++ '=' :: c)),
    (String.ofList (a ++ '=' :: b), String.ofList c), fun he => ?_, by simp [pairText],
    by simp [pairText]⟩
  have hn := congrArg (fun p : String × String => p.1.toList) he
  simp at hn

/-- A text is the canonical query of more than one table if it has two equals signs, and only
then. -/
theorem exists_same_canonicalQuery_iff (r : Request) :
    (∃ s : Request, s.query ≠ r.query ∧ s.canonicalQuery = r.canonicalQuery) ↔
      2 ≤ r.canonicalQuery.toList.count '=' := by
  constructor
  · rintro ⟨s, hne, hs⟩
    by_contra hc
    rw [r.toList_canonicalQuery] at hc
    refine hne (NameTable.ext_entries (queryText_inj_of_count (by omega) ?_).symm)
    exact (Request.canonicalQuery_eq_iff.1 hs).symm
  · intro h
    obtain ⟨p, q, hpq, hp, hq⟩ := exists_two_singles h
    have hs : ∀ p : String × String, pairText p = r.canonicalQuery.toList →
        (Request.single p.1 p.2).canonicalQuery = r.canonicalQuery := by
      intro p hp
      rw [← String.toList_inj, Request.toList_canonicalQuery, Request.entries_single,
        queryText_singleton, hp]
    by_cases hr : (Request.single p.1 p.2).query = r.query
    · refine ⟨.single q.1 q.2, fun hr' => hpq ?_, hs q hq⟩
      have he := congrArg NameTable.entries (hr.trans hr'.symm)
      rw [Request.entries_single, Request.entries_single] at he
      exact List.singleton_inj.1 he
    · exact ⟨_, hr, hs p hp⟩

/-! ### Queries as inputs of rules -/

theorem Field.resolve_query (r : Request) : Field.query.resolve r = r.canonicalQuery := rfl

/-- Separable parameters that differ have different canonical queries, and a text is the canonical
query of other parameters, too, exactly if it has two equals signs. -/
theorem canonicalQuery_ne_of_isSeparable :
    (∀ r s : Request, r.query.IsSeparable → s.query.IsSeparable → r.query ≠ s.query →
      r.canonicalQuery ≠ s.canonicalQuery ∧ Field.query.resolve r ≠ Field.query.resolve s) ∧
    ∀ r : Request, (∃ s : Request, s.query ≠ r.query ∧ s.canonicalQuery = r.canonicalQuery) ↔
      2 ≤ r.canonicalQuery.toList.count '=' := by
  refine ⟨fun r s hr hs hne => ?_, exists_same_canonicalQuery_iff⟩
  have h : r.canonicalQuery ≠ s.canonicalQuery := fun he =>
    hne (queryText_inj hr hs (Request.canonicalQuery_eq_iff.1 he))
  rw [Field.resolve_query, Field.resolve_query]
  exact ⟨h, h⟩

theorem canonicalQuery_ne_of_ampersand_in_name :
    (Request.single "x&y" "a=b").canonicalQuery ≠
      ((Request.single "x" "").withQuery "y" "a=b").canonicalQuery ∧
    ∃ s : Request, s.query ≠ (Request.single "x&y" "a=b").query ∧ s.canonicalQuery = "x&y=a=b" := by
  have hne : (Request.single "x&y" "a=b").query ≠
      ((Request.single "x" "").withQuery "y" "a=b").query := fun h =>
    absurd (congrArg NameTable.entries h) (by decide)
  have hs := canonicalQuery_ne_of_isSeparable.1 _ _ (by decide) (by decide) hne
  have he := (canonicalQuery_ne_of_isSeparable.2 (Request.single "x&y" "a=b")).2 (by decide)
  exact ⟨hs.1, he⟩

/-- An ampersand in a value is read like the beginning of another parameter. -/
theorem canonicalQuery_eq_of_ampersand_in_value :
    (Request.single "a" "1&b=2").query ≠ ((Request.single "a" "1").withQuery "b" "2").query ∧
    (Request.single "a" "1&b=2").canonicalQuery =
      ((Request.single "a" "1").withQuery "b" "2").canonicalQuery ∧
    Field.query.resolve (Request.single "a" "1&b=2") =
      Field.query.resolve ((Request.single "a" "1").withQuery "b" "2") :=
  ⟨fun h => absurd (congrArg NameTable.entries h) (by decide), by decide, by decide⟩

end CacheKeys
