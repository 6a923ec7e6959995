import Mathlib
import CacheKeys.Text.Ascii

/-! # Pieces between separators

`Text.pieces` divides a text at a separator, and joining the pieces gives the text back.  Pieces
hold no separator (`notMem_of_mem_pieces`); conversely texts without a separator, of which there is
at least one, are the pieces of the text that joins them (`pieces_intercalate`).  The size of a text
is that of its pieces and of the separators between them (`utf8ByteSize_intercalate`).  A list is
divided where a condition first fails (`takeWhile_append_of_head`, `dropWhile_append_of_head`), and
`Text.splitFirst?` divides a text at the first separator (`splitFirst?_eq_some_iff`). -/

namespace CacheKeys.Text

/-! ### The first failure of a condition -/

section
variable {α : Type} {p : α → Bool} {xs ys : List α}

theorem takeWhile_append_of_head (hx : ∀ a ∈ xs, p a = true) (hy : ∀ a ∈ ys.head?, p a = false) :
    (xs ++ ys).takeWhile p = xs := by
  rw [List.takeWhile_append_of_pos hx]
  cases ys with
  | nil => simp
  | cons y ys => simp [hy y rfl]

theorem dropWhile_append_of_head (hx : ∀ a ∈ xs, p a = true) (hy : ∀ a ∈ ys.head?, p a = false) :
    (xs ++ ys).dropWhile p = ys := by
  rw [List.dropWhile_append_of_pos hx]
  cases ys with
  | nil => simp
  | cons y ys => simp [hy y rfl]

end

/-! ### The first separator -/

variable {sep : Char}

section firstSeparator
variable {xs ys : List Char} (hx : sep ∉ xs) (hy : ∀ c ∈ ys.head?, c = sep)
include hx hy

theorem takeWhile_append_of_notMem : (xs ++ ys).takeWhile (fun c => c != sep) = xs := by
  refine takeWhile_append_of_head ?_ fun c hc => by simp [hy c hc]
  intro c hc
  rw [bne_iff_ne]
  rintro rfl
  exact hx hc

theorem dropWhile_append_of_notMem : (xs ++ ys).dropWhile (fun c => c != sep) = ys := by
  have hsplit := List.takeWhile_append_dropWhile (p := fun c => c != sep) (l := xs ++ ys)
  rw [takeWhile_append_of_notMem hx hy] at hsplit
  exact List.append_cancel_left hsplit

end firstSeparator

theorem splitFirst?_append {before : String} (h : sep ∉ before.toList) (after : String) :
    splitFirst? sep (before ++ String.singleton sep ++ after) = some (before, after) := by
  have hlist : (before ++ String.singleton sep ++ after).toList =
      before.toList ++ sep :: after.toList := by simp
  have hy : ∀ c ∈ (sep :: after.toList).head?, c = sep := by simp
  rw [splitFirst?, hlist, takeWhile_append_of_notMem h hy, dropWhile_append_of_notMem h hy]
  simp

theorem splitFirst?_of_notMem {s : String} (h : sep ∉ s.toList) : splitFirst? sep s = none := by
  have hdrop : (s.toList ++ []).dropWhile (fun c => c != sep) = [] :=
    dropWhile_append_of_notMem h (by simp)
  rw [List.append_nil] at hdrop
  rw [splitFirst?, hdrop]

/-- A text is divided at its first separator, if it has one. -/
theorem splitFirst?_eq_some_iff {s before after : String} :
    splitFirst? sep s = some (before, after) ↔
      s = before ++ String.singleton sep ++ after ∧ sep ∉ before.toList := by
  constructor
  · intro h
    by_cases hs : sep ∈ s.toList
    · obtain ⟨xs, ys, hsplit, hx⟩ := List.eq_append_cons_of_mem hs
      have hs' : s = String.ofList xs ++ String.singleton sep ++ String.ofList ys := by
        rw [← String.toList_inj, hsplit]
        simp
      have hx' : sep ∉ (String.ofList xs).toList := by rwa [String.toList_ofList]
      rw [hs', splitFirst?_append hx'] at h
      cases h
      exact ⟨hs', hx'⟩
    · rw [splitFirst?_of_notMem hs] at h
      cases h
  · rintro ⟨rfl, h⟩
    exact splitFirst?_append h after

/-! ### Pieces -/

/-- A text that holds a character has a last one of it. -/
theorem exists_last_of_mem {c : Char} {s : String} (h : c ∈ s.toList) :
    ∃ before after, s = before ++ String.singleton c ++ after ∧ c ∉ after.toList := by
  obtain ⟨after, before, hsplit, hafter⟩ :=
    List.eq_append_cons_of_mem (List.mem_reverse.2 h)
  refine ⟨String.ofList before.reverse, String.ofList after.reverse, ?_, by simpa using hafter⟩
  rw [← String.toList_inj, ← List.reverse_inj, hsplit]
  simp

theorem pieces_ne_nil (s : String) : pieces sep s ≠ [] := by
  rw [pieces, Ne, List.map_eq_nil_iff]
  exact List.splitOnP_ne_nil _ _

theorem pieces_of_notMem {s : String} (h : sep ∉ s.toList) : pieces sep s = [s] := by
  rw [pieces, List.splitOn_eq_singleton h, List.map_singleton, String.ofList_toList]

theorem pieces_append_singleton_append (sep : Char) (s t : String) :
    pieces sep (s ++ String.singleton sep ++ t) = pieces sep s ++ pieces sep t := by
  have hlist : (s ++ String.singleton sep ++ t).toList = s.toList ++ sep :: t.toList := by simp
  have hsplit : (s.toList ++ sep :: t.toList).splitOn sep =
      s.toList.splitOn sep ++ t.toList.splitOn sep :=
    List.splitOnP_append_cons _ _ (beq_self_eq_true sep)
  rw [pieces, hlist, hsplit, List.map_append]
  rfl

theorem notMem_of_mem_splitOn {ds cs : List Char} (h : cs ∈ ds.splitOn sep) : sep ∉ cs := by
  induction ds generalizing cs with
  | nil =>
      rw [List.splitOn_nil, List.mem_singleton] at h
      simp [h]
  | cons d ds ih =>
      rw [List.splitOn, List.splitOnP_cons_eq_if_modifyHead] at h
      split at h
      · rcases List.mem_cons.1 h with rfl | h
        · exact List.not_mem_nil
        · exact ih h
      · next hd =>
        -- the character goes before the first piece of the rest
        obtain ⟨first, later, hpieces⟩ := List.exists_cons_of_ne_nil
          (List.splitOnP_ne_nil (fun c => c == sep) ds)
        have hrest : ds.splitOn sep = first :: later := hpieces
        rw [hpieces, List.modifyHead_cons] at h
        rcases List.mem_cons.1 h with rfl | h
        · have hfirst : sep ∉ first := ih (hrest ▸ List.mem_cons_self)
          have hne : sep ≠ d := fun he => hd (by simp [he])
          simp [hne, hfirst]
        · exact ih (hrest ▸ List.mem_cons_of_mem _ h)

theorem notMem_of_mem_pieces {s e : String} (he : e ∈ pieces sep s) : sep ∉ e.toList := by
  obtain ⟨cs, hcs, rfl⟩ := List.mem_map.1 he
  rw [String.toList_ofList]
  exact notMem_of_mem_splitOn hcs

theorem intercalate_pieces (s : String) :
    (String.singleton sep).intercalate (pieces sep s) = s := by
  have hlists : (pieces sep s).map String.toList = s.toList.splitOn sep := by
    simp [pieces, Function.comp_def]
  rw [← String.toList_inj, String.toList_intercalate, hlists, String.toList_singleton,
    List.intercalate_splitOn]

theorem pieces_intercalate {es : List String} (hsep : ∀ e ∈ es, sep ∉ e.toList) (hne : es ≠ []) :
    pieces sep ((String.singleton sep).intercalate es) = es := by
  have hlists : ∀ e ∈ es.map String.toList, sep ∉ e := by
    intro e he
    obtain ⟨s, hs, rfl⟩ := List.mem_map.1 he
    exact hsep s hs
  rw [pieces, String.toList_intercalate, String.toList_singleton,
    List.splitOn_intercalate sep hlists (by simpa using hne)]
  simp [Function.comp_def]

/-- One more separator would stand behind every text of the list. -/
theorem utf8ByteSize_intercalate (sep : Char) {es : List String} (hne : es ≠ []) :
    ((String.singleton sep).intercalate es).utf8ByteSize + sep.utf8Size =
      (es.map fun e => e.utf8ByteSize + sep.utf8Size).sum := by
  induction es with
  | nil => exact absurd rfl hne
  | cons e es ih =>
      cases es with
      | nil => simp
      | cons e' es =>
          have hrest := ih (List.cons_ne_nil e' es)
          rw [String.intercalate_cons_cons, List.map_cons, List.sum_cons, ← hrest,
            String.utf8ByteSize_append, String.utf8ByteSize_append,
            String.utf8ByteSize_singleton]
          omega

theorem utf8ByteSize_add_eq_sum (sep : Char) (s : String) :
    s.utf8ByteSize + sep.utf8Size =
      ((pieces sep s).map fun e => e.utf8ByteSize + sep.utf8Size).sum := by
  rw [← utf8ByteSize_intercalate sep (pieces_ne_nil s), intercalate_pieces]

end CacheKeys.Text
