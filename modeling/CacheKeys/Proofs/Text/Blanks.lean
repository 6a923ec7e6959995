import Mathlib
import CacheKeys.Proofs.Text.Pieces

/-! # Blanks around words

Trimming takes a text apart into blanks, a core and blanks (`exists_trimBlanks`), and a core that
neither begins nor ends with a blank is what it leaves (`trimBlanks_append`).  The same holds of the
characters of any class (`ofList_trimChars_append`, `isTrimmed_trimChars`).

A `Spacing` is a list of words with blanks between neighbours and possibly at both ends.  `words`
gives the words of a spacing back from its text (`words_text`).  Every text has a spacing
(`exists_spacing`), so a text has one list of words, however they are kept apart
(`existsUnique_words`). -/

namespace CacheKeys.Text

/-- All characters are blanks, or there are none. -/
def IsBlankRun (s : String) : Prop := ∀ c ∈ s.toList, isBlank c = true

/-- A text without blanks that is not empty. -/
def IsWord (s : String) : Prop := s ≠ "" ∧ ∀ c ∈ s.toList, isBlank c = false

instance (s : String) : Decidable (IsBlankRun s) :=
  decidable_of_iff (s.toList.all isBlank = true) List.all_eq_true

/-- A text is empty, or a character stands in front of another text. -/
@[elab_as_elim]
theorem ofCharacters {motive : String → Prop} (empty : motive "")
    (cons : ∀ c s, motive s → motive (String.singleton c ++ s)) (s : String) : motive s := by
  obtain ⟨cs, rfl⟩ : ∃ cs, s = String.ofList cs := ⟨s.toList, String.ofList_toList.symm⟩
  induction cs with
  | nil => exact empty
  | cons c cs ih =>
      rw [String.ofList_cons]
      exact cons c (String.ofList cs) ih

theorem isBlankRun_empty : IsBlankRun "" := by
  simp [IsBlankRun]

theorem isBlankRun_singleton_append_iff {c : Char} {s : String} :
    IsBlankRun (String.singleton c ++ s) ↔ isBlank c = true ∧ IsBlankRun s := by
  simp [IsBlankRun]

/-! ### Trimmed texts -/

/-- The text neither begins nor ends with a character of the class. -/
def IsTrimmed (p : Char → Bool) (s : String) : Prop :=
  (∀ c ∈ s.toList.head?, p c = false) ∧ ∀ c ∈ s.toList.getLast?, p c = false

instance (p : Char → Bool) (s : String) : Decidable (IsTrimmed p s) :=
  decidable_of_iff
    (s.toList.head?.all (fun c => !p c) = true ∧ s.toList.getLast?.all (fun c => !p c) = true)
    (by simp only [IsTrimmed, Option.all_eq_true, Option.mem_def, Bool.not_eq_true'])

section trimming
variable {p : Char → Bool}

theorem isTrimmed_empty : IsTrimmed p "" := by
  simp [IsTrimmed]

theorem trimChars_append {lead core trail : List Char} (hlead : ∀ c ∈ lead, p c = true)
    (htrail : ∀ c ∈ trail, p c = true) (hfirst : ∀ c ∈ core.head?, p c = false)
    (hlast : ∀ c ∈ core.getLast?, p c = false) : trimChars p (lead ++ core ++ trail) = core := by
  cases core with
  | nil =>
      have hall : ∀ c ∈ lead ++ trail, p c = true := List.forall_mem_append.2 ⟨hlead, htrail⟩
      rw [trimChars, List.append_nil, List.dropWhile_eq_nil_iff.2 hall]
      rfl
  | cons c cs =>
      have hfront : ∀ a ∈ ((c :: cs) ++ trail).head?, p a = false := hfirst
      have hback : ∀ a ∈ (c :: cs).reverse.head?, p a = false := by
        rwa [List.head?_reverse]
      have hrun : ∀ a ∈ trail.reverse, p a = true := fun a ha => htrail a (List.mem_reverse.1 ha)
      rw [trimChars, List.append_assoc, dropWhile_append_of_head hlead hfront,
        List.reverse_append, dropWhile_append_of_head hrun hback, List.reverse_reverse]

theorem exists_trimChars (p : Char → Bool) (cs : List Char) :
    ∃ lead trail, cs = lead ++ trimChars p cs ++ trail ∧
      (∀ c ∈ lead, p c = true) ∧ ∀ c ∈ trail, p c = true := by
  have hfront : cs.takeWhile p ++ cs.dropWhile p = cs := List.takeWhile_append_dropWhile
  have hback : (cs.dropWhile p).reverse.takeWhile p ++ (cs.dropWhile p).reverse.dropWhile p =
      (cs.dropWhile p).reverse := List.takeWhile_append_dropWhile
  refine ⟨cs.takeWhile p, ((cs.dropWhile p).reverse.takeWhile p).reverse, ?_, ?_, ?_⟩
  · rw [List.append_assoc, trimChars, ← List.reverse_append, hback, List.reverse_reverse, hfront]
  · exact fun c hc => List.mem_takeWhile_imp hc
  · exact fun c hc => List.mem_takeWhile_imp (List.mem_reverse.1 hc)

theorem mem_of_mem_trimChars {c : Char} {cs : List Char} (h : c ∈ trimChars p cs) : c ∈ cs := by
  obtain ⟨lead, trail, hsplit, -, -⟩ := exists_trimChars p cs
  rw [hsplit]
  exact List.mem_append_left _ (List.mem_append_right _ h)

theorem eq_false_of_mem_head?_dropWhile {c : Char} {cs : List Char}
    (h : c ∈ (cs.dropWhile p).head?) : p c = false := by
  have hnot := List.head?_dropWhile_not p cs
  rwa [Option.mem_def.1 h] at hnot

theorem isTrimmed_trimChars (cs : List Char) : IsTrimmed p (String.ofList (trimChars p cs)) := by
  rw [IsTrimmed, String.toList_ofList, trimChars, List.getLast?_reverse]
  refine ⟨fun c hc => ?_, fun c => eq_false_of_mem_head?_dropWhile⟩
  -- what is left after the end has been trimmed begins as before
  have hsuffix := List.dropWhile_suffix p (l := (cs.dropWhile p).reverse)
  obtain ⟨trail, htrail⟩ := List.reverse_prefix.2 hsuffix
  rw [List.reverse_reverse] at htrail
  have hhead : c ∈ (cs.dropWhile p).head? := by
    rw [← htrail, List.head?_append, Option.mem_def.1 hc]
    rfl
  exact eq_false_of_mem_head?_dropWhile hhead

theorem ofList_trimChars_append {lead core trail : String} (hlead : ∀ c ∈ lead.toList, p c = true)
    (htrail : ∀ c ∈ trail.toList, p c = true) (hcore : IsTrimmed p core) :
    String.ofList (trimChars p (lead ++ core ++ trail).toList) = core := by
  rw [String.toList_append, String.toList_append, trimChars_append hlead htrail hcore.1 hcore.2,
    String.ofList_toList]

end trimming

theorem trimBlanks_append {lead core trail : String} (hlead : IsBlankRun lead)
    (htrail : IsBlankRun trail) (hcore : IsTrimmed isBlank core) :
    trimBlanks (lead ++ core ++ trail) = core :=
  ofList_trimChars_append hlead htrail hcore

theorem exists_trimBlanks (s : String) :
    ∃ lead trail, s = lead ++ trimBlanks s ++ trail ∧ IsBlankRun lead ∧ IsBlankRun trail := by
  obtain ⟨lead, trail, hs, hlead, htrail⟩ := exists_trimChars isBlank s.toList
  refine ⟨String.ofList lead, String.ofList trail, ?_, ?_, ?_⟩
  · rw [← String.toList_inj, trimBlanks]
    simpa using hs
  · rwa [IsBlankRun, String.toList_ofList]
  · rwa [IsBlankRun, String.toList_ofList]

/-! ### Words of a text -/

theorem words_append_blank_append {c : Char} (hc : isBlank c = true) (s t : String) :
    words (s ++ String.singleton c ++ t) = words s ++ words t := by
  have hlist : (s ++ String.singleton c ++ t).toList = s.toList ++ c :: t.toList := by simp
  rw [words, hlist, List.splitOnP_append_cons _ _ hc, List.filter_append, List.map_append]
  rfl

theorem words_empty : words "" = [] := rfl

theorem words_of_isWord {s : String} (h : IsWord s) : words s = [s] := by
  have hne : s.toList ≠ [] := by simpa using h.1
  rw [words, List.splitOnP_eq_singleton h.2]
  simp [h.1]

/-- Blanks in front belong to no word. -/
theorem words_blankRun_append {gap : String} (h : IsBlankRun gap) (s : String) :
    words (gap ++ s) = words s := by
  induction gap using ofCharacters with
  | empty => rw [String.empty_append]
  | cons c gap ih =>
      obtain ⟨hc, hgap⟩ := isBlankRun_singleton_append_iff.1 h
      have hsplit := words_append_blank_append hc "" (gap ++ s)
      rw [String.empty_append, words_empty, List.nil_append, ih hgap] at hsplit
      rw [String.append_assoc, hsplit]

/-- Blanks, of which there is at least one, keep words apart. -/
theorem words_append_gap_append {gap : String} (h : IsBlankRun gap) (hne : gap ≠ "")
    (s t : String) : words (s ++ gap ++ t) = words s ++ words t := by
  cases gap using ofCharacters with
  | empty => exact absurd rfl hne
  | cons c gap =>
      obtain ⟨hc, hgap⟩ := isBlankRun_singleton_append_iff.1 h
      have hsplit := words_append_blank_append hc s (gap ++ t)
      rw [words_blankRun_append hgap] at hsplit
      rw [← hsplit]
      simp only [String.append_assoc]

/-! ### Spacings -/

/-- Words, each with the blanks behind it, after blanks in front; only behind the last word can
there be no blank. -/
structure Spacing where
  lead : String
  parts : List (String × String)
  isBlankRun_lead : IsBlankRun lead
  isWord : ∀ p ∈ parts, IsWord p.1
  isBlankRun_gap : ∀ p ∈ parts, IsBlankRun p.2
  apart : parts.IsChain fun p _ => p.2 ≠ ""

namespace Spacing

def textOf (parts : List (String × String)) : String := String.join (parts.map fun p => p.1 ++ p.2)

def text (w : Spacing) : String := w.lead ++ textOf w.parts

def words (w : Spacing) : List String := w.parts.map Prod.fst

theorem textOf_cons (p : String × String) (ps : List (String × String)) :
    textOf (p :: ps) = p.1 ++ p.2 ++ textOf ps := by
  simp [textOf]

theorem words_textOf {ps : List (String × String)} (hw : ∀ p ∈ ps, IsWord p.1)
    (hg : ∀ p ∈ ps, IsBlankRun p.2) (ha : ps.IsChain fun p _ => p.2 ≠ "") :
    Text.words (textOf ps) = ps.map Prod.fst := by
  induction ps with
  | nil => rfl
  | cons p ps ih =>
      obtain ⟨hp, hps⟩ := List.forall_mem_cons.1 hw
      obtain ⟨hgp, hgps⟩ := List.forall_mem_cons.1 hg
      have hrest := ih hps hgps ha.tail
      rw [textOf_cons, List.map_cons, ← hrest]
      by_cases hgap : p.2 = ""
      · -- only the last word can have nothing behind it
        cases ps with
        | nil => simp [hgap, textOf, words_of_isWord hp, words_empty]
        | cons q qs => exact absurd hgap (List.isChain_cons_cons.1 ha).1
      · rw [words_append_gap_append hgp hgap, words_of_isWord hp]
        rfl

/-- The words of a spacing are found in its text. -/
theorem words_text (w : Spacing) : Text.words w.text = w.words := by
  rw [text, words_blankRun_append w.isBlankRun_lead,
    words_textOf w.isWord w.isBlankRun_gap w.apart]
  rfl

end Spacing

theorem isWord_singleton_append {c : Char} {s : String} (hc : isBlank c = false)
    (h : ∀ a ∈ s.toList, isBlank a = false) : IsWord (String.singleton c ++ s) := by
  refine ⟨by simp [← String.toList_inj], ?_⟩
  simpa using ⟨hc, h⟩

/-- One more character in front of a text joins the blanks in front or the first word, or it is a
word before these blanks. -/
theorem exists_spacing (s : String) : ∃ w : Spacing, w.text = s := by
  induction s using ofCharacters with
  | empty => exact ⟨⟨"", [], isBlankRun_empty, by simp, by simp, List.isChain_nil⟩, rfl⟩
  | cons c s ih =>
      obtain ⟨⟨lead, parts, hlead, hword, hgap, hapart⟩, rfl⟩ := ih
      cases hc : isBlank c with
      | true =>
          have hlead' : IsBlankRun (String.singleton c ++ lead) :=
            isBlankRun_singleton_append_iff.2 ⟨hc, hlead⟩
          refine ⟨⟨String.singleton c ++ lead, parts, hlead', hword, hgap, hapart⟩, ?_⟩
          exact String.append_assoc
      | false =>
          have hnew : IsWord (String.singleton c ++ "") := isWord_singleton_append hc (by simp)
          by_cases hne : lead = ""
          · subst hne
            cases parts with
            | nil =>
                refine ⟨⟨"", [(String.singleton c ++ "", "")], isBlankRun_empty,
                  by simpa using hnew, by simpa using isBlankRun_empty,
                  List.isChain_singleton _⟩, ?_⟩
                simp [Spacing.text, Spacing.textOf]
            | cons p ps =>
                obtain ⟨hp, hps⟩ := List.forall_mem_cons.1 hword
                obtain ⟨hgp, hgps⟩ := List.forall_mem_cons.1 hgap
                have hlonger : IsWord (String.singleton c ++ p.1) := isWord_singleton_append hc hp.2
                refine ⟨⟨"", (String.singleton c ++ p.1, p.2) :: ps, isBlankRun_empty,
                  List.forall_mem_cons.2 ⟨hlonger, hps⟩, List.forall_mem_cons.2 ⟨hgp, hgps⟩,
                  List.isChain_cons.2 (List.isChain_cons.1 hapart)⟩, ?_⟩
                simp [Spacing.text, Spacing.textOf_cons, String.append_assoc]
          · refine ⟨⟨"", (String.singleton c ++ "", lead) :: parts, isBlankRun_empty,
              List.forall_mem_cons.2 ⟨hnew, hword⟩, List.forall_mem_cons.2 ⟨hlead, hgap⟩,
              List.isChain_cons.2 ⟨fun _ _ => hne, hapart⟩⟩, ?_⟩
            simp [Spacing.text, Spacing.textOf_cons, String.append_assoc]

/-- A text is the text of one list of words, with blanks around them in some way. -/
theorem existsUnique_words (s : String) : ∃! ws, ∃ w : Spacing, w.text = s ∧ w.words = ws := by
  obtain ⟨w, hw⟩ := exists_spacing s
  refine ⟨w.words, ⟨w, hw, rfl⟩, ?_⟩
  rintro _ ⟨w', hw', rfl⟩
  rw [← w.words_text, ← w'.words_text, hw, hw']

end CacheKeys.Text
