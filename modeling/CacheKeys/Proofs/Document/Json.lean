import Mathlib
import CacheKeys.Document.Json

/-! # JSON is read as it was written

The text of a document, in any layout, has the tokens of the document, with separators between them
(`tokensFrom_write`), and reading these tokens one after another gives the document back
(`foldlM_tokensOf`).  Both are inductions on the document, where what follows it in the text or
among the tokens is arbitrary. -/

namespace CacheKeys.Json

/-! ### Words and punctuation -/

def isWordPart (c : Char) : Bool := !(isSeparator c || c == '"' || (punctuation? c).isSome)

/-- What follows a word ends it. -/
def EndsWord (cs : List Char) : Prop := ∀ c ∈ cs.head?, isWordPart c = false

variable {cs rest : List Char}

theorem tokensFrom_cons {u u' : Unfinished} {c : Char} {ts : List Token}
    (h : tokenStep u c = some (ts, u')) :
    tokensFrom u (c :: cs) = (tokensFrom u' cs).map (ts ++ ·) := by
  rw [tokensFrom, h]

theorem tokensFrom_separators (h : ∀ c ∈ cs, isSeparator c = true) :
    tokensFrom .nothing (cs ++ rest) = tokensFrom .nothing rest := by
  induction cs with
  | nil => rfl
  | cons c cs ih =>
      obtain ⟨hc, hcs⟩ := List.forall_mem_cons.1 h
      have hs : tokenStep .nothing c = some ([], .nothing) := by simp [tokenStep, beginToken, hc]
      rw [List.cons_append, tokensFrom_cons hs, ih hcs]
      simp

theorem isWordPart_eq_false_iff {c : Char} :
    isWordPart c = false ↔ c ∈ [' ', '\t', '\n', '\r', '"', '{', '}', '[', ']', ',', ':'] := by
  have hp : (punctuation? c).isSome = true ↔ c ∈ ['{', '}', '[', ']', ',', ':'] := by
    unfold punctuation?
    split_ifs <;> simp_all
  simp only [isWordPart, isSeparator, Bool.not_eq_false', Bool.or_eq_true, beq_iff_eq, hp,
    List.mem_cons]
  tauto

theorem isSeparator_of_punctuation {c : Char} {t : Token} (h : punctuation? c = some t) :
    isSeparator c = false ∧ (c == '"') = false := by
  have hn : punctuation? ' ' = none ∧ punctuation? '\t' = none ∧ punctuation? '\n' = none ∧
      punctuation? '\r' = none ∧ punctuation? '"' = none := ⟨rfl, rfl, rfl, rfl, rfl⟩
  constructor
  · by_contra hc
    simp only [isSeparator, Bool.not_eq_false, Bool.or_eq_true, beq_iff_eq] at hc
    rcases hc with ((rfl | rfl) | rfl) | rfl <;> simp [hn] at h
  · refine beq_eq_false_iff_ne.2 ?_
    rintro rfl
    simp [hn] at h

theorem tokensFrom_punctuation {c : Char} {t : Token} (h : punctuation? c = some t) :
    tokensFrom .nothing (c :: rest) = (tokensFrom .nothing rest).map (t :: ·) := by
  obtain ⟨hs, hq⟩ := isSeparator_of_punctuation h
  have ht : tokenStep .nothing c = some ([t], .nothing) := by
    simp [tokenStep, beginToken, hs, hq, h]
  exact tokensFrom_cons ht

theorem tokensFrom_word {w : String} (h : ∀ c ∈ cs, isWordPart c = true) :
    tokensFrom (.word w) (cs ++ rest) = tokensFrom (.word (w ++ String.ofList cs)) rest := by
  induction cs generalizing w with
  | nil => simp
  | cons c cs ih =>
      obtain ⟨hc, hcs⟩ := List.forall_mem_cons.1 h
      have hs : tokenStep (.word w) c = some ([], .word (w.push c)) := by
        rw [isWordPart, Bool.not_eq_true'] at hc
        simp [tokenStep, hc]
      have hw : w.push c ++ String.ofList cs = w ++ String.ofList (c :: cs) := by
        simp [← String.toList_inj]
      rw [List.cons_append, tokensFrom_cons hs, ih hcs, hw]
      simp

/-- A word is a token if it can be read. -/
theorem tokensFrom_scalar {w : String} {d : Document} (hs : scalar? w = some d)
    (hw : ∀ c ∈ w.toList, isWordPart c = true) (hrest : EndsWord rest) :
    tokensFrom .nothing (w.toList ++ rest) = (tokensFrom .nothing rest).map (.scalar d :: ·) := by
  have hne : w ≠ "" := by
    rintro rfl
    cases hs
  obtain ⟨c, cs, hl⟩ := List.exists_cons_of_ne_nil fun h => hne (String.toList_eq_nil_iff.1 h)
  rw [hl] at hw ⊢
  obtain ⟨hc, hcs⟩ := List.forall_mem_cons.1 hw
  have hb : tokenStep .nothing c = some ([], .word (String.singleton c)) := by
    simp only [isWordPart, Bool.not_eq_true', Bool.or_eq_false_iff, Option.isSome_eq_false_iff,
      Option.isNone_iff_eq_none] at hc
    simp [tokenStep, beginToken, hc.1.1, hc.1.2, hc.2]
  have he : String.singleton c ++ String.ofList cs = w := by
    simp [← String.toList_inj, hl]
  rw [List.cons_append, tokensFrom_cons hb, tokensFrom_word hcs, he]
  cases rest with
  | nil => simp [tokensFrom, hs]
  | cons c' rest =>
      have hc' : (isSeparator c' || c' == '"' || (punctuation? c').isSome) = true := by
        have hp := hrest c' rfl
        rwa [isWordPart, Bool.not_eq_false'] at hp
      rw [tokensFrom, tokensFrom]
      simp [tokenStep, hc', hs, Function.comp_def]

/-! ### Quoted texts -/

/-- A quoted text of which `t` has been read, outside all escapes. -/
def Quote.after (t : String) : Quote := ⟨some t, .plain, none⟩

theorem tokensFrom_quote_cons {q q' : Quote} {c : Char} (h : q.step c = some (.inr q')) :
    tokensFrom (.quote q) (c :: cs) = tokensFrom (.quote q') cs := by
  have hs : tokenStep (.quote q) c = some ([], .quote q') := by simp [tokenStep, h]
  rw [tokensFrom_cons hs]
  simp

theorem Quote.step_backslash (t : String) :
    Quote.step (.after t) '\\' = some (.inr ⟨some t, .escape, none⟩) := rfl

theorem digitValue?_digitChar : ∀ n < 16, Text.digitValue? 16 (Nat.digitChar n) = some n := by
  decide

theorem Quote.step_digit {t : String} {missing value n : ℕ} (h : n < 16) :
    Quote.step ⟨some t, .code (missing + 2) value, none⟩ (Nat.digitChar n) =
      some (.inr ⟨some t, .code (missing + 1) (value * 16 + n), none⟩) := by
  simp [Quote.step, digitValue?_digitChar n h]

/-- The last digit of a code point below the surrogates adds its character. -/
theorem Quote.step_last_digit {t : String} {value n : ℕ} (h : n < 16)
    (hv : value * 16 + n < 0xD800) :
    Quote.step ⟨some t, .code 1 value, none⟩ (Nat.digitChar n) =
      some (.inr (.after (t.push (Char.ofNat (value * 16 + n))))) := by
  have hh : isHigh (value * 16 + n) = false := by simp [isHigh]; omega
  have hl : isLow (value * 16 + n) = false := by simp [isLow]; omega
  simp [Quote.step, digitValue?_digitChar n h, Quote.pushCode, hh, hl, Quote.push, Quote.after]

theorem tokensFrom_controlEscape {c : Char} (hc : c.toNat < 32) (t : String) :
    tokensFrom (.quote (.after t)) (controlEscape c ++ rest) =
      tokensFrom (.quote (.after (t.push c))) rest := by
  have hu : Quote.step ⟨some t, .escape, none⟩ 'u' = some (.inr ⟨some t, .code 4 0, none⟩) := rfl
  have h₁ : Quote.step ⟨some t, .code 4 0, none⟩ '0' = some (.inr ⟨some t, .code 3 0, none⟩) :=
    Quote.step_digit (n := 0) (by decide)
  have h₂ : Quote.step ⟨some t, .code 3 0, none⟩ '0' = some (.inr ⟨some t, .code 2 0, none⟩) :=
    Quote.step_digit (n := 0) (by decide)
  have h₃ : Quote.step ⟨some t, .code 2 0, none⟩ (Nat.digitChar (c.toNat / 16)) =
      some (.inr ⟨some t, .code 1 (0 * 16 + c.toNat / 16), none⟩) :=
    Quote.step_digit (by omega)
  have h₄ : Quote.step ⟨some t, .code 1 (0 * 16 + c.toNat / 16), none⟩
      (Nat.digitChar (c.toNat % 16)) =
      some (.inr (.after (t.push (Char.ofNat ((0 * 16 + c.toNat / 16) * 16 + c.toNat % 16))))) :=
    Quote.step_last_digit (by omega) (by omega)
  have hv : (0 * 16 + c.toNat / 16) * 16 + c.toNat % 16 = c.toNat := by omega
  rw [hv, Char.ofNat_toNat] at h₄
  simp only [controlEscape, List.cons_append, List.nil_append]
  rw [tokensFrom_quote_cons (Quote.step_backslash t), tokensFrom_quote_cons hu,
    tokensFrom_quote_cons h₁, tokensFrom_quote_cons h₂, tokensFrom_quote_cons h₃,
    tokensFrom_quote_cons h₄]

theorem tokensFrom_shortEscape {c c' : Char} (hc : shortEscape? c = some c') (hu : c ≠ 'u')
    (t : String) :
    tokensFrom (.quote (.after t)) ('\\' :: c :: rest) =
      tokensFrom (.quote (.after (t.push c'))) rest := by
  have hs : Quote.step ⟨some t, .escape, none⟩ c = some (.inr (.after (t.push c'))) := by
    simp [Quote.step, hu, hc, Quote.settle, Quote.push, Quote.after]
  rw [tokensFrom_quote_cons (Quote.step_backslash t), tokensFrom_quote_cons hs]

/-- A character that has been escaped is read as itself. -/
theorem tokensFrom_escapeChar (c : Char) (t : String) :
    tokensFrom (.quote (.after t)) (escapeChar c ++ rest) =
      tokensFrom (.quote (.after (t.push c))) rest := by
  unfold escapeChar
  split_ifs with h₁ h₂ h₃ h₄ h₅ h₆ h₇ h₈
  · rw [eq_of_beq h₁]; exact tokensFrom_shortEscape rfl (by decide) t
  · rw [eq_of_beq h₂]; exact tokensFrom_shortEscape rfl (by decide) t
  · rw [eq_of_beq h₃]; exact tokensFrom_shortEscape rfl (by decide) t
  · rw [eq_of_beq h₄]; exact tokensFrom_shortEscape rfl (by decide) t
  · rw [eq_of_beq h₅]; exact tokensFrom_shortEscape rfl (by decide) t
  · rw [eq_of_beq h₆]; exact tokensFrom_shortEscape rfl (by decide) t
  · rw [eq_of_beq h₇]; exact tokensFrom_shortEscape rfl (by decide) t
  · exact tokensFrom_controlEscape h₈ t
  · refine tokensFrom_quote_cons ?_
    simp [Quote.step, Quote.after, h₁, h₂, h₈, Quote.settle, Quote.push]

theorem tokensFrom_escaped (cs : List Char) (t : String) :
    tokensFrom (.quote (.after t)) (cs.flatMap escapeChar ++ rest) =
      tokensFrom (.quote (.after (t ++ String.ofList cs))) rest := by
  induction cs generalizing t with
  | nil => simp
  | cons c cs ih =>
      have ht : t.push c ++ String.ofList cs = t ++ String.ofList (c :: cs) := by
        simp [← String.toList_inj]
      rw [List.flatMap_cons, List.append_assoc, tokensFrom_escapeChar, ih, ht]

theorem tokensFrom_quote (s : String) :
    tokensFrom .nothing ((quote s).toList ++ rest) =
      (tokensFrom .nothing rest).map (.text (some s) :: ·) := by
  have hb : tokenStep .nothing '"' = some ([], .quote (.after "")) := rfl
  have he : tokenStep (.quote (.after s)) '"' = some ([.text (some s)], .nothing) := rfl
  rw [quote, String.toList_ofList, List.cons_append, List.append_assoc, tokensFrom_cons hb,
    tokensFrom_escaped]
  simp [tokensFrom_cons he, Function.comp_def]

/-! ### Numbers -/

theorem head?_toDigits {n : ℕ} (h : 0 < n) : (Nat.toDigits 10 n).head? ≠ some '0' := by
  induction n using Nat.strong_induction_on with
  | _ n ih =>
      by_cases hn : n < 10
      · rw [Nat.toDigits_of_lt_base hn]
        interval_cases n <;> decide
      · rw [Nat.toDigits_of_base_le (by decide) (by omega)]
        have hd := ih (n / 10) (by omega) (by omega)
        rwa [List.head?_append_of_ne_nil _ Nat.toDigits_ne_nil]

theorem isDigit_of_mem_toDigits {n : ℕ} {c : Char} (h : c ∈ Nat.toDigits 10 n) :
    c.isDigit = true :=
  Nat.isDigit_of_mem_toDigits (by decide) (by decide) h

theorem isWordPart_of_isDigit {c : Char} (h : c.isDigit = true) : isWordPart c = true := by
  by_contra hc
  rw [Bool.not_eq_true, isWordPart_eq_false_iff] at hc
  simp only [List.mem_cons, List.not_mem_nil, or_false] at hc
  rcases hc with rfl | rfl | rfl | rfl | rfl | rfl | rfl | rfl | rfl | rfl | rfl <;>
    exact absurd h (by decide)

def integerText (n : ℤ) : List Char :=
  if n < 0 then '-' :: Nat.toDigits 10 n.natAbs else Nat.toDigits 10 n.natAbs

theorem toList_toString_int (n : ℤ) : (toString n).toList = integerText n := by
  cases n with
  | ofNat m =>
      have h : toString (Int.ofNat m) = toString m := rfl
      rw [h, Nat.toString_eq_ofList_toDigits, String.toList_ofList]
      simp [integerText]
  | negSucc m =>
      have h : toString (Int.negSucc m) = "-" ++ toString (m + 1) := rfl
      rw [h, Nat.toString_eq_ofList_toDigits, String.toList_append, String.toList_ofList]
      simp [integerText, Int.negSucc_lt_zero]

theorem isDigit_or_minus_of_mem_integerText {n : ℤ} {c : Char} (h : c ∈ integerText n) :
    c.isDigit = true ∨ c = '-' := by
  unfold integerText at h
  split_ifs at h
  · exact (List.mem_cons.1 h).symm.imp_left isDigit_of_mem_toDigits
  · exact .inl (isDigit_of_mem_toDigits h)

/-- The digits of a number, after a sign or without, are read as the number. -/
theorem number?_integerText (n : ℤ) : number? (integerText n) = some (.integer n) := by
  have hall : ∀ c ∈ Nat.toDigits 10 n.natAbs, c.isDigit = true := fun c => isDigit_of_mem_toDigits
  have hs : spanDigits (Nat.toDigits 10 n.natAbs) = (Nat.toDigits 10 n.natAbs, []) := by
    rw [spanDigits, List.takeWhile_eq_self_iff.2 hall, List.dropWhile_eq_nil_iff.2 hall]
  have hv : Text.numeralValue (Nat.toDigits 10 n.natAbs) = n.natAbs :=
    Nat.ofDigitChars_ten_toDigits
  have hz : ((Nat.toDigits 10 n.natAbs).head? == some '0' &&
      (Nat.toDigits 10 n.natAbs).length > 1) = false := by
    rcases Nat.eq_zero_or_pos n.natAbs with h | h
    · rw [h]; rfl
    · simp [head?_toDigits h]
  have hh : (Nat.toDigits 10 n.natAbs).head? ≠ some '-' := by
    intro h
    exact absurd (hall '-' (List.mem_of_mem_head? h)) (by decide)
  unfold integerText
  split
  · next hn =>
    have hne : n ≠ 0 := hn.ne
    simp [number?, hs, hv, hz, Nat.toDigits_ne_nil, hne, abs_of_neg hn]
  · next hn => simp [number?, hh, hs, hv, hz, Nat.toDigits_ne_nil, abs_of_nonneg (not_lt.1 hn)]

theorem scalar?_toString (n : ℤ) : scalar? (toString n) = some (.integer n) := by
  have hw : ∀ {w : String} {c : Char}, c ∈ w.toList → c.isDigit = false ∧ c ≠ '-' →
      toString n ≠ w := by
    rintro w c hc hd rfl
    rw [toList_toString_int] at hc
    rcases isDigit_or_minus_of_mem_integerText hc with h | h
    · simp [hd.1] at h
    · exact hd.2 h
  have h₁ : toString n ≠ "null" := hw (by simp : 'n' ∈ "null".toList) (by decide)
  have h₂ : toString n ≠ "true" := hw (by simp : 't' ∈ "true".toList) (by decide)
  have h₃ : toString n ≠ "false" := hw (by simp : 'f' ∈ "false".toList) (by decide)
  rw [scalar?, if_neg h₁, if_neg h₂, if_neg h₃, toList_toString_int, number?_integerText]

theorem isWordPart_of_mem_toString (n : ℤ) : ∀ c ∈ (toString n).toList, isWordPart c = true := by
  intro c hc
  rw [toList_toString_int] at hc
  rcases isDigit_or_minus_of_mem_integerText hc with h | rfl
  · exact isWordPart_of_isDigit h
  · decide

/-! ### Tokens of documents -/

/-- Breaks and spaces of the layout are separators. -/
structure Layout.IsBlank (layout : Layout) : Prop where
  lineBreak : ∀ depth, ∀ c ∈ (layout.lineBreak depth).toList, isSeparator c = true
  afterName : ∃ cs, layout.afterName.toList = ':' :: cs ∧ ∀ c ∈ cs, isSeparator c = true

theorem Layout.isBlank_compact : Layout.compact.IsBlank := by
  refine ⟨fun depth c hc => ?_, [], rfl, by simp⟩
  simp [compact] at hc

theorem Layout.isBlank_indented : Layout.indented.IsBlank := by
  refine ⟨fun depth c hc => ?_, [' '], rfl, by simp [isSeparator]⟩
  simp only [indented, String.toList_ofList, List.mem_cons, List.mem_replicate] at hc
  rcases hc with rfl | ⟨-, rfl⟩ <;> decide

/-- All parts of the document can be read, its numerals among them. -/
inductive IsReadable : Document → Prop
  | null : IsReadable .null
  | bool (b : Bool) : IsReadable (.bool b)
  | integer (n : ℤ) : IsReadable (.integer n)
  | decimal {numeral : String} : scalar? numeral = some (.decimal numeral) →
      (∀ c ∈ numeral.toList, isWordPart c = true) → IsReadable (.decimal numeral)
  | text (s : String) : IsReadable (.text s)
  | list {items : List Document} : (∀ d ∈ items, IsReadable d) → IsReadable (.list items)
  | table {fields : List (String × Document)} :
      (∀ f ∈ fields, IsReadable f.2) → IsReadable (.table fields)

mutual

def tokensOf : Document → List Token
  | .text s => [.text (some s)]
  | .list [] => [.openList, .closeList]
  | .list (d :: ds) => .openList :: (tokensOf d ++ (itemTokens ds ++ [.closeList]))
  | .table [] => [.openTable, .closeTable]
  | .table ((name, d) :: fs) =>
    .openTable :: .text (some name) :: .colon :: (tokensOf d ++ (fieldTokens fs ++ [.closeTable]))
  | d => [.scalar d]

/-- The tokens of items, each after a comma. -/
def itemTokens : List Document → List Token
  | [] => []
  | d :: ds => .comma :: (tokensOf d ++ itemTokens ds)

/-- The tokens of fields, each after a comma. -/
def fieldTokens : List (String × Document) → List Token
  | [] => []
  | (name, d) :: fs => .comma :: .text (some name) :: .colon :: (tokensOf d ++ fieldTokens fs)

end

theorem EndsWord.cons {c : Char} (h : isWordPart c = false) : EndsWord (c :: cs) := by
  simpa [EndsWord] using h

theorem EndsWord.separators (hc : ∀ c ∈ cs, isSeparator c = true) (h : EndsWord rest) :
    EndsWord (cs ++ rest) := by
  cases cs with
  | nil => exact h
  | cons c cs =>
      refine EndsWord.cons ?_
      simp [isWordPart, hc c List.mem_cons_self]

theorem endsWord_writeItems {layout : Layout} (depth : ℕ) (ds : List Document)
    (h : EndsWord rest) : EndsWord ((writeItems layout depth ds).toList ++ rest) := by
  cases ds with
  | nil => simpa [writeItems] using h
  | cons d ds => simpa [writeItems] using EndsWord.cons rfl

theorem endsWord_writeFields {layout : Layout} (depth : ℕ) (fs : List (String × Document))
    (h : EndsWord rest) : EndsWord ((writeFields layout depth fs).toList ++ rest) := by
  cases fs with
  | nil => simpa [writeFields] using h
  | cons f fs => simpa [writeFields] using EndsWord.cons rfl

section write

variable {layout : Layout} (hl : layout.IsBlank)
include hl

/-- What closes a list or a table, on a line of its own or not. -/
theorem tokensFrom_close {c : Char} {t : Token} (h : punctuation? c = some t) (depth : ℕ) :
    tokensFrom .nothing ((layout.lineBreak depth).toList ++ c :: rest) =
      (tokensFrom .nothing rest).map (t :: ·) := by
  rw [tokensFrom_separators (hl.lineBreak depth), tokensFrom_punctuation h]

theorem endsWord_close {c : Char} (h : isWordPart c = false) (depth : ℕ) :
    EndsWord ((layout.lineBreak depth).toList ++ c :: rest) :=
  .separators (hl.lineBreak depth) (.cons h)

/-- A name and the colon after it. -/
theorem tokensFrom_name (name : String) :
    tokensFrom .nothing ((quote name).toList ++ (layout.afterName.toList ++ rest)) =
      (tokensFrom .nothing rest).map (.text (some name) :: .colon :: ·) := by
  obtain ⟨cs, ha, hcs⟩ := hl.afterName
  rw [tokensFrom_quote, ha, List.cons_append, tokensFrom_punctuation (t := .colon) rfl,
    tokensFrom_separators hcs, Option.map_map]
  rfl

mutual

theorem tokensFrom_write : ∀ (d : Document) (depth : ℕ) {rest : List Char}, IsReadable d →
    EndsWord rest → tokensFrom .nothing ((write layout depth d).toList ++ rest) =
      (tokensFrom .nothing rest).map (tokensOf d ++ ·)
  | .null, _, _, _, hr =>
      tokensFrom_scalar (w := "null") rfl (by simp [isWordPart, isSeparator, punctuation?]) hr
  | .bool true, _, _, _, hr =>
      tokensFrom_scalar (w := "true") rfl (by simp [isWordPart, isSeparator, punctuation?]) hr
  | .bool false, _, _, _, hr =>
      tokensFrom_scalar (w := "false") rfl (by simp [isWordPart, isSeparator, punctuation?]) hr
  | .integer n, _, _, _, hr =>
      tokensFrom_scalar (scalar?_toString n) (isWordPart_of_mem_toString n) hr
  | .decimal numeral, _, _, .decimal hs hw, hr => tokensFrom_scalar hs hw hr
  | .text s, _, _, _, _ => by
      rw [write, tokensFrom_quote]
      rfl
  | .list [], depth, _, _, _ => by
      have hw : (write layout depth (.list [])).toList = ['[', ']'] := by simp [write]
      rw [hw, List.cons_append, tokensFrom_punctuation (t := .openList) rfl, List.cons_append,
        tokensFrom_punctuation (t := .closeList) rfl, Option.map_map]
      rfl
  | .list (d :: ds), depth, rest, .list h, _ => by
      obtain ⟨hd, hds⟩ := List.forall_mem_cons.1 h
      have he : EndsWord ((layout.lineBreak depth).toList ++ ']' :: rest) :=
        endsWord_close hl rfl depth
      have hw : (write layout depth (.list (d :: ds))).toList ++ rest =
          '[' :: ((layout.lineBreak (depth + 1)).toList ++ ((write layout (depth + 1) d).toList ++
            ((writeItems layout (depth + 1) ds).toList ++
              ((layout.lineBreak depth).toList ++ ']' :: rest)))) := by
        simp [write]
      rw [hw, tokensFrom_punctuation (t := .openList) rfl, tokensFrom_separators (hl.lineBreak _),
        tokensFrom_write d _ hd (endsWord_writeItems _ ds he), tokensFrom_writeItems ds _ hds he,
        tokensFrom_close hl (t := .closeList) rfl]
      simp [Function.comp_def, tokensOf]
  | .table [], depth, _, _, _ => by
      have hw : (write layout depth (.table [])).toList = ['\x7b', '\x7d'] := by simp [write]
      rw [hw, List.cons_append, tokensFrom_punctuation (t := .openTable) rfl, List.cons_append,
        tokensFrom_punctuation (t := .closeTable) rfl, Option.map_map]
      rfl
  | .table ((name, d) :: fs), depth, rest, .table h, _ => by
      obtain ⟨hd, hfs⟩ := List.forall_mem_cons.1 h
      have he : EndsWord ((layout.lineBreak depth).toList ++ '\x7d' :: rest) :=
        endsWord_close hl rfl depth
      have hw : (write layout depth (.table ((name, d) :: fs))).toList ++ rest =
          '\x7b' :: ((layout.lineBreak (depth + 1)).toList ++ ((quote name).toList ++
            (layout.afterName.toList ++ ((write layout (depth + 1) d).toList ++
              ((writeFields layout (depth + 1) fs).toList ++
                ((layout.lineBreak depth).toList ++ '\x7d' :: rest)))))) := by
        simp [write]
      rw [hw, tokensFrom_punctuation (t := .openTable) rfl, tokensFrom_separators (hl.lineBreak _),
        tokensFrom_name hl, tokensFrom_write d _ hd (endsWord_writeFields _ fs he),
        tokensFrom_writeFields fs _ hfs he, tokensFrom_close hl (t := .closeTable) rfl]
      simp [Function.comp_def, tokensOf]

theorem tokensFrom_writeItems : ∀ (ds : List Document) (depth : ℕ) {rest : List Char},
    (∀ d ∈ ds, IsReadable d) → EndsWord rest →
    tokensFrom .nothing ((writeItems layout depth ds).toList ++ rest) =
      (tokensFrom .nothing rest).map (itemTokens ds ++ ·)
  | [], _, _, _, _ => by simp [writeItems, itemTokens]
  | d :: ds, depth, rest, h, hr => by
      obtain ⟨hd, hds⟩ := List.forall_mem_cons.1 h
      have hw : (writeItems layout depth (d :: ds)).toList ++ rest =
          ',' :: ((layout.lineBreak depth).toList ++ ((write layout depth d).toList ++
            ((writeItems layout depth ds).toList ++ rest))) := by
        simp [writeItems]
      rw [hw, tokensFrom_punctuation (t := .comma) rfl, tokensFrom_separators (hl.lineBreak _),
        tokensFrom_write d _ hd (endsWord_writeItems _ ds hr), tokensFrom_writeItems ds _ hds hr]
      simp [Function.comp_def, itemTokens]

theorem tokensFrom_writeFields : ∀ (fs : List (String × Document)) (depth : ℕ)
    {rest : List Char}, (∀ f ∈ fs, IsReadable f.2) → EndsWord rest →
    tokensFrom .nothing ((writeFields layout depth fs).toList ++ rest) =
      (tokensFrom .nothing rest).map (fieldTokens fs ++ ·)
  | [], _, _, _, _ => by simp [writeFields, fieldTokens]
  | (name, d) :: fs, depth, rest, h, hr => by
      obtain ⟨hd, hfs⟩ := List.forall_mem_cons.1 h
      have hw : (writeFields layout depth ((name, d) :: fs)).toList ++ rest =
          ',' :: ((layout.lineBreak depth).toList ++ ((quote name).toList ++
            (layout.afterName.toList ++ ((write layout depth d).toList ++
              ((writeFields layout depth fs).toList ++ rest))))) := by
        simp [writeFields]
      rw [hw, tokensFrom_punctuation (t := .comma) rfl, tokensFrom_separators (hl.lineBreak _),
        tokensFrom_name hl, tokensFrom_write d _ hd (endsWord_writeFields _ fs hr),
        tokensFrom_writeFields fs _ hfs hr]
      simp [Function.comp_def, fieldTokens]

end

end write

/-! ### Documents from tokens -/

theorem foldlM_cons {e e' : Expect} {t : Token} (h : e.step t = some e') (ts : List Token) :
    (t :: ts).foldlM Expect.step e = ts.foldlM Expect.step e' := by
  rw [List.foldlM_cons, h]
  rfl

/-- Fields that have been read, with the latest first. -/
def readFields (fields : List (String × Document)) : Fields :=
  (fields.map fun f => (some f.1, f.2)).reverse

theorem tableOf_readFields (fields : List (String × Document)) :
    tableOf (readFields fields) = .table fields := by
  have hm : (fields.map fun f => (some f.1, f.2)).mapM
      (fun f : Option String × Document => f.1.map fun name => (name, f.2)) = some fields := by
    induction fields with
    | nil => rfl
    | cons f fs ih => simp [ih]
  rw [tableOf, readFields, List.reverse_reverse, hm]

theorem readFields_append (fields : List (String × Document)) (name : String) (d : Document) :
    readFields (fields ++ [(name, d)]) = (some name, d) :: readFields fields := by
  simp [readFields]

mutual

/-- The tokens of a document are read as the document. -/
theorem foldlM_tokensOf : ∀ (d : Document) {stack : List Frame} {mayEnd : Bool}
    (ts : List Token), IsReadable d →
    (tokensOf d ++ ts).foldlM Expect.step (.value stack mayEnd) =
      ts.foldlM Expect.step (complete d stack)
  | .null, _, _, ts, _ => foldlM_cons rfl ts
  | .bool _, _, _, ts, _ => foldlM_cons rfl ts
  | .integer _, _, _, ts, _ => foldlM_cons rfl ts
  | .decimal _, _, _, ts, _ => foldlM_cons rfl ts
  | .text _, _, _, ts, _ => foldlM_cons rfl ts
  | .list [], _, _, ts, _ => by
      rw [tokensOf, List.cons_append, foldlM_cons rfl, List.cons_append, foldlM_cons rfl]
      rfl
  | .list (d :: ds), stack, _, ts, .list h => by
      obtain ⟨hd, hds⟩ := List.forall_mem_cons.1 h
      rw [tokensOf, List.cons_append, foldlM_cons rfl, List.append_assoc, foldlM_tokensOf d _ hd,
        List.append_assoc]
      exact foldlM_itemTokens ds [d] stack ts hds
  | .table [], _, _, ts, _ => by
      rw [tokensOf, List.cons_append, foldlM_cons rfl, List.cons_append, foldlM_cons rfl]
      rfl
  | .table ((name, d) :: fs), stack, _, ts, .table h => by
      obtain ⟨hd, hfs⟩ := List.forall_mem_cons.1 h
      rw [tokensOf, List.cons_append, foldlM_cons rfl, List.cons_append, foldlM_cons rfl,
        List.cons_append, foldlM_cons rfl, List.append_assoc, foldlM_tokensOf d _ hd,
        List.append_assoc]
      exact foldlM_fieldTokens fs [(name, d)] stack ts hfs

theorem foldlM_itemTokens : ∀ (ds done : List Document) (stack : List Frame) (ts : List Token),
    (∀ d ∈ ds, IsReadable d) →
    (itemTokens ds ++ Token.closeList :: ts).foldlM Expect.step (.itemEnd done.reverse stack) =
      ts.foldlM Expect.step (complete (.list (done ++ ds)) stack)
  | [], done, stack, ts, _ => by
      rw [itemTokens, List.nil_append, List.append_nil, foldlM_cons rfl,
        listOf, List.reverse_reverse]
  | d :: ds, done, stack, ts, h => by
      obtain ⟨hd, hds⟩ := List.forall_mem_cons.1 h
      have ih := foldlM_itemTokens ds (done ++ [d]) stack ts hds
      rw [itemTokens, List.cons_append, foldlM_cons rfl, List.append_assoc, foldlM_tokensOf d _ hd]
      simpa [complete] using ih

theorem foldlM_fieldTokens : ∀ (fs done : List (String × Document)) (stack : List Frame)
    (ts : List Token), (∀ f ∈ fs, IsReadable f.2) →
    (fieldTokens fs ++ Token.closeTable :: ts).foldlM Expect.step
        (.fieldEnd (readFields done) stack) =
      ts.foldlM Expect.step (complete (.table (done ++ fs)) stack)
  | [], done, stack, ts, _ => by
      rw [fieldTokens, List.nil_append, List.append_nil, foldlM_cons rfl,
        tableOf_readFields]
  | (name, d) :: fs, done, stack, ts, h => by
      obtain ⟨hd, hfs⟩ := List.forall_mem_cons.1 h
      have ih := foldlM_fieldTokens fs (done ++ [(name, d)]) stack ts hfs
      rw [readFields_append] at ih
      rw [fieldTokens, List.cons_append, foldlM_cons rfl, List.cons_append, foldlM_cons rfl,
        List.cons_append, foldlM_cons rfl, List.append_assoc, foldlM_tokensOf d _ hd]
      simpa [complete] using ih

end

/-- A document is read as it was written, in any layout. -/
theorem read?_write {layout : Layout} (hl : layout.IsBlank) (depth : ℕ) {d : Document}
    (h : IsReadable d) : read? (write layout depth d) = some d := by
  have ht : tokensFrom .nothing ((write layout depth d).toList ++ []) =
      (tokensFrom .nothing []).map (tokensOf d ++ ·) :=
    tokensFrom_write hl d depth h (by simp [EndsWord])
  have hf : (tokensOf d ++ []).foldlM Expect.step (.value [] false) = some (complete d []) :=
    foldlM_tokensOf d [] h
  rw [List.append_nil] at ht hf
  rw [read?, ht]
  simp only [tokensFrom, Option.map_some, List.append_nil, hf]
  rfl

end CacheKeys.Json
