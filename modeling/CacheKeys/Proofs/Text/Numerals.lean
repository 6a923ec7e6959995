import Mathlib
import CacheKeys.Proofs.Builtin.Functions
import CacheKeys.Proofs.Template.Rendering
import CacheKeys.Proofs.Text.Blanks

/-! # Numerals between blanks

A `Numeral` is at most one sign and digits, with blanks around them, and its value is the decimal
one.  An argument is an integer if it is the text of a numeral whose value is kept in 64 bits, and
nothing else is (`Arguments.int_eq_ok_iff_numeral`); so every such integer is found again in its
decimal text. -/

namespace CacheKeys.Text

/-- The integers that are kept in 64 bits. -/
def FitsInteger (n : ℤ) : Prop := -2 ^ 63 ≤ n ∧ n ≤ 2 ^ 63 - 1

instance (n : ℤ) : Decidable (FitsInteger n) :=
  inferInstanceAs (Decidable (-2 ^ 63 ≤ n ∧ n ≤ 2 ^ 63 - 1))

/-- What can stand before digits. -/
inductive Sign where
  | none
  | plus
  | minus
  deriving DecidableEq

namespace Sign

def text : Sign → String
  | none => ""
  | plus => "+"
  | minus => "-"

/-- The integer of a sign and an absolute value. -/
def apply : Sign → ℕ → ℤ
  | none, m => m
  | plus, m => m
  | minus, m => -m

/-- One more than the greatest absolute value behind a sign. -/
def bound : Sign → ℕ
  | none => integerBound
  | plus => integerBound
  | minus => integerBound + 1

end Sign

/-- The value of digits, of which the last one counts ones and each other one ten times what the
next one counts. -/
def decimalValue (digits : String) : ℕ :=
  Nat.ofDigits 10 (digits.toList.reverse.map fun c => c.toNat - '0'.toNat)

/-- Digits with at most one sign before them and blanks around both. -/
structure Numeral where
  lead : String
  sign : Sign
  digits : String
  trail : String
  isBlankRun_lead : IsBlankRun lead
  isBlankRun_trail : IsBlankRun trail
  digits_ne : digits ≠ ""
  isDigit : ∀ c ∈ digits.toList, c.isDigit = true

namespace Numeral

def text (w : Numeral) : String := w.lead ++ (w.sign.text ++ w.digits) ++ w.trail

def value (w : Numeral) : ℤ := w.sign.apply (decimalValue w.digits)

end Numeral

/-! ### Digits -/

theorem numeralValue_eq_decimalValue (s : String) : numeralValue s.toList = decimalValue s := by
  rw [numeralValue, Nat.ofDigitChars_eq_foldl, decimalValue, Nat.ofDigits_eq_foldr, List.foldr_map,
    List.foldr_reverse]
  refine List.foldl_ext _ _ _ fun m c _ => ?_
  exact Nat.add_comm _ _

theorem isNumeral_toList_iff {s : String} :
    isNumeral s.toList = true ↔ s ≠ "" ∧ ∀ c ∈ s.toList, c.isDigit = true := by
  simp [isNumeral]

theorem natBelow?_digits {s : String} (hne : s ≠ "") (hd : ∀ c ∈ s.toList, c.isDigit = true)
    (bound : ℕ) :
    natBelow? bound s.toList = if decimalValue s < bound then some (decimalValue s) else none := by
  rw [natBelow?, isNumeral_toList_iff.2 ⟨hne, hd⟩, numeralValue_eq_decimalValue]
  simp

theorem natBelow?_eq_some {bound m : ℕ} {cs : List Char} (h : natBelow? bound cs = some m) :
    ∃ s : String, cs = s.toList ∧ s ≠ "" ∧ (∀ c ∈ s.toList, c.isDigit = true) ∧
      decimalValue s = m := by
  refine ⟨String.ofList cs, String.toList_ofList.symm, ?_⟩
  unfold natBelow? at h
  split at h
  · next hn =>
    have hcs := hn.1
    rw [← String.toList_ofList (l := cs)] at hcs
    obtain ⟨hne, hd⟩ := isNumeral_toList_iff.1 hcs
    refine ⟨hne, hd, ?_⟩
    rw [← numeralValue_eq_decimalValue, String.toList_ofList]
    exact Option.some.inj h
  · cases h

/-! ### Signed digits -/

theorem Sign.fitsInteger_apply_iff (sign : Sign) (m : ℕ) :
    FitsInteger (sign.apply m) ↔ m < sign.bound := by
  unfold FitsInteger bound integerBound
  cases sign with
  | none => simp only [apply]; omega
  | plus => simp only [apply]; omega
  | minus => simp only [apply]; omega

/-- A sign is read as one, and digits without a sign are not taken for it. -/
theorem readInteger?_sign_append (sign : Sign) {digits : String}
    (hd : ∀ c ∈ digits.toList, c.isDigit = true) :
    readInteger? (sign.text ++ digits) = (natBelow? sign.bound digits.toList).map sign.apply := by
  cases sign with
  | none =>
      rw [Sign.text, String.empty_append, readInteger?]
      split
      · next cs hs =>
        have hminus : '-'.isDigit = true := hd '-' (hs ▸ List.mem_cons_self)
        cases hminus
      · next cs hs =>
        have hplus : '+'.isDigit = true := hd '+' (hs ▸ List.mem_cons_self)
        cases hplus
      · rfl
  | plus =>
      rw [readInteger?, String.toList_append]
      rfl
  | minus =>
      rw [readInteger?, String.toList_append]
      rfl

/-- What is read as an integer is a sign and digits. -/
theorem exists_sign_append_of_readInteger? {s : String} {n : ℤ} (h : readInteger? s = some n) :
    ∃ (sign : Sign) (digits : String), s = sign.text ++ digits ∧
      digits ≠ "" ∧ (∀ c ∈ digits.toList, c.isDigit = true) ∧
      sign.apply (decimalValue digits) = n := by
  have hof : ∀ (sign : Sign) (cs : List Char), s.toList = sign.text.toList ++ cs →
      (natBelow? sign.bound cs).map sign.apply = some n →
      ∃ (sign : Sign) (digits : String), s = sign.text ++ digits ∧
        digits ≠ "" ∧ (∀ c ∈ digits.toList, c.isDigit = true) ∧
        sign.apply (decimalValue digits) = n := by
    intro sign cs hs hn
    obtain ⟨m, hm, rfl⟩ := Option.map_eq_some_iff.1 hn
    obtain ⟨digits, rfl, hne, hd, rfl⟩ := natBelow?_eq_some hm
    refine ⟨sign, digits, ?_, hne, hd, rfl⟩
    rw [← String.toList_inj, hs, String.toList_append]
  unfold readInteger? at h
  split at h
  · next cs hs => exact hof .minus cs hs h
  · next cs hs => exact hof .plus cs hs h
  · exact hof .none s.toList rfl h

/-! ### Numerals as arguments -/

theorem isBlank_of_isDigit {c : Char} (h : c.isDigit = true) : isBlank c = false := by
  have hword := Template.isWordChar_of_isDigit h
  simp only [Template.isWordChar, Bool.not_eq_true', Bool.or_eq_false_iff] at hword
  exact hword.1.1.1

namespace Numeral

theorem trimBlanks_text (w : Numeral) : trimBlanks w.text = w.sign.text ++ w.digits := by
  have hne : w.digits.toList ≠ [] := by simpa using w.digits_ne
  have hfirst : ∀ c ∈ (w.sign.text ++ w.digits).toList.head?, isBlank c = false := by
    intro c hc
    cases hs : w.sign with
    | none =>
        rw [hs, Sign.text, String.empty_append] at hc
        exact isBlank_of_isDigit (w.isDigit c (List.mem_of_mem_head? hc))
    | plus =>
        rw [hs] at hc
        obtain rfl : '+' = c := by simpa [Sign.text] using hc
        rfl
    | minus =>
        rw [hs] at hc
        obtain rfl : '-' = c := by simpa [Sign.text] using hc
        rfl
  have hlast : ∀ c ∈ (w.sign.text ++ w.digits).toList.getLast?, isBlank c = false := by
    intro c hc
    rw [String.toList_append, List.getLast?_append_of_ne_nil _ hne] at hc
    exact isBlank_of_isDigit (w.isDigit c (List.mem_of_mem_getLast? hc))
  exact trimBlanks_append w.isBlankRun_lead w.isBlankRun_trail ⟨hfirst, hlast⟩

/-- A numeral is read as its value if this is kept in 64 bits. -/
theorem readInt_text (w : Numeral) :
    Arguments.readInt w.text = if FitsInteger w.value then .ok w.value else .error .badType := by
  rw [Arguments.readInt, w.trimBlanks_text, readInteger?_sign_append w.sign w.isDigit,
    natBelow?_digits w.digits_ne w.isDigit]
  simp only [value, w.sign.fitsInteger_apply_iff]
  by_cases h : decimalValue w.digits < w.sign.bound
  · rw [if_pos h, if_pos h]
    rfl
  · rw [if_neg h, if_neg h]
    rfl

/-- Nothing else is read as an integer. -/
theorem exists_of_readInt {s : String} {n : ℤ} (h : Arguments.readInt s = .ok n) :
    ∃ w : Numeral, w.text = s ∧ w.value = n := by
  unfold Arguments.readInt at h
  split at h
  · next m hm =>
    obtain ⟨sign, digits, hs, hne, hd, hv⟩ := exists_sign_append_of_readInteger? hm
    obtain ⟨lead, trail, hsplit, hlead, htrail⟩ := exists_trimBlanks s
    refine ⟨⟨lead, sign, digits, trail, hlead, htrail, hne, hd⟩, ?_, hv.trans (Except.ok.inj h)⟩
    rw [text, ← hs, ← hsplit]
  · cases h

theorem readInt_eq_ok_iff {s : String} {n : ℤ} :
    Arguments.readInt s = .ok n ↔ (∃ w : Numeral, w.text = s ∧ w.value = n) ∧ FitsInteger n := by
  constructor
  · intro h
    obtain ⟨w, rfl, rfl⟩ := exists_of_readInt h
    refine ⟨⟨w, rfl, rfl⟩, ?_⟩
    by_contra hfits
    rw [w.readInt_text, if_neg hfits] at h
    cases h
  · rintro ⟨⟨w, rfl, rfl⟩, hfits⟩
    rw [w.readInt_text, if_pos hfits]

/-- The decimal text of an integer, with blanks around it, is a numeral of its value. -/
theorem exists_toString {lead trail : String} (hl : IsBlankRun lead) (ht : IsBlankRun trail)
    (n : ℤ) : ∃ w : Numeral, w.text = lead ++ toString n ++ trail ∧ w.value = n := by
  have hdigits : ∀ m : ℕ, toString m ≠ "" ∧ (∀ c ∈ (toString m).toList, c.isDigit = true) ∧
      decimalValue (toString m) = m := by
    intro m
    obtain ⟨hne, hd⟩ := isNumeral_toList_iff.1 (Template.isNumeral_toString m)
    refine ⟨hne, hd, ?_⟩
    rw [← numeralValue_eq_decimalValue, Template.numeralValue_toString]
  cases n with
  | ofNat m =>
      obtain ⟨hne, hd, hv⟩ := hdigits m
      refine ⟨⟨lead, .none, toString m, trail, hl, ht, hne, hd⟩, ?_, congrArg Nat.cast hv⟩
      rw [text, Sign.text, String.empty_append]
      rfl
  | negSucc m =>
      obtain ⟨hne, hd, hv⟩ := hdigits (m + 1)
      refine ⟨⟨lead, .minus, toString (m + 1), trail, hl, ht, hne, hd⟩, rfl, ?_⟩
      rw [value, Sign.apply, hv]
      rfl

theorem readInt_toString {n : ℤ} (h : FitsInteger n) : Arguments.readInt (toString n) = .ok n := by
  obtain ⟨w, hw, hv⟩ := exists_toString isBlankRun_empty isBlankRun_empty n
  rw [String.empty_append, String.append_empty] at hw
  exact readInt_eq_ok_iff.2 ⟨⟨w, hw, hv⟩, h⟩

end Numeral

end CacheKeys.Text

namespace CacheKeys

open Text

/-- An argument is an integer exactly if it is the text of a numeral whose value is kept in 64 bits,
and is refused as one of the wrong type otherwise; the decimal text of an integer that is kept in 64
bits, with any blanks around it, is read as this integer. -/
theorem Arguments.int_eq_ok_iff_numeral (a : Arguments) (i : ℕ) :
    (∀ n, a.int i = .ok n ↔ (∃ w : Numeral, w.text = a.text i ∧ w.value = n) ∧ FitsInteger n) ∧
    (a.int i = .error .badType ↔ ¬∃ w : Numeral, w.text = a.text i ∧ FitsInteger w.value) ∧
    ∀ n lead trail, FitsInteger n → IsBlankRun lead → IsBlankRun trail →
      a.text i = lead ++ toString n ++ trail → a.int i = .ok n := by
  have hok : ∀ n, a.int i = .ok n ↔
      (∃ w : Numeral, w.text = a.text i ∧ w.value = n) ∧ FitsInteger n :=
    fun n => Numeral.readInt_eq_ok_iff
  refine ⟨hok, ?_, ?_⟩
  · constructor
    · rintro herr ⟨w, hw, hfits⟩
      have hread := (hok w.value).2 ⟨⟨w, hw, rfl⟩, hfits⟩
      rw [herr] at hread
      cases hread
    · intro hnone
      cases hread : a.int i with
      | error e => rw [Arguments.readInt_eq_error hread]
      | ok n =>
          obtain ⟨⟨w, hw, rfl⟩, hfits⟩ := (hok n).1 hread
          exact absurd ⟨w, hw, hfits⟩ hnone
  · intro n lead trail hfits hlead htrail htext
    obtain ⟨w, hw, hv⟩ := Numeral.exists_toString hlead htrail n
    exact (hok n).2 ⟨⟨w, hw.trans htext.symm, hv⟩, hfits⟩

/-- The least integer, which has no positive counterpart, is read between blanks. -/
theorem Arguments.int_eq_ok_iff_numeral_least :
    FitsInteger (-2 ^ 63) ∧ IsBlankRun "\t" ∧ IsBlankRun " \n" ∧
    Arguments.text ⟨["9223372036854775808", "\t-9223372036854775808 \n"]⟩ 1 =
      "\t" ++ toString (-2 ^ 63 : ℤ) ++ " \n" ∧
    Arguments.int ⟨["9223372036854775808", "\t-9223372036854775808 \n"]⟩ 1 = .ok (-2 ^ 63) ∧
    Arguments.int ⟨["9223372036854775808", "\t-9223372036854775808 \n"]⟩ 0 =
      .error .badType := by
  have hfits : FitsInteger (-2 ^ 63) := by decide
  have hlead : IsBlankRun "\t" := by decide +kernel
  have htrail : IsBlankRun " \n" := by decide +kernel
  have htext : Arguments.text ⟨["9223372036854775808", "\t-9223372036854775808 \n"]⟩ 1 =
      "\t" ++ toString (-2 ^ 63 : ℤ) ++ " \n" := by decide +kernel
  refine ⟨hfits, hlead, htrail, htext, ?_, by decide +kernel⟩
  exact (Arguments.int_eq_ok_iff_numeral _ 1).2.2 _ _ _ hfits hlead htrail htext

end CacheKeys
