import Mathlib
import CacheKeys.Metrics.Report
import CacheKeys.Proofs.Decimal.Shortest
import CacheKeys.Proofs.Document.Json
import CacheKeys.Proofs.Text.Pieces

/-! # Numbers as JSON

The text of a double is a number of JSON: digits without a zero in front, and then a fraction, an
exponent or both (`Json.IsNumber`).  It needs that the digits that were found are not zero
(`Decimal.isNumber_text`); so every number that is put into a document can be read from its JSON
text (`Json.isReadable_ofFloat`). -/

namespace CacheKeys

namespace Json

/-! ### The grammar of numbers -/

structure IsDigits (cs : List Char) : Prop where
  ne_nil : cs ≠ []
  isDigit : ∀ c ∈ cs, c.isDigit = true

/-- An exponent: its letter, at most one sign, and digits. -/
inductive IsExponent : List Char → Prop
  | plain {ds : List Char} : IsDigits ds → IsExponent ('e' :: ds)
  | plus {ds : List Char} : IsDigits ds → IsExponent ('e' :: '+' :: ds)
  | minus {ds : List Char} : IsDigits ds → IsExponent ('e' :: '-' :: ds)

/-- What stands behind the first digits: a fraction, an exponent, or both. -/
inductive IsTail : List Char → Prop
  | fraction {ds : List Char} : IsDigits ds → IsTail ('.' :: ds)
  | exponent {es : List Char} : IsExponent es → IsTail es
  | both {ds es : List Char} : IsDigits ds → IsExponent es → IsTail ('.' :: (ds ++ es))

/-- A number without a sign that is no integer.  A zero in front stands alone. -/
inductive IsNumber : List Char → Prop
  | mk {ds tail : List Char} : IsDigits ds → (ds.head? = some '0' → ds.length = 1) →
      IsTail tail → IsNumber (ds ++ tail)

variable {cs ds es tail : List Char}

theorem isDigits_toDigits (n : ℕ) : IsDigits (Nat.toDigits 10 n) :=
  ⟨Nat.toDigits_ne_nil, fun _ => isDigit_of_mem_toDigits⟩

theorem IsDigits.append (h : IsDigits ds) (h' : ∀ c ∈ cs, c.isDigit = true) :
    IsDigits (ds ++ cs) :=
  ⟨by simp [h.ne_nil], List.forall_mem_append.2 ⟨h.isDigit, h'⟩⟩

/-! ### Numbers are read -/

theorem IsDigits.isNumeral (h : IsDigits ds) : Text.isNumeral ds = true := by
  simp [Text.isNumeral, h.ne_nil, List.all_eq_true.2 h.isDigit]

theorem spanDigits_append (h : ∀ c ∈ ds, c.isDigit = true)
    (htail : ∀ c ∈ tail.head?, c.isDigit = false) : spanDigits (ds ++ tail) = (ds, tail) := by
  rw [spanDigits, Text.takeWhile_append_of_head h htail, Text.dropWhile_append_of_head h htail]

theorem IsExponent.head? (h : IsExponent es) : ∀ c ∈ es.head?, c.isDigit = false := by
  intro c hc
  cases h <;> cases hc <;> decide

theorem IsDigits.ne_of_head {c : Char} {cs : List Char} (h : IsDigits (c :: cs)) {d : Char}
    (hd : d.isDigit = false) : c ≠ d := by
  rintro rfl
  rw [h.isDigit c List.mem_cons_self] at hd
  cases hd

theorem IsExponent.isExponent (h : IsExponent es) : Text.isExponent es = true := by
  cases h with
  | @plain ds hds =>
      cases ds with
      | nil => exact absurd rfl hds.ne_nil
      | cons c cs =>
          have hnumeral := hds.isNumeral
          simp only [Text.isExponent, beq_self_eq_true, Bool.true_or, Bool.true_and]
          split
          · next heq => exact absurd (List.cons.inj heq).1 (hds.ne_of_head (by decide))
          · next heq => exact absurd (List.cons.inj heq).1 (hds.ne_of_head (by decide))
          · exact hnumeral
  | plus hds => simpa [Text.isExponent] using hds.isNumeral
  | minus hds => simpa [Text.isExponent] using hds.isNumeral

theorem IsTail.head? (h : IsTail tail) : ∀ c ∈ tail.head?, c.isDigit = false := by
  cases h with
  | fraction _ => simp
  | exponent hes => exact hes.head?
  | both _ _ => simp

theorem IsTail.isNumberTail (h : IsTail tail) : isNumberTail tail = true := by
  cases h with
  | @fraction ds hds =>
      have hspan : spanDigits ds = (ds, []) := by
        rw [← spanDigits_append hds.isDigit (by simp), List.append_nil]
      simp [Json.isNumberTail, hspan, hds.ne_nil]
  | exponent hes =>
      have hexp := hes.isExponent
      cases hes <;> simp [Json.isNumberTail, hexp]
  | both hds hes =>
      simp [Json.isNumberTail, spanDigits_append hds.isDigit hes.head?, hds.ne_nil,
        hes.isExponent]

theorem IsTail.ne_nil (h : IsTail tail) : tail ≠ [] := by
  rintro rfl
  cases h with
  | exponent hes => cases hes

/-- Numbers are read, with a sign and without. -/
theorem IsNumber.number?_eq (h : IsNumber cs) :
    number? cs = some (.decimal (String.ofList cs)) ∧
      number? ('-' :: cs) = some (.decimal (String.ofList ('-' :: cs))) := by
  obtain ⟨hds, hzero, htail⟩ := h
  rename_i ds tail
  have hspan := spanDigits_append hds.isDigit htail.head?
  have hminus : (ds ++ tail).head? ≠ some '-' := by
    cases ds with
    | nil => exact absurd rfl hds.ne_nil
    | cons c cs => simpa using hds.ne_of_head (by decide)
  have hlead : (ds.head? == some '0' && ds.length > 1) = false := by
    by_cases h0 : ds.head? = some '0'
    · simp [hzero h0]
    · simp [h0]
  have hdigits : ds.isEmpty = false := by simp [hds.ne_nil]
  have hempty : tail.isEmpty = false := by simp [htail.ne_nil]
  have hnumber := htail.isNumberTail
  constructor
  · simp only [number?, beq_eq_false_iff_ne.2 hminus, Bool.false_eq_true, if_false, hspan,
      hdigits, hlead, hempty, Bool.false_and, Bool.or_self, hnumber, if_true]
  · simp only [number?, List.head?_cons, beq_self_eq_true, if_true, List.drop_one, List.tail_cons,
      hspan, hdigits, hlead, hempty, Bool.false_and, Bool.or_self, Bool.false_eq_true, if_false,
      hnumber]

/-! ### Numbers in documents -/

theorem IsDigits.isWordPart (h : IsDigits ds) : ∀ c ∈ ds, isWordPart c = true :=
  fun c hc => isWordPart_of_isDigit (h.isDigit c hc)

theorem IsExponent.isWordPart (h : IsExponent es) : ∀ c ∈ es, isWordPart c = true := by
  have he : Json.isWordPart 'e' = true := by decide
  have hplus : Json.isWordPart '+' = true := by decide
  have hminus : Json.isWordPart '-' = true := by decide
  cases h with
  | plain hds => exact List.forall_mem_cons.2 ⟨he, hds.isWordPart⟩
  | plus hds => exact List.forall_mem_cons.2 ⟨he, List.forall_mem_cons.2 ⟨hplus, hds.isWordPart⟩⟩
  | minus hds => exact List.forall_mem_cons.2 ⟨he, List.forall_mem_cons.2 ⟨hminus, hds.isWordPart⟩⟩

theorem IsNumber.isWordPart (h : IsNumber cs) : ∀ c ∈ cs, isWordPart c = true := by
  have hdot : Json.isWordPart '.' = true := by decide
  obtain ⟨hds, -, htail⟩ := h
  refine List.forall_mem_append.2 ⟨hds.isWordPart, ?_⟩
  cases htail with
  | fraction hds => exact List.forall_mem_cons.2 ⟨hdot, hds.isWordPart⟩
  | exponent hes => exact hes.isWordPart
  | both hds hes =>
      exact List.forall_mem_cons.2
        ⟨hdot, List.forall_mem_append.2 ⟨hds.isWordPart, hes.isWordPart⟩⟩

theorem IsNumber.head? (h : IsNumber cs) : ∃ c, cs.head? = some c ∧ c.isDigit = true := by
  obtain ⟨hds, -, -⟩ := h
  rename_i ds tail
  cases ds with
  | nil => exact absurd rfl hds.ne_nil
  | cons c ds => exact ⟨c, rfl, hds.isDigit c List.mem_cons_self⟩

/-- What begins with a digit or a sign is none of the three words. -/
theorem scalar?_eq_number? {s : String} {c : Char} (hs : s.toList.head? = some c)
    (hc : c.isDigit = true ∨ c = '-') : scalar? s = number? s.toList := by
  have hne : ∀ {w : String} {d : Char}, w.toList.head? = some d → d.isDigit = false ∧ d ≠ '-' →
      s ≠ w := by
    rintro w d hw hd rfl
    obtain rfl := Option.some.inj (hs.symm.trans hw)
    rcases hc with hc | hc
    · rw [hd.1] at hc
      cases hc
    · exact hd.2 hc
  have hnull : s ≠ "null" := hne (d := 'n') rfl (by decide)
  have htrue : s ≠ "true" := hne (d := 't') rfl (by decide)
  have hfalse : s ≠ "false" := hne (d := 'f') rfl (by decide)
  rw [scalar?, if_neg hnull, if_neg htrue, if_neg hfalse]

/-- A number, with a sign or without, can be read from a document. -/
theorem isReadable_decimal {s : String} (h : IsNumber s.toList) :
    IsReadable (.decimal s) ∧ IsReadable (.decimal ("-" ++ s)) := by
  obtain ⟨hplain, hsigned⟩ := h.number?_eq
  obtain ⟨c, hhead, hdigit⟩ := h.head?
  have htoList : ("-" ++ s).toList = '-' :: s.toList := by simp
  refine ⟨.decimal ?_ h.isWordPart, .decimal ?_ ?_⟩
  · rw [scalar?_eq_number? hhead (.inl hdigit), hplain, String.ofList_toList]
  · have hminus : ("-" ++ s).toList.head? = some '-' := by rw [htoList, List.head?_cons]
    rw [scalar?_eq_number? hminus (.inr rfl), htoList, hsigned, ← htoList, String.ofList_toList]
  · rw [htoList]
    exact List.forall_mem_cons.2 ⟨by decide, h.isWordPart⟩

end Json

namespace Decimal

open Json

/-! ### Texts of decimals -/

theorem toList_toString_nat (n : ℕ) : (toString n).toList = Nat.toDigits 10 n := by
  rw [Nat.toString_eq_ofList_toDigits, String.toList_ofList]

/-- Zeros at the end are fewer than all digits. -/
theorem digits_trim_pos {d : Scientific} (h : 0 < d.digits) : 0 < d.trim.digits := by
  unfold Scientific.trim
  dsimp only
  rw [toList_toString_nat]
  have hsub := List.takeWhile_prefix (l := (Nat.toDigits 10 d.digits).reverse) (· == '0')
  have hlt : ((Nat.toDigits 10 d.digits).reverse.takeWhile (· == '0')).length <
      (Nat.toDigits 10 d.digits).length := by
    by_contra hn
    have hall := List.takeWhile_eq_self_iff.1 (hsub.eq_of_length_le (by simpa using hn))
    cases hcs : Nat.toDigits 10 d.digits with
    | nil => exact Nat.toDigits_ne_nil hcs
    | cons c cs =>
        have hc := hall c (by simp [hcs])
        refine head?_toDigits h ?_
        rw [hcs, List.head?_cons, beq_iff_eq.1 hc]
  generalize ((Nat.toDigits 10 d.digits).reverse.takeWhile (· == '0')).length = zeros at *
  have hle : 10 ^ zeros ≤ d.digits := by
    rcases Nat.eq_zero_or_pos zeros with h0 | hpos
    · rw [h0, pow_zero]
      exact h
    · by_contra hn
      have := (Nat.length_toDigits_le_iff (by decide) hpos).2 (Nat.not_le.1 hn)
      omega
  exact Nat.div_pos hle (Nat.pow_pos (Nat.succ_pos 9))

/-- An exponent is written with its sign. -/
theorem isExponent_mark (point : ℤ) :
    IsExponent ((if 0 < point then "e+" else "e") ++ toString (point - 1)).toList := by
  rw [String.toList_append, toList_toString_int, integerText]
  split_ifs with hpos hneg hneg
  · omega
  · exact .plus (isDigits_toDigits _)
  · exact .minus (isDigits_toDigits _)
  · exact .plain (isDigits_toDigits _)

/-- The text of a decimal that is not zero is a number. -/
theorem isNumber_text {d : Scientific} (h : 0 < d.digits) :
    IsNumber (d.text Layout.standard).toList := by
  have hds := isDigits_toDigits d.digits
  have hhead := head?_toDigits h
  unfold Scientific.text
  dsimp only
  rw [toList_toString_nat]
  generalize Nat.toDigits 10 d.digits = cs at *
  have hzeros : ∀ n, ∀ c ∈ List.replicate n '0', c.isDigit = true := fun n c hc => by
    rw [List.eq_of_mem_replicate hc]
    decide
  have hmark := isExponent_mark (cs.length + d.exponent)
  generalize (if 0 < (cs.length : ℤ) + d.exponent then "e+" else "e") ++ _ = mark at hmark ⊢
  split_ifs with hplace hwhole hpoint
  · -- zeros stand behind the digits
    have hnumber := IsNumber.mk (hds.append (hzeros d.exponent.toNat)) (fun h0 => ?_)
      (.fraction (isDigits_toDigits 0))
    · simpa using hnumber
    · rw [List.head?_append_of_ne_nil _ hds.ne_nil] at h0
      exact absurd h0 hhead
  · -- the point stands between the digits
    have hlt : ((cs.length : ℤ) + d.exponent).toNat < cs.length := by omega
    obtain ⟨n, hn⟩ : ∃ n, ((cs.length : ℤ) + d.exponent).toNat = n + 1 :=
      ⟨((cs.length : ℤ) + d.exponent).toNat - 1, by omega⟩
    rw [hn] at hlt ⊢
    have htake : IsDigits (cs.take (n + 1)) :=
      ⟨by simp [hds.ne_nil], fun c hc => hds.isDigit c (List.mem_of_mem_take hc)⟩
    have hdrop : IsDigits (cs.drop (n + 1)) :=
      ⟨by simp [hlt], fun c hc => hds.isDigit c (List.mem_of_mem_drop hc)⟩
    have hnumber := IsNumber.mk htake (fun h0 => ?_) (.fraction hdrop)
    · simpa using hnumber
    · rw [List.head?_take, if_neg (Nat.succ_ne_zero n)] at h0
      exact absurd h0 hhead
  · -- zeros stand before the digits
    have hfraction : IsDigits (List.replicate (-((cs.length : ℤ) + d.exponent)).toNat '0' ++ cs) :=
      ⟨by simp [hds.ne_nil], List.forall_mem_append.2 ⟨hzeros _, hds.isDigit⟩⟩
    have hnumber := IsNumber.mk (isDigits_toDigits 0) (fun _ => rfl) (.fraction hfraction)
    simpa using hnumber
  · match cs with
    | [] => exact absurd rfl hds.ne_nil
    | [c] =>
        have hnumber := IsNumber.mk hds (fun _ => rfl) (.exponent hmark)
        simpa using hnumber
    | c :: c' :: rest =>
        have hfirst : IsDigits [c] :=
          ⟨List.cons_ne_nil _ _, List.forall_mem_singleton.2 (hds.isDigit c List.mem_cons_self)⟩
        have hrest : IsDigits (c' :: rest) :=
          ⟨List.cons_ne_nil _ _, fun d hd => hds.isDigit d (List.mem_cons_of_mem _ hd)⟩
        have hnumber := IsNumber.mk hfirst (fun _ => rfl) (.both hrest hmark)
        simpa using hnumber

/-- The text of a double, zero or not, is a number with a sign or without. -/
theorem exists_isNumber_of_text? {x : Float} {s : String} (h : text? x = some s) :
    ∃ digits : String, IsNumber digits.toList ∧ (s = digits ∨ s = "-" ++ digits) := by
  unfold text? at h
  split at h
  · next negative m e narrow hx =>
      have hdigits : IsNumber (if m = 0 then "0.0"
          else (shortest m e narrow).trim.text Layout.standard).toList := by
        split_ifs with hm
        · exact IsNumber.mk (isDigits_toDigits 0) (fun _ => rfl) (.fraction (isDigits_toDigits 0))
        · have hdouble := isDouble_of_ofBits hx (Nat.pos_of_ne_zero hm)
          exact isNumber_text (digits_trim_pos (shortest_reads_back hdouble).1)
      refine ⟨_, hdigits, ?_⟩
      rw [← Option.some.inj h]
      cases negative
      · exact .inl rfl
      · exact .inr rfl
  · cases h

end Decimal

/-- A double is put into documents so that it can be read again. -/
theorem Json.isReadable_ofFloat (x : Float) : Json.IsReadable (.ofFloat x) := by
  unfold Document.ofFloat
  split
  · next s hs =>
      obtain ⟨digits, hdigits, rfl | rfl⟩ := Decimal.exists_isNumber_of_text? hs
      · exact (isReadable_decimal hdigits).1
      · exact (isReadable_decimal hdigits).2
  · exact .null

end CacheKeys
