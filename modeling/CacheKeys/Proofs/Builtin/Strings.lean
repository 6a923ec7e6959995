import Mathlib
import CacheKeys.Proofs.Builtin.Functions
import CacheKeys.Proofs.Text.Numerals

/-! # Parts and tokens of texts

`substr` moves both ends of a range into the text, after a sum that cannot leave the 64-bit
integers.  What it gives are the characters at the positions of the range as it is meant, in
unbounded integers (`substr_eq_charactersAt`).  `select` finds the words of every text that is put
together from words and blanks, and so is every text (`select_finds_words`). -/

namespace CacheKeys.Builtin

/-! ### Positions of a text -/

/-- The characters at the positions with a property, in order. -/
def charactersAt (s : String) (p : ℕ → Prop) [DecidablePred p] : String :=
  String.ofList ((s.toList.zipIdx.filter fun c => p c.2).map Prod.fst)

theorem charactersAt_congr {s : String} {p q : ℕ → Prop} [DecidablePred p] [DecidablePred q]
    (h : ∀ i < s.length, p i ↔ q i) : charactersAt s p = charactersAt s q := by
  unfold charactersAt
  congr 2
  apply List.filter_congr
  rintro ⟨c, i⟩ hc
  have hi : i < s.toList.length := by simpa using (List.mem_zipIdx hc).2.1
  rw [String.length_toList] at hi
  simp only [h i hi]

/-- The characters of a window are a part of the list, wherever the positions are counted from. -/
theorem map_fst_filter_zipIdx (cs : List Char) (k first last : ℕ) :
    ((cs.zipIdx k).filter fun c => first ≤ c.2 ∧ c.2 < last).map Prod.fst =
      (cs.drop (first - k)).take (last - max first k) := by
  induction cs generalizing k with
  | nil => simp
  | cons c cs ih =>
      have hrest := ih (k + 1)
      rw [List.zipIdx_cons, List.filter_cons]
      -- the position of `c` is before the window, in it or behind it
      by_cases hbefore : k < first
      · have hout : ¬(first ≤ k ∧ k < last) := by omega
        have hdrop : first - k = first - (k + 1) + 1 := by omega
        have hmax : max first k = max first (k + 1) := by omega
        rw [if_neg (by simpa using hout), hdrop, List.drop_succ_cons, hmax, hrest]
      · have hdrop : first - k = 0 := by omega
        have hdrop' : first - (k + 1) = 0 := by omega
        rw [hdrop', List.drop_zero] at hrest
        rw [hdrop, List.drop_zero]
        by_cases hin : k < last
        · have hwindow : first ≤ k ∧ k < last := by omega
          have htake : last - max first k = last - max first (k + 1) + 1 := by omega
          rw [if_pos (by simpa using hwindow), List.map_cons, hrest, htake, List.take_succ_cons]
        · have hout : ¬(first ≤ k ∧ k < last) := by omega
          have htake : last - max first k = 0 := by omega
          have htake' : last - max first (k + 1) = 0 := by omega
          rw [if_neg (by simpa using hout), hrest, htake, htake', List.take_zero, List.take_zero]

theorem charactersAt_window (s : String) (first last : ℕ) :
    (charactersAt s fun i => first ≤ i ∧ i < last) =
      String.ofList ((s.toList.drop first).take (last - first)) := by
  have h := map_fst_filter_zipIdx s.toList 0 first last
  rw [Nat.sub_zero, Nat.max_zero] at h
  rw [charactersAt, ← h]

/-! ### Parts of a text -/

theorem clamp_zero_nonneg (size : ℕ) (n : ℤ) : 0 ≤ clamp 0 size n := le_max_left 0 _

/-- A part ends where it begins if the end is before the beginning. -/
theorem slice_eq (cs : List Char) (start : ℤ) (length : Option ℤ) :
    slice cs start length =
      (cs.drop (clamp 0 cs.length start).toNat).take
        ((sliceEnd cs.length start length).toNat - (clamp 0 cs.length start).toNat) := by
  have hfirst := clamp_zero_nonneg cs.length start
  simp only [slice]
  split
  · next hle =>
    have hsize : (sliceEnd cs.length start length).toNat -
        (clamp 0 cs.length start).toNat = 0 := by omega
    rw [hsize, List.take_zero]
  · congr 1
    omega

theorem ofList_slice (s : String) (start : ℤ) (length : Option ℤ) :
    String.ofList (slice s.toList start length) = charactersAt s fun i =>
      (clamp 0 s.length start).toNat ≤ i ∧ i < (sliceEnd s.length start length).toNat := by
  rw [charactersAt_window, slice_eq, String.length_toList]

/-- Without a length, a part goes on to the end of the text. -/
theorem ofList_slice_none (s : String) (start : ℤ) :
    String.ofList (slice s.toList start none) = charactersAt s fun i => max 0 start ≤ i := by
  rw [ofList_slice]
  apply charactersAt_congr
  intro i hi
  simp only [sliceEnd, clamp]
  omega

/-- A sum beyond the 64-bit integers is beyond every text, too, so it makes no difference where it
is kept. -/
theorem ofList_slice_some (s : String) (hs : s.length < 2 ^ 63) (start n : ℤ) :
    String.ofList (slice s.toList start (some n)) = charactersAt s fun i =>
      max 0 start ≤ i ∧ i < min (s.length : ℤ) (start + n) := by
  rw [ofList_slice]
  apply charactersAt_congr
  intro i hi
  simp only [sliceEnd, clamp, Text.integerBound]
  omega

/-- The first characters and those from the same place on are the whole text. -/
theorem slice_append_slice (cs : List Char) (hs : cs.length < 2 ^ 63) (k : ℤ) :
    slice cs 0 (some k) ++ slice cs k none = cs := by
  have hlast : (sliceEnd cs.length 0 (some k)).toNat - (clamp 0 cs.length 0).toNat =
      (clamp 0 cs.length k).toNat := by
    simp only [sliceEnd, clamp, Text.integerBound]
    omega
  have hzero : (clamp 0 cs.length 0).toNat = 0 := by
    simp only [clamp]
    omega
  have hrest : cs.length ≤ (clamp 0 cs.length k).toNat +
      ((sliceEnd cs.length k none).toNat - (clamp 0 cs.length k).toNat) := by
    simp only [sliceEnd]
    omega
  rw [slice_eq, slice_eq, hlast, hzero, List.drop_zero, List.take_of_length_le (l := cs.drop _),
    List.take_append_drop]
  rw [List.length_drop]
  omega

theorem substr_meaning_of_start {s a : String} {start : ℤ} (ha : Arguments.readInt a = .ok start) :
    substr.meaning ⟨[s, a]⟩ = .ok (String.ofList (slice s.toList start none)) := by
  simp [substr, Arguments.int, Arguments.int?, Arguments.text, Arguments.get?, ha, bind,
    Except.bind, pure, Except.pure]

theorem substr_meaning_of_start_length {s a b : String} {start length : ℤ}
    (ha : Arguments.readInt a = .ok start) (hb : Arguments.readInt b = .ok length) :
    substr.meaning ⟨[s, a, b]⟩ = .ok (String.ofList (slice s.toList start (some length))) := by
  simp [substr, Arguments.int, Arguments.int?, Arguments.text, Arguments.get?, ha, hb, bind,
    Except.bind, pure, Except.pure, Except.map]

/-- A part of a text holds the characters at the positions that are meant, where the end is computed
in unbounded integers; the markers of sentinels play no part once the numbers can be read.  All
64-bit integers are read from their decimal texts, so a text can be divided at any of them. -/
theorem substr_eq_charactersAt (marker : Sentinel → String) (s : String)
    (hs : s.length < 2 ^ 63) :
    (∀ a start, Arguments.readInt a = .ok start →
      substr.invokeWith marker ⟨[s, a]⟩ = charactersAt s (fun i => max 0 start ≤ i) ∧
      ∀ b length, Arguments.readInt b = .ok length →
        substr.invokeWith marker ⟨[s, a, b]⟩ = charactersAt s fun i =>
          max 0 start ≤ i ∧ i < min (s.length : ℤ) (start + length)) ∧
    (∀ n, Text.FitsInteger n → Arguments.readInt (toString n) = .ok n) ∧
    ∀ k, Text.FitsInteger k →
      substr.invokeWith marker ⟨[s, "0", toString k]⟩ ++
        substr.invokeWith marker ⟨[s, toString k]⟩ = s := by
  have hcut : ∀ a start, Arguments.readInt a = .ok start →
      substr.invokeWith marker ⟨[s, a]⟩ = String.ofList (slice s.toList start none) := by
    intro a start ha
    exact TextFunction.invokeWith_of_ok rfl (substr_meaning_of_start ha)
  have hcut₂ : ∀ a start b length, Arguments.readInt a = .ok start →
      Arguments.readInt b = .ok length →
      substr.invokeWith marker ⟨[s, a, b]⟩ =
        String.ofList (slice s.toList start (some length)) := by
    intro a start b length ha hb
    exact TextFunction.invokeWith_of_ok rfl (substr_meaning_of_start_length ha hb)
  refine ⟨?_, fun n hn => Text.Numeral.readInt_toString hn, ?_⟩
  · intro a start ha
    refine ⟨(hcut a start ha).trans (ofList_slice_none s start), ?_⟩
    intro b length hb
    exact (hcut₂ a start b length ha hb).trans (ofList_slice_some s hs start length)
  · intro k hk
    have hread := Text.Numeral.readInt_toString hk
    have hzero : Arguments.readInt "0" = .ok 0 := by decide +kernel
    rw [hcut₂ "0" 0 (toString k) k hzero hread, hcut (toString k) k hread, ← String.ofList_append,
      slice_append_slice s.toList (by rwa [String.length_toList]), String.ofList_toList]

/-- The sum of start and length is beyond the 64-bit integers. -/
theorem substr_eq_charactersAt_beyond_sum :
    "héllo".length < 2 ^ 63 ∧ Arguments.readInt " 1" = .ok 1 ∧
    Arguments.readInt "9223372036854775807" = .ok (2 ^ 63 - 1) ∧
    substr.invoke ⟨["héllo", " 1", "9223372036854775807"]⟩ = "éllo" ∧
    Text.FitsInteger (-3) ∧
    substr.invoke ⟨["héllo", "0", "-3"]⟩ ++ substr.invoke ⟨["héllo", "-3"]⟩ = "héllo" := by
  have hs : "héllo".length < 2 ^ 63 := by decide +kernel
  have hstart : Arguments.readInt " 1" = .ok 1 := by decide +kernel
  have hlength : Arguments.readInt "9223372036854775807" = .ok (2 ^ 63 - 1) := by decide +kernel
  have hk : Text.FitsInteger (-3) := by decide
  have htext : toString (-3 : ℤ) = "-3" := by decide +kernel
  obtain ⟨hpart, -, hdivide⟩ := substr_eq_charactersAt Sentinel.marker "héllo" hs
  have hwhole := hdivide (-3) hk
  rw [htext] at hwhole
  refine ⟨hs, hstart, hlength, ?_, hk, hwhole⟩
  exact ((hpart _ _ hstart).2 _ _ hlength).trans (by decide +kernel)

/-! ### Calls of `select` -/

theorem select_meaning_of_index {s a : String} {i : ℤ} (ha : Arguments.readInt a = .ok i) :
    select.meaning ⟨[s, a]⟩ = .ok (token s i) := by
  simp [select, Arguments.int, Arguments.text, Arguments.get?, ha, bind, Except.bind, pure,
    Except.pure]

theorem token_text_of_lt (w : Text.Spacing) {i : ℤ} (hi : 0 ≤ i) (hlt : i.toNat < w.words.length) :
    token w.text i = w.words[i.toNat] := by
  rw [token, if_neg (by omega), w.words_text, List.getElem?_eq_getElem hlt]
  rfl

theorem token_text_eq_empty (w : Text.Spacing) {i : ℤ} (hi : i < 0 ∨ w.words.length ≤ i) :
    token w.text i = "" := by
  by_cases hneg : i < 0
  · rw [token, if_pos hneg]
  · rw [token, if_neg hneg, w.words_text, List.getElem?_eq_none (by omega)]
    rfl

/-- Of a text of words and blanks, the word at an index is found, however the words are kept apart,
and there is nothing before the first and behind the last one; every text is made of words and
blanks, and only of one list of words. -/
theorem select_finds_words (marker : Sentinel → String) :
    (∀ (w : Text.Spacing) (a : String) (i : ℤ), Arguments.readInt a = .ok i →
      (∀ hlt : i.toNat < w.words.length, 0 ≤ i →
        select.invokeWith marker ⟨[w.text, a]⟩ = w.words[i.toNat]) ∧
      (i < 0 ∨ w.words.length ≤ i → select.invokeWith marker ⟨[w.text, a]⟩ = "")) ∧
    (∀ i, Text.FitsInteger i → Arguments.readInt (toString i) = .ok i) ∧
    ∀ s, ∃! ws, ∃ w : Text.Spacing, w.text = s ∧ w.words = ws := by
  refine ⟨?_, fun i hi => Text.Numeral.readInt_toString hi, Text.existsUnique_words⟩
  intro w a i ha
  have htoken : select.invokeWith marker ⟨[w.text, a]⟩ = token w.text i :=
    TextFunction.invokeWith_of_ok rfl (select_meaning_of_index ha)
  rw [htoken]
  exact ⟨fun hlt hi => token_text_of_lt w hi hlt, fun hi => token_text_eq_empty w hi⟩

/-- A space that is no blank belongs to a word, here the first of two. -/
theorem select_finds_words_around_wide_space :
    ∃ w : Text.Spacing, w.text = "\n a\u00a0b\t\x0cc" ∧ w.words = ["a\u00a0b", "c"] ∧
      Arguments.readInt "0" = .ok 0 ∧ select.invoke ⟨[w.text, "0"]⟩ = "a\u00a0b" ∧
      Arguments.readInt "-1" = .ok (-1) ∧ select.invoke ⟨[w.text, "-1"]⟩ = "" := by
  have hlead : Text.IsBlankRun "\n " := by decide +kernel
  have hgap : Text.IsBlankRun "\t\x0c" := by decide +kernel
  have hfirst : Text.IsWord "a\u00a0b" := by simp [Text.IsWord, Text.isBlank]
  have hlast : Text.IsWord "c" := by simp [Text.IsWord, Text.isBlank]
  have hzero : Arguments.readInt "0" = .ok 0 := by decide +kernel
  have hneg : Arguments.readInt "-1" = .ok (-1) := by decide +kernel
  let w : Text.Spacing :=
    ⟨"\n ", [("a\u00a0b", "\t\x0c"), ("c", "")], hlead, by simp [hfirst, hlast],
      by simp [hgap, Text.isBlankRun_empty], by simp⟩
  have hselect := (select_finds_words Sentinel.marker).1 w
  have htext : "\n " ++ Text.Spacing.textOf [("a\u00a0b", "\t\x0c"), ("c", "")] =
      "\n a\u00a0b\t\x0cc" := by decide +kernel
  have hlt : (0 : ℤ).toNat < w.words.length := Nat.zero_lt_succ 1
  refine ⟨w, htext, rfl, hzero, ?_, hneg, ?_⟩
  · exact (hselect "0" 0 hzero).1 hlt le_rfl
  · exact (hselect "-1" (-1) hneg).2 (.inl (by decide))

end CacheKeys.Builtin
