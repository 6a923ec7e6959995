import Mathlib
import CacheKeys.Proofs.Text.Blanks
import CacheKeys.Request.Cookie

/-! # Cookie headers, written and read

A pair is written as its name, an equals sign and its value, with white space around both; a value
can stand in quotes, and has to if it begins or ends with white space.  Segments without an equals
sign, or with a blank name, write nothing.  `Writes` says which pairs a list of segments writes, and
these are the pairs that are read from the segments with semicolons between them
(`pairs_intercalate`).  Whatever is read from a header can be written (`exists_writes_pairs`), so
that it is read again. -/

namespace CacheKeys

namespace Text

/-! ### White space at the ends of texts -/

/-- All characters are white space, or there are none. -/
def IsSpaceRun (s : String) : Prop := ∀ c ∈ s.toList, isSpace c = true

instance (s : String) : Decidable (IsSpaceRun s) :=
  decidable_of_iff (s.toList.all isSpace = true) List.all_eq_true

theorem isSpaceRun_empty : IsSpaceRun "" := by
  simp [IsSpaceRun]

theorem IsSpaceRun.notMem {c : Char} {s : String} (h : IsSpaceRun s) (hc : isSpace c = false) :
    c ∉ s.toList := by
  intro hmem
  rw [h c hmem] at hc
  cases hc

theorem trimSpaces_append {lead core trail : String} (hlead : IsSpaceRun lead)
    (htrail : IsSpaceRun trail) (hcore : IsTrimmed isSpace core) :
    trimSpaces (lead ++ core ++ trail) = core :=
  ofList_trimChars_append hlead htrail hcore

theorem trimSpaces_of_isSpaceRun {s : String} (h : IsSpaceRun s) : trimSpaces s = "" := by
  have htrim := trimSpaces_append h isSpaceRun_empty isTrimmed_empty
  rwa [String.append_empty, String.append_empty] at htrim

end Text

namespace Cookie

open Text

/-! ### Written pairs -/

/-- A name that can be written: not empty, without separators, and without white space at the
ends. -/
structure IsName (name : String) : Prop where
  ne_empty : name ≠ ""
  semicolon_notMem : ';' ∉ name.toList
  equals_notMem : '=' ∉ name.toList
  isTrimmed : IsTrimmed isSpace name

/-- A value that can be written: without semicolons, and without quotes at the ends. -/
structure IsValue (value : String) : Prop where
  semicolon_notMem : ';' ∉ value.toList
  isTrimmed : IsTrimmed (fun c => c == '"') value

/-- How a value can stand behind the equals sign: as it is, if there is no white space at its ends,
or in quotes. -/
inductive ShowsValue (value : String) : String → Prop
  | bare : IsTrimmed isSpace value → ShowsValue value value
  | quoted : ShowsValue value ("\"" ++ value ++ "\"")

/-- The pairs that segments write, in order. -/
inductive Writes : List (String × String) → List String → Prop
  | nil : Writes [] []
  -- a name and a value, with white space around both
  | pair {name value shown beforeName afterName beforeValue afterValue : String}
      {ps : List (String × String)} {ss : List String} :
      IsName name → IsValue value → ShowsValue value shown →
      IsSpaceRun beforeName → IsSpaceRun afterName →
      IsSpaceRun beforeValue → IsSpaceRun afterValue → Writes ps ss →
      Writes ((name, value) :: ps)
        ((beforeName ++ name ++ afterName ++ "=" ++ (beforeValue ++ shown ++ afterValue)) :: ss)
  -- a segment without an equals sign
  | noEquals {s : String} {ps : List (String × String)} {ss : List String} :
      ';' ∉ s.toList → '=' ∉ s.toList → Writes ps ss → Writes ps (s :: ss)
  -- a segment with nothing but white space before its first equals sign
  | noName {before after : String} {ps : List (String × String)} {ss : List String} :
      IsSpaceRun before → ';' ∉ after.toList → Writes ps ss →
      Writes ps ((before ++ "=" ++ after) :: ss)

/-! ### Reading segments -/

theorem pair?_append {before : String} (h : '=' ∉ before.toList) (after : String) :
    pair? (before ++ "=" ++ after) =
      if (trimSpaces before).isEmpty then none
      else some (trimSpaces before, trimQuotes (trimSpaces after)) := by
  have hsplit : splitFirst? '=' (before ++ "=" ++ after) = some (before, after) :=
    splitFirst?_append h after
  rw [pair?, hsplit]

theorem pair?_of_notMem {s : String} (h : '=' ∉ s.toList) : pair? s = none := by
  rw [pair?, splitFirst?_of_notMem h]

theorem ShowsValue.isTrimmed {value shown : String} (h : ShowsValue value shown) :
    IsTrimmed isSpace shown := by
  cases h with
  | bare h => exact h
  | quoted =>
      have hquote : isSpace '"' = false := rfl
      simp [IsTrimmed, hquote, List.getLast?_cons]

theorem ShowsValue.trimQuotes {value shown : String} (h : ShowsValue value shown)
    (hv : IsValue value) : trimQuotes shown = value := by
  cases h with
  | bare =>
      have hnone : ∀ c ∈ "".toList, (c == '"') = true := by simp
      have htrim := ofList_trimChars_append hnone hnone hv.isTrimmed
      rwa [String.empty_append, String.append_empty] at htrim
  | quoted =>
      have hquote : ∀ c ∈ "\"".toList, (c == '"') = true := by simp
      exact ofList_trimChars_append hquote hquote hv.isTrimmed

theorem ShowsValue.semicolon_notMem {value shown : String} (h : ShowsValue value shown)
    (hv : IsValue value) : ';' ∉ shown.toList := by
  have hvalue := hv.semicolon_notMem
  cases h with
  | bare => exact hvalue
  | quoted => simp [hvalue]

/-- Segments hold no semicolon, and the pairs that they write are read from them. -/
theorem Writes.reads {ps : List (String × String)} {ss : List String} (h : Writes ps ss) :
    (∀ s ∈ ss, ';' ∉ s.toList) ∧ ss.filterMap pair? = ps := by
  have hspace : isSpace ';' = false := rfl
  have hequals : isSpace '=' = false := rfl
  induction h with
  | nil => exact ⟨by simp, rfl⟩
  | pair hname hvalue hshown hbn han hbv hav _ ih =>
      obtain ⟨hfree, hrest⟩ := ih
      refine ⟨List.forall_mem_cons.2 ⟨?_, hfree⟩, ?_⟩
      · simp [hbn.notMem hspace, han.notMem hspace, hbv.notMem hspace, hav.notMem hspace,
          hname.semicolon_notMem, hshown.semicolon_notMem hvalue]
      · have hbefore := trimSpaces_append hbn han hname.isTrimmed
        have hafter := trimSpaces_append hbv hav hshown.isTrimmed
        rw [List.filterMap_cons, pair?_append, hbefore, hafter, hshown.trimQuotes hvalue, hrest]
        · simp [hname.ne_empty]
        · simp [hbn.notMem hequals, han.notMem hequals, hname.equals_notMem]
  | noEquals hsemicolon hequals _ ih =>
      obtain ⟨hfree, hrest⟩ := ih
      refine ⟨List.forall_mem_cons.2 ⟨hsemicolon, hfree⟩, ?_⟩
      rw [List.filterMap_cons, pair?_of_notMem hequals, hrest]
  | noName hbefore hafter _ ih =>
      obtain ⟨hfree, hrest⟩ := ih
      refine ⟨List.forall_mem_cons.2 ⟨?_, hfree⟩, ?_⟩
      · simp [hbefore.notMem hspace, hafter]
      · rw [List.filterMap_cons, pair?_append (hbefore.notMem hequals),
          trimSpaces_of_isSpaceRun hbefore, hrest]
        rfl

theorem pairs_intercalate {ps : List (String × String)} {ss : List String} (h : Writes ps ss) :
    pairs (String.intercalate ";" ss) = ps := by
  obtain ⟨hfree, hread⟩ := h.reads
  rw [← hread]
  cases ss with
  | nil => rfl
  | cons s ss =>
      have hpieces : pieces ';' (String.intercalate ";" (s :: ss)) = s :: ss :=
        pieces_intercalate hfree (List.cons_ne_nil s ss)
      rw [pairs, hpieces]

/-! ### Pairs that have been read -/

theorem isName_isValue_of_pair? {s : String} {p : String × String} (h : pair? s = some p)
    (hs : ';' ∉ s.toList) : IsName p.1 ∧ IsValue p.2 := by
  cases hsplit : splitFirst? '=' s with
  | none =>
      rw [pair?, hsplit] at h
      cases h
  | some parts =>
      obtain ⟨before, after⟩ := parts
      obtain ⟨rfl, hbefore⟩ := splitFirst?_eq_some_iff.1 hsplit
      have hread := (pair?_append hbefore after).symm.trans h
      simp only [String.toList_append, List.mem_append, not_or] at hs
      split at hread
      · cases hread
      · next hne =>
        cases hread
        have hname : ∀ c, c ∈ (trimSpaces before).toList → c ∈ before.toList := by
          intro c hc
          rw [trimSpaces, String.toList_ofList] at hc
          exact mem_of_mem_trimChars hc
        have hvalue : ∀ c, c ∈ (trimQuotes (trimSpaces after)).toList → c ∈ after.toList := by
          intro c hc
          rw [trimQuotes, trimSpaces, String.toList_ofList, String.toList_ofList] at hc
          exact mem_of_mem_trimChars (mem_of_mem_trimChars hc)
        exact ⟨⟨by simpa using hne, fun hc => hs.1.1 (hname _ hc), fun hc => hbefore (hname _ hc),
          isTrimmed_trimChars _⟩, fun hc => hs.2 (hvalue _ hc), isTrimmed_trimChars _⟩

theorem exists_writes {ps : List (String × String)} (h : ∀ p ∈ ps, IsName p.1 ∧ IsValue p.2) :
    ∃ ss, Writes ps ss := by
  induction ps with
  | nil => exact ⟨[], .nil⟩
  | cons p ps ih =>
      obtain ⟨⟨hname, hvalue⟩, hrest⟩ := List.forall_mem_cons.1 h
      obtain ⟨ss, hss⟩ := ih hrest
      exact ⟨_, .pair hname hvalue .quoted isSpaceRun_empty isSpaceRun_empty isSpaceRun_empty
        isSpaceRun_empty hss⟩

theorem exists_writes_pairs (header : String) : ∃ ss, Writes (pairs header) ss := by
  refine exists_writes fun p hp => ?_
  obtain ⟨s, hs, hread⟩ := List.mem_filterMap.1 hp
  exact isName_isValue_of_pair? hread (notMem_of_mem_pieces hs)

/-- What segments write is read from them, with semicolons between them; and what is read from any
header can be written. -/
theorem pairs_inverts_writes :
    (∀ (ps : List (String × String)) (ss : List String),
      Writes ps ss → pairs (String.intercalate ";" ss) = ps) ∧
    ∀ header : String, ∃ ss, Writes (pairs header) ss :=
  ⟨fun _ _ => pairs_intercalate, exists_writes_pairs⟩

/-- Malformed segments between pairs of one name, one of which holds quotes and an equals sign in
its value. -/
theorem pairs_inverts_writes_around_malformed :
    Writes [("ab", "a \"b\" = c"), ("é", ""), ("ab", " x ")]
      ["\t ab =\u3000\"a \"b\" = c\" ", " broken", " \u00a0=2=3", "é=", "ab=\" x \""] ∧
    pairs "\t ab =\u3000\"a \"b\" = c\" ; broken; \u00a0=2=3;é=;ab=\" x \"" =
      [("ab", "a \"b\" = c"), ("é", ""), ("ab", " x ")] := by
  have hab : IsName "ab" := ⟨by decide, by decide, by decide, by decide⟩
  have he : IsName "é" := ⟨by decide, by decide, by decide, by decide⟩
  have hwrites : Writes [("ab", "a \"b\" = c"), ("é", ""), ("ab", " x ")]
      ["\t " ++ "ab" ++ " " ++ "=" ++ ("\u3000" ++ ("\"" ++ "a \"b\" = c" ++ "\"") ++ " "),
        " broken", " \u00a0" ++ "=" ++ "2=3", "" ++ "é" ++ "" ++ "=" ++ ("" ++ "" ++ ""),
        "" ++ "ab" ++ "" ++ "=" ++ ("" ++ ("\"" ++ " x " ++ "\"") ++ "")] :=
    .pair hab ⟨by decide, by decide⟩ .quoted (by decide) (by decide) (by decide) (by decide) <|
    .noEquals (by decide) (by decide) <|
    .noName (by decide) (by decide) <|
    .pair he ⟨by decide, by decide⟩ (.bare (by decide)) (by decide) (by decide) (by decide)
      (by decide) <|
    .pair hab ⟨by decide, by decide⟩ .quoted (by decide) (by decide) (by decide) (by decide) .nil
  exact ⟨hwrites, pairs_inverts_writes.1 _ _ hwrites⟩

end Cookie

end CacheKeys
