import Mathlib
import CacheKeys.Proofs.Template.Descent.Items

/-! # Quotes keep their texts apart from what follows

A text is written in quotes with a backslash before each quote and backslash, and it is read up to
the first mark that has none.  `Quoted.read?` succeeds exactly on the quotes of the grammar
(`Quoted.read?_eq_some_iff`), and a quote that is cut short is unfinished
(`exists_quoteReads_of_append`).  The descent passes a quote in the same way, from position to
position (`Descent.quote_eq_ok_iff`), and so does the reader, one character at a time, at every item
(`Reader.item?`).

`Encloses source text` says what a piece of a template does if it stands for a text: wherever it is,
it is read as that text up to its last character, no earlier and no further.  A text that is written
in quotes encloses itself, and so does every quote that is read (`quotes_enclose_their_text`). -/

namespace CacheKeys.Template

open Reader (QuoteReads)

variable {body cs rest : List Char} {text : String} {q : Quoted.Unfinished}

/-! ### Quotes up to their end -/

theorem DerivesQuoted.finish_append (h : DerivesQuoted body text) (rest : List Char) :
    Quoted.Unfinished.start.finish (body ++ rest) =
      Quoted.Unfinished.finish ⟨text, false⟩ rest := by
  induction h generalizing rest with
  | nil => rfl
  | plain _ hquote hslash ih =>
      rw [List.append_assoc, ih]
      simp [Quoted.Unfinished.finish, Quoted.Unfinished.step, hquote, hslash]
  | escape _ hc ih =>
      rw [List.append_assoc, ih]
      simp [Quoted.Unfinished.finish, Quoted.Unfinished.step, Quoted.needsEscape, hc]
  | backslash _ hquote hslash ih =>
      rw [List.append_assoc, ih]
      simp [Quoted.Unfinished.finish, Quoted.Unfinished.step, Quoted.needsEscape, hquote, hslash]

theorem Reader.QuoteReads.finish_append (h : QuoteReads body q) (rest : List Char) :
    Quoted.Unfinished.start.finish (body ++ rest) = q.finish rest := by
  obtain ⟨text, escaped⟩ := q
  cases escaped with
  | false => exact DerivesQuoted.finish_append h rest
  | true =>
      obtain ⟨body', rfl, hbody⟩ := h
      rw [List.append_assoc, hbody.finish_append]
      rfl

/-- What is read of a quote before its end belongs to what the grammar derives. -/
theorem Reader.QuoteReads.of_finish_eq_some (h : QuoteReads body q)
    (hf : q.finish cs = some (text, rest)) :
    ∃ more, cs = more ++ '"' :: rest ∧ DerivesQuoted (body ++ more) text := by
  induction cs generalizing body q with
  | nil => cases hf
  | cons c cs ih =>
      rw [Quoted.Unfinished.finish] at hf
      cases hs : q.step c with
      | closed text' =>
          rw [hs] at hf
          obtain ⟨rfl, hbody⟩ := h.closed hs
          cases hf
          exact ⟨[], rfl, by rwa [List.append_nil]⟩
      | more q' =>
          rw [hs] at hf
          obtain ⟨more, rfl, hbody⟩ := ih (h.more hs) hf
          rw [List.append_assoc] at hbody
          exact ⟨c :: more, rfl, hbody⟩

theorem Reader.QuoteReads.of_finish_eq_none (h : QuoteReads body q) (hf : q.finish cs = none) :
    ∃ q', QuoteReads (body ++ cs) q' := by
  induction cs generalizing body q with
  | nil => exact ⟨q, by rwa [List.append_nil]⟩
  | cons c cs ih =>
      rw [Quoted.Unfinished.finish] at hf
      cases hs : q.step c with
      | closed text' =>
          rw [hs] at hf
          cases hf
      | more q' =>
          rw [hs] at hf
          obtain ⟨q'', hreads⟩ := ih (h.more hs) hf
          rw [List.append_assoc] at hreads
          exact ⟨q'', hreads⟩

theorem Quoted.finish_start_eq_some_iff :
    Quoted.Unfinished.start.finish cs = some (text, rest) ↔
      ∃ body, cs = body ++ '"' :: rest ∧ DerivesQuoted body text := by
  constructor
  · exact fun hf => QuoteReads.start.of_finish_eq_some hf
  · rintro ⟨body, rfl, hbody⟩
    rw [hbody.finish_append]
    rfl

/-- A text begins with a quote exactly if the grammar derives what stands between two marks. -/
theorem Quoted.read?_eq_some_iff :
    Quoted.read? cs = some (text, rest) ↔
      ∃ body, cs = '"' :: (body ++ '"' :: rest) ∧ DerivesQuoted body text := by
  cases cs with
  | nil => simp [Quoted.read?]
  | cons c cs =>
      by_cases hc : c = '"'
      · subst hc
        simp [Quoted.read?, Quoted.finish_start_eq_some_iff]
      · simp [Quoted.read?, hc]

/-- A quote that is cut short is unfinished, wherever it is cut. -/
theorem exists_quoteReads_of_append {front back : List Char} (h : DerivesQuoted body text)
    (hsplit : body ++ ['"'] = front ++ back) (hback : back ≠ []) :
    ∃ q, QuoteReads front q := by
  cases hf : Quoted.Unfinished.start.finish front with
  | none => exact QuoteReads.start.of_finish_eq_none hf
  | some found =>
      obtain ⟨text', rest'⟩ := found
      obtain ⟨body', rfl, hbody'⟩ := Quoted.finish_start_eq_some_iff.1 hf
      -- a quote that ends within the front would end the whole quote there
      have hshort : Quoted.Unfinished.start.finish (body ++ ['"']) =
          some (text', rest' ++ back) := by
        rw [hsplit, List.append_assoc, List.cons_append]
        exact Quoted.finish_start_eq_some_iff.2 ⟨body', rfl, hbody'⟩
      have hlong : Quoted.Unfinished.start.finish (body ++ ['"']) = some (text, []) :=
        Quoted.finish_start_eq_some_iff.2 ⟨body, rfl, h⟩
      rw [hlong] at hshort
      have hrest : rest' ++ back = [] := (congrArg Prod.snd (Option.some.inj hshort)).symm
      exact absurd (List.append_eq_nil_iff.1 hrest).2 hback

/-! ### Quotes of the descent -/

namespace Descent

variable {t : String} {opened last : ℕ} {c : Char} {inside : List Char}

/-- A quote at a position is read up to the position of what stands behind its second mark. -/
theorem quote_eq_ok_iff (hat : At t opened (c :: inside)) :
    quote t opened = .ok (last, text) ↔
      ∃ rest, Quoted.Unfinished.start.finish inside = some (text, rest) ∧ At t last rest := by
  have hyields := yields_quote hat
  generalize quote t opened = result at hyields
  cases hyields with
  | @passed piece rest' text' hpiece hfound =>
      obtain ⟨body, rfl, hbody⟩ := hfound
      have hbehind : At t (opened + byteLength (c :: (body ++ ['"']))) rest' :=
        (hpiece ▸ hat).append
      have hinside : inside = body ++ '"' :: rest' := by simpa using hpiece
      have hfinish : Quoted.Unfinished.start.finish inside = some (text', rest') :=
        Quoted.finish_start_eq_some_iff.2 ⟨body, hinside, hbody⟩
      rw [hfinish]
      constructor
      · intro h
        cases h
        exact ⟨rest', rfl, hbehind⟩
      · rintro ⟨rest, hsame, hlast⟩
        cases hsame
        have hsize := hbehind.size_eq.symm.trans hlast.size_eq
        rw [Nat.add_right_cancel hsize]
  | refused h =>
      obtain ⟨rfl, q, hq⟩ := h
      have hopen : Quoted.Unfinished.start.finish inside = none := by
        have hfinish := hq.finish_append []
        rwa [List.append_nil] at hfinish
      simp [hopen]

theorem at_source (before : String) (c : Char) (body : List Char) (after : String) :
    At (before ++ String.ofList (c :: (body ++ ['"'])) ++ after) before.utf8ByteSize
      (c :: (body ++ '"' :: after.toList)) := by
  have hat := at_utf8ByteSize before (String.ofList (c :: (body ++ ['"'])) ++ after)
  simpa [String.append_assoc] using hat

theorem exists_at_of_quote (h : quote t opened = .ok (last, text)) :
    ∃ c inside, At t opened (c :: inside) := by
  cases hd : Text.dropBytes? opened t.toList with
  | none =>
      rw [quote, bump, peek, hd] at h
      cases h
  | some rest =>
      have hat : At t opened rest := exists_append_of_dropBytes? hd
      cases rest with
      | cons c inside => exact ⟨c, inside, hat⟩
      | nil =>
          have hbump : bump t opened = .ok (none, opened) := by
            rw [bump, peek_of_at hat]
            rfl
          have hpass : quotePass t opened opened "" =
              .error (.refused (.unterminatedQuote opened)) := by
            rw [quotePass, hbump]
            rfl
          have hquote : quote t opened = loop t (quotePass t opened) opened "" := by
            rw [quote, hbump]
            rfl
          rw [hquote, loop, hpass] at h
          cases h

/-- A quote that is read is a piece of the text, with a mark at its end. -/
theorem exists_body_of_quote (h : quote t opened = .ok (last, text)) :
    ∃ (before : String) (c : Char) (body : List Char) (after : String),
      t = before ++ String.ofList (c :: (body ++ ['"'])) ++ after ∧
      opened = before.utf8ByteSize ∧
      last = (before ++ String.ofList (c :: (body ++ ['"']))).utf8ByteSize ∧
      DerivesQuoted body text := by
  obtain ⟨c, inside, hat⟩ := exists_at_of_quote h
  obtain ⟨rest, hfinish, hlast⟩ := (quote_eq_ok_iff hat).1 h
  obtain ⟨body, rfl, hbody⟩ := Quoted.finish_start_eq_some_iff.1 hfinish
  obtain ⟨before, ht, hopened⟩ := hat
  have hpieces :
      t = String.ofList before ++ String.ofList (c :: (body ++ ['"'])) ++ String.ofList rest := by
    simp [← String.toList_inj, ht]
  refine ⟨String.ofList before, c, body, String.ofList rest, hpieces, ?_, ?_, hbody⟩
  · rw [utf8ByteSize_ofList, hopened]
  · have hsize := hlast.size_eq
    rw [hpieces, String.utf8ByteSize_append, utf8ByteSize_ofList rest] at hsize
    exact (Nat.add_right_cancel hsize).symm

end Descent

/-! ### Quotes of the reader -/

/-- The item that a reader may be reading: its group, what has been read of it and the groups
around it.  Between two items it is one of which nothing has been read. -/
def Reader.item? (r : Reader) : Option (Group × Draft × List Level) :=
  match r.place with
  | .between g outer => some (g, Draft.start r.offset, outer)
  | .inside g d outer => some (g, d, outer)
  | .outside _ => none
  | .quoted _ _ _ _ _ => none

variable {depth : ℕ} {r : Reader} {g : Group} {d : Draft} {outer : List Level}

theorem Reader.run_mark (h : r.item? = some (g, d, outer)) (cs : List Char) :
    r.run depth ('"' :: cs) =
      Reader.run depth ⟨r.offset, r.nodes, .inside g d outer⟩ ('"' :: cs) := by
  obtain ⟨offset, nodes, place⟩ := r
  cases place with
  | outside run => cases h
  | quoted g' d' opened q outer' => cases h
  | inside g' d' outer' =>
      cases h
      rfl
  | between g' outer' =>
      cases h
      refine run_between_eq_run_inside (List.cons_ne_nil _ _) fun c hc => ?_
      obtain rfl : '"' = c := by simpa using hc
      exact ⟨by decide, by decide⟩

/-! ### Pieces of a template that stand for a text -/

/-- Wherever the piece stands in a template, it is read as the text, and as nothing else. -/
structure Encloses (source text : String) : Prop where
  -- it is read on its own, and what follows is left as it is
  read (rest : List Char) : Quoted.read? (source.toList ++ rest) = some (text, rest)
  -- the descent passes it, whatever stands before and behind it
  descent (before after : String) :
    Descent.quote (before ++ source ++ after) before.utf8ByteSize =
      .ok ((before ++ source).utf8ByteSize, text)
  -- at an item the reader adds the text to it, and goes on in the item with what follows
  reader {depth : ℕ} {r : Reader} {g : Group} {d : Draft} {outer : List Level} :
    r.item? = some (g, d, outer) → ∀ rest : List Char,
      r.run depth (source.toList ++ rest) =
        Reader.run depth ⟨r.offset + source.utf8ByteSize, r.nodes,
          .inside g (d.readText source.toList text) outer⟩ rest
  -- before its last character the reader is still in the quote
  notBefore {depth : ℕ} {r : Reader} {g : Group} {d : Draft} {outer : List Level} :
    r.item? = some (g, d, outer) → ∀ front back : List Char, source.toList = front ++ back →
      front ≠ [] → back ≠ [] →
        ∃ q, r.run depth front = .ok ⟨r.offset + byteLength front, r.nodes,
          .quoted g (front.foldl Draft.note d) r.offset q outer⟩

/-- Whatever the grammar derives between two marks encloses its text. -/
theorem DerivesQuoted.encloses (h : DerivesQuoted body text) :
    Encloses (String.ofList ('"' :: (body ++ ['"']))) text where
  read rest := Quoted.read?_eq_some_iff.2 ⟨body, by simp, h⟩
  descent before after := by
    have hfinish : Quoted.Unfinished.start.finish (body ++ '"' :: after.toList) =
        some (text, after.toList) :=
      Quoted.finish_start_eq_some_iff.2 ⟨body, rfl, h⟩
    exact (Descent.quote_eq_ok_iff (Descent.at_source before '"' body after)).2
      ⟨after.toList, hfinish, Descent.at_utf8ByteSize _ after⟩
  reader hitem rest := by
    rw [String.toList_ofList, utf8ByteSize_ofList, List.cons_append, Reader.run_mark hitem,
      ← List.cons_append, Reader.run_append_of_ok (Reader.run_text (.quoted h))]
  notBefore hitem front back hsplit hfront hback := by
    rw [String.toList_ofList] at hsplit
    cases front with
    | nil => exact absurd rfl hfront
    | cons c front =>
        obtain ⟨rfl, hinside⟩ := List.cons.inj hsplit
        obtain ⟨q, hq⟩ := exists_quoteReads_of_append h hinside hback
        refine ⟨q, ?_⟩
        rw [Reader.run_mark hitem, Reader.run_cons_of_advance (Reader.advance_inside_mark ..),
          Reader.run_quoteReads hq, byteLength_cons, Nat.add_assoc]
        rfl

theorem encloses_write (s : String) : Encloses (Quoted.write s) s := by
  have h := (derivesQuoted_escape s.toList).encloses
  rwa [String.ofList_toList] at h

/-- A text that is written in quotes encloses itself: it is read back from every place where a quote
may begin, before anything that may follow, and not a character earlier.  Conversely, whenever a
quote is read as the text, be it on its own, at a position of a template or by the reader of one,
what is read is a piece of the source that encloses the text, so that the text written in quotes
may stand in its place. -/
theorem quotes_enclose_their_text (s : String) :
    Encloses (Quoted.write s) s ∧
    (∀ cs rest : List Char, Quoted.read? cs = some (s, rest) →
      ∃ source : String, cs = source.toList ++ rest ∧ Encloses source s) ∧
    (∀ (t : String) (opened last : ℕ), Descent.quote t opened = .ok (last, s) →
      ∃ before source after : String, t = before ++ source ++ after ∧
        before.utf8ByteSize = opened ∧ (before ++ source).utf8ByteSize = last ∧
        Descent.quote (before ++ Quoted.write s ++ after) opened =
          .ok ((before ++ Quoted.write s).utf8ByteSize, s) ∧
        (Descent.peek t opened = .ok (some '"') → Encloses source s)) ∧
    ∀ (depth offset : ℕ) (nodes : List Expr) (g : Group) (d : Draft) (opened : ℕ)
      (q : Quoted.Unfinished) (outer : List Level) (cs : List Char) (c : Char),
      Reader.start.run depth cs = .ok ⟨offset, nodes, .quoted g d opened q outer⟩ →
      q.step c = .closed s →
        ∃ before source : String, cs ++ [c] = before.toList ++ source.toList ∧
          before.utf8ByteSize = opened ∧ Encloses source s := by
  refine ⟨encloses_write s, ?_, ?_, ?_⟩
  · intro cs rest h
    obtain ⟨body, rfl, hbody⟩ := Quoted.read?_eq_some_iff.1 h
    exact ⟨String.ofList ('"' :: (body ++ ['"'])), by simp, hbody.encloses⟩
  · intro t opened last h
    obtain ⟨before, c, body, rest, rfl, rfl, rfl, hbody⟩ := Descent.exists_body_of_quote h
    refine ⟨before, String.ofList (c :: (body ++ ['"'])), rest, rfl, rfl, rfl,
      (encloses_write s).descent before rest, fun hmark => ?_⟩
    rw [Descent.peek_of_at (Descent.at_source before c body rest)] at hmark
    cases hmark
    exact hbody.encloses
  · intro depth offset nodes g d opened q outer cs c hrun hclosed
    obtain ⟨-, before, body, d₀, rfl, rfl, -, -, hq⟩ := (Reader.Reads.start depth).run hrun
    obtain ⟨rfl, hbody⟩ := hq.closed hclosed
    exact ⟨String.ofList before, String.ofList ('"' :: (body ++ ['"'])), by simp,
      utf8ByteSize_ofList before, hbody.encloses⟩

/-- A backslash that stands for itself in the template is written twice.  Neither the brace nor the
blank in the quote ends anything, nor does the mark behind a backslash. -/
theorem quotes_enclose_their_text_behind_accents :
    Quoted.read? "\"\\n\\\"\x7d \\\\\"x\x7d".toList = some ("\\n\"\x7d \\", "x\x7d".toList) ∧
    Descent.quote "é\x7bf \"\\n\\\"\x7d \\\\\"x\x7d" 5 = .ok (15, "\\n\"\x7d \\") ∧
    Descent.peek "é\x7bf \"\\n\\\"\x7d \\\\\"x\x7d" 5 = .ok (some '"') ∧
    (∃ source : String, "\"\\n\\\"\x7d \\\\\"x\x7d".toList = source.toList ++ "x\x7d".toList ∧
      Encloses source "\\n\"\x7d \\") ∧
    (∃ before source after : String,
      "é\x7bf \"\\n\\\"\x7d \\\\\"x\x7d" = before ++ source ++ after ∧
      before.utf8ByteSize = 5 ∧ (before ++ source).utf8ByteSize = 15 ∧
      Descent.quote (before ++ "\"\\\\n\\\"\x7d \\\\\"" ++ after) 5 =
        .ok ((before ++ "\"\\\\n\\\"\x7d \\\\\"").utf8ByteSize, "\\n\"\x7d \\") ∧
      Encloses source "\\n\"\x7d \\") ∧
    ∃ (nodes : List Expr) (g : Group) (d : Draft) (q : Quoted.Unfinished),
      Reader.start.run 1 "é\x7bf \"\\n\\\"\x7d \\\\".toList =
        .ok ⟨14, nodes, .quoted g d 5 q []⟩ ∧
      q.step '"' = .closed "\\n\"\x7d \\" ∧
      ∃ before source : String,
        "é\x7bf \"\\n\\\"\x7d \\\\".toList ++ ['"'] = before.toList ++ source.toList ∧
        before.utf8ByteSize = 5 ∧ Encloses source "\\n\"\x7d \\" := by
  have hread : Quoted.read? "\"\\n\\\"\x7d \\\\\"x\x7d".toList =
      some ("\\n\"\x7d \\", "x\x7d".toList) := by decide
  have hat : Descent.At "é\x7bf \"\\n\\\"\x7d \\\\\"x\x7d" 5
      ('"' :: "\\n\\\"\x7d \\\\\"x\x7d".toList) :=
    ⟨"é\x7bf ".toList, by decide, by decide⟩
  have hlast : Descent.At "é\x7bf \"\\n\\\"\x7d \\\\\"x\x7d" 15 "x\x7d".toList :=
    ⟨"é\x7bf \"\\n\\\"\x7d \\\\\"".toList, by decide, by decide⟩
  have hquote : Descent.quote "é\x7bf \"\\n\\\"\x7d \\\\\"x\x7d" 5 =
      .ok (15, "\\n\"\x7d \\") :=
    (Descent.quote_eq_ok_iff hat).2 ⟨_, by decide, hlast⟩
  have hmark := Descent.peek_of_at hat
  have hwrite : Quoted.write "\\n\"\x7d \\" = "\"\\\\n\\\"\x7d \\\\\"" := by decide
  obtain ⟨-, halone, hdescent, hreader⟩ := quotes_enclose_their_text "\\n\"\x7d \\"
  refine ⟨hread, hquote, hmark, halone _ _ hread, ?_, ?_⟩
  · obtain ⟨before, source, after, ht, hbefore, hsource, hwritten, hencloses⟩ :=
      hdescent _ 5 15 hquote
    rw [hwrite] at hwritten
    exact ⟨before, source, after, ht, hbefore, hsource, hwritten, hencloses hmark⟩
  · refine ⟨[.literal "é"], ⟨2, "\x7bf ", [⟨3, "f", true, .literal "f"⟩]⟩,
      ⟨5, "\"\\n\\\"\x7d \\\\", [], none, false⟩, ⟨"\\n\"\x7d \\", false⟩, rfl, rfl, ?_⟩
    exact hreader 1 14 _ _ _ 5 _ [] _ '"' rfl rfl

end CacheKeys.Template
