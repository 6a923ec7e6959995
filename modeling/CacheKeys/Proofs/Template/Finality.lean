import Mathlib
import CacheKeys.Proofs.Template.ErrorPositions

/-! # Errors that more text cannot change

A reader that refuses a character does so whatever follows, so its error stays the same
(`read_append_of_run_error`); a reader that comes to the end too early has an error that more text
changes (`Reader.exists_other_error`).  The two kinds of errors can be told apart: the first are
found at what has been read (`CompileError.IsFinal`), and the second at what is still open
(`CompileError.AwaitsMore`). -/

namespace CacheKeys.Template

variable {depth : ℕ} {cs : List Char} {err : CompileError}

/-! ### Final errors and open ends -/

/-- The character stands at a byte position of the text. -/
def StandsAt (cs : List Char) (c : Char) (pos : ℕ) : Prop :=
  ∃ before after, cs = before ++ c :: after ∧ byteLength before = pos

/-- The error is one at a character or a group that the text has to its end. -/
inductive CompileError.IsFinal (cs : List Char) : CompileError → Prop
  -- a closing brace where none is open
  | stray {pos : ℕ} : StandsAt cs '}' pos → IsFinal cs (.unbalancedBraces pos)
  | empty (pos : ℕ) : IsFinal cs (.emptyExpression pos)
  | index (text : String) (pos : ℕ) : IsFinal cs (.invalidArgumentIndex text pos)
  | head (name : String) (pos : ℕ) : IsFinal cs (.unknownFunction name pos)
  | deep (limit : ℕ) : IsFinal cs (.nestingTooDeep limit)

/-- The error is one at a brace or a quote that the text leaves open. -/
inductive CompileError.AwaitsMore (cs : List Char) : CompileError → Prop
  | brace {k pos : ℕ} : Unclosed cs k pos → AwaitsMore cs (.unbalancedBraces pos)
  | quote (pos : ℕ) : AwaitsMore cs (.unterminatedQuote pos)

theorem StandsAt.unique {c d : Char} {pos : ℕ} (hc : StandsAt cs c pos) (hd : StandsAt cs d pos) :
    c = d := by
  obtain ⟨before, after, rfl, hpos⟩ := hc
  obtain ⟨before', after', hcs, hpos'⟩ := hd
  obtain rfl := Reader.append_inj_of_byteLength hcs (hpos.trans hpos'.symm)
  exact (List.cons.inj (List.append_cancel_left hcs)).1

theorem Unclosed.standsAt {k pos : ℕ} (h : Unclosed cs k pos) : StandsAt cs '{' pos := by
  obtain ⟨before, after, hcs, hpos, -⟩ := h
  exact ⟨before, after, hcs, hpos⟩

theorem CompileError.AwaitsMore.not_isFinal (h : err.AwaitsMore cs) : ¬err.IsFinal cs := by
  intro hf
  cases h with
  | brace hopen =>
      cases hf with
      | stray hclose => exact absurd (hopen.standsAt.unique hclose) (by decide)
  | quote pos => cases hf

/-! ### Where the errors come from -/

/-- What is wrong with a group is known at its closing brace. -/
theorem GroupFails.isFinal {opened : ℕ} {items : List Item} (h : GroupFails opened items err) :
    err.IsFinal cs := by
  cases h with
  | empty => exact .empty opened
  | index => exact .index _ _
  | head => exact .head _ _

namespace Reader

theorem isFinal_of_run (h : Reader.start.run depth cs = .error err) : err.IsFinal cs := by
  obtain ⟨before, c, after, r, rfl, hr, hs⟩ := run_eq_error h
  have hoffset : r.offset = byteLength before := (Tracks.start.run hr).offset
  obtain ⟨offset, nodes, place⟩ := r
  cases refuses_of_advance (map_eq_error hs) with
  | deep => exact .deep depth
  | stray => exact .stray ⟨before, after, rfl, hoffset.symm⟩
  | between hv => exact (groupFails_of_value hv).isFinal
  | inside hv => exact (groupFails_of_value hv).isFinal

theorem awaitsMore_of_finish {r : Reader} (hr : Reader.start.run depth cs = .ok r)
    (hf : r.finish = .error err) : err.AwaitsMore cs := by
  have hunclosed := (Tracks.start.run hr).unclosed
  rw [List.nil_append] at hunclosed
  have hearly := endsEarly_of_finish hf
  obtain ⟨offset, nodes, place⟩ := r
  cases hearly with
  | between g outer => exact .brace hunclosed.1
  | inside g d outer => exact .brace hunclosed.1
  | quoted g d opened q outer => exact .quote opened

/-- A quotation mark in an open group, and the end of an open quote, leave something else open. -/
theorem exists_other_error (depth : ℕ) {r : Reader} (hf : r.finish = .error err) :
    ∃ more err', byteLength more ≤ 2 ∧ (r.run depth more >>= finish) = .error err' ∧
      err' ≠ err := by
  have hearly := endsEarly_of_finish hf
  obtain ⟨offset, nodes, place⟩ := r
  cases hearly with
  | between g outer => exact ⟨['"'], .unterminatedQuote offset, by decide, rfl, by simp⟩
  | inside g d outer => exact ⟨['"'], .unterminatedQuote offset, by decide, rfl, by simp⟩
  | quoted g d opened q outer =>
      -- the first character is one that a backslash before it does not change
      refine ⟨['x', '"'], .unbalancedBraces g.opened, by decide, ?_, by simp⟩
      obtain ⟨text, escaped⟩ := q
      cases escaped with
      | false => rfl
      | true => rfl

end Reader

theorem read_append_of_run_error (h : Reader.start.run depth cs = .error err) (ds : List Char) :
    read depth (cs ++ ds) = .error err := by
  rw [read, Reader.run_append, h]
  rfl

theorem read_append_of_run_ok {r : Reader} (h : Reader.start.run depth cs = .ok r)
    (ds : List Char) : read depth (cs ++ ds) = (r.run depth ds >>= Reader.finish) := by
  rw [read, Reader.run_append_of_ok h]
  cases r.run depth ds with
  | error e => rfl
  | ok r' => rfl

theorem run_or_finish_of_read (h : read depth cs = .error err) :
    Reader.start.run depth cs = .error err ∨
      ∃ r, Reader.start.run depth cs = .ok r ∧ r.finish = .error err := by
  unfold read at h
  cases hr : Reader.start.run depth cs with
  | error err' =>
      rw [hr] at h
      obtain rfl : err' = err := Except.error.inj h
      exact .inl rfl
  | ok r =>
      rw [hr] at h
      exact .inr ⟨r, rfl, h⟩

/-- An error that is found before the end of a template stays whatever is written behind it.  The
others, at a brace or a quote that is not closed, do not: two more bytes are enough to change
them. -/
theorem parse_error_append (limits : Limits) (t : String) (err : CompileError)
    (h : parse limits t = .error err) :
    (err.IsFinal t.toList → ∀ u, (t ++ u).utf8ByteSize ≤ limits.maxLength →
      parse limits (t ++ u) = .error err) ∧
    (∀ u, (t ++ u).utf8ByteSize ≤ limits.maxLength → parse limits (t ++ u) ≠ .error err →
      err.AwaitsMore t.toList) ∧
    (err.AwaitsMore t.toList → t.utf8ByteSize + 2 ≤ limits.maxLength →
      ∃ u, (t ++ u).utf8ByteSize ≤ limits.maxLength ∧ parse limits (t ++ u) ≠ .error err) := by
  have hshort : ∀ {u : String}, (t ++ u).utf8ByteSize ≤ limits.maxLength →
      t.utf8ByteSize ≤ limits.maxLength := by
    intro u hu
    rw [String.utf8ByteSize_append] at hu
    omega
  refine ⟨?_, ?_, ?_⟩
  · intro hfinal u hu
    rw [parse_eq_read (hshort hu)] at h
    rw [parse_eq_read hu, String.toList_append]
    rcases run_or_finish_of_read h with hr | ⟨r, hr, hf⟩
    · exact read_append_of_run_error hr u.toList
    · exact absurd hfinal (Reader.awaitsMore_of_finish hr hf).not_isFinal
  · intro u hu hchange
    rw [parse_eq_read (hshort hu)] at h
    rw [parse_eq_read hu, String.toList_append] at hchange
    rcases run_or_finish_of_read h with hr | ⟨r, hr, hf⟩
    · exact absurd (read_append_of_run_error hr u.toList) hchange
    · exact Reader.awaitsMore_of_finish hr hf
  · intro hawaits hroom
    rw [parse_eq_read (by omega)] at h
    rcases run_or_finish_of_read h with hr | ⟨r, hr, hf⟩
    · exact absurd (Reader.isFinal_of_run hr) hawaits.not_isFinal
    · obtain ⟨more, err', hsize, hmore, hne⟩ := Reader.exists_other_error limits.maxDepth hf
      have hu : (t ++ String.ofList more).utf8ByteSize ≤ limits.maxLength := by
        rw [String.utf8ByteSize_append, utf8ByteSize_ofList]
        omega
      refine ⟨String.ofList more, hu, ?_⟩
      rw [parse_eq_read hu, String.toList_append, String.toList_ofList,
        read_append_of_run_ok hr, hmore]
      exact fun he => hne (Except.error.inj he)

/-- The group that holds nothing stays wrong, and the quote may still end. -/
theorem parse_error_append_behind_accents :
    parse Limits.standard "é\x7bf \x7b\x7d" = .error (.emptyExpression 5) ∧
    parse Limits.standard ("é\x7bf \x7b\x7d" ++ " \"ü\x7d") = .error (.emptyExpression 5) ∧
    parse Limits.standard "é\x7bf \"ü" = .error (.unterminatedQuote 5) ∧
    parse Limits.standard ("é\x7bf \"ü" ++ "\"\x7d") ≠ .error (.unterminatedQuote 5) ∧
    (CompileError.unterminatedQuote 5).AwaitsMore "é\x7bf \"ü".toList ∧
    ∃ u, ("é\x7bf \"ü" ++ u).utf8ByteSize ≤ Limits.standard.maxLength ∧
      parse Limits.standard ("é\x7bf \"ü" ++ u) ≠ .error (.unterminatedQuote 5) := by
  have hempty : parse Limits.standard "é\x7bf \x7b\x7d" = .error (.emptyExpression 5) := by
    decide +kernel
  have hquote : parse Limits.standard "é\x7bf \"ü" = .error (.unterminatedQuote 5) := by
    decide +kernel
  have hchange : parse Limits.standard ("é\x7bf \"ü" ++ "\"\x7d") ≠
      .error (.unterminatedQuote 5) := by
    decide +kernel
  obtain ⟨-, hawaits, hother⟩ := parse_error_append Limits.standard _ _ hquote
  have hopen := hawaits _ (by decide +kernel) hchange
  refine ⟨hempty, ?_, hquote, hchange, hopen, hother hopen (by decide +kernel)⟩
  exact (parse_error_append Limits.standard _ _ hempty).1 (.empty 5) _ (by decide +kernel)

end CacheKeys.Template
