import Mathlib
import CacheKeys.Proofs.Template.RoundTrip

/-! # Open braces and quotes

`BraceScan` counts the braces of a text and keeps nothing of what is in them.  `Nesting` is the same
for a reader, with the byte positions of what is open; `Moves` says all that a character can do to
it (`Reader.moves_of_advance`).  So a reader has as many groups open as the scan has braces, and is
in a quote exactly when the scan is (`BraceScan.Follows`); each open group begins at a brace that
has not been closed since (`Unclosed`), and an open quote at a mark behind which no end has been
found (`QuoteBegins`).  `Reader.Tracks` is all of this, for a reader after a text. -/

namespace CacheKeys.Template

/-! ### Scans of a text -/

def braceScan (cs : List Char) : BraceScan := BraceScan.run ⟨0, 0, none⟩ cs

/-- The number of braces that are open after a text. -/
def openBraces (cs : List Char) : ℕ := (braceScan cs).opened

/-- Whether a text ends in a quote, and then whether it ends in a backslash of the quote. -/
def openQuote? (cs : List Char) : Option Bool := (braceScan cs).quote

theorem braceScan_concat (cs : List Char) (c : Char) :
    braceScan (cs ++ [c]) = (braceScan cs).step c :=
  BraceScan.run_append _ cs [c]

/-- The brace at the byte position has `k` others around it and is closed nowhere in the text. -/
def Unclosed (cs : List Char) (k pos : ℕ) : Prop :=
  ∃ before after, cs = before ++ '{' :: after ∧ byteLength before = pos ∧
    openQuote? before = none ∧ openBraces before = k ∧
    ∀ more, more <+: after → k < openBraces (before ++ '{' :: more)

/-- The braces at the byte positions, listed from the inside out, are not closed. -/
def AllUnclosed (cs : List Char) : List ℕ → Prop
  | [] => True
  | pos :: rest => Unclosed cs rest.length pos ∧ AllUnclosed cs rest

/-- A quote in braces begins at the byte position, and `q` is what has been read of it. -/
def QuoteBegins (cs : List Char) (pos : ℕ) (q : Quoted.Unfinished) : Prop :=
  ∃ before body, cs = before ++ '"' :: body ∧ byteLength before = pos ∧
    openQuote? before = none ∧ 0 < openBraces before ∧
    ∀ rest, Quoted.Unfinished.start.finish (body ++ rest) = q.finish rest

namespace BraceScan

variable {s : BraceScan}

theorem step_open (h : s.quote = none) :
    (s.step '{').opened = s.opened + 1 ∧ (s.step '{').quote = none := by
  obtain ⟨opened, deepest, quote⟩ := s
  subst h
  exact ⟨rfl, rfl⟩

theorem step_close (h : s.quote = none) :
    (s.step '}').opened = s.opened - 1 ∧ (s.step '}').quote = none := by
  obtain ⟨opened, deepest, quote⟩ := s
  subst h
  exact ⟨rfl, rfl⟩

theorem step_quote (h : s.quote = none) (ho : 0 < s.opened) :
    (s.step '"').opened = s.opened ∧ (s.step '"').quote = some false := by
  obtain ⟨opened, deepest, quote⟩ := s
  subst h
  have hpos : 0 < opened := ho
  have hs : step ⟨opened, deepest, none⟩ '"' = ⟨opened, deepest, some false⟩ := by
    simp [step, hpos]
  rw [hs]
  exact ⟨rfl, rfl⟩

/-- Outside braces a quote is a character like any other. -/
theorem step_other {c : Char} (h : s.quote = none) (hl : c ≠ '{') (hr : c ≠ '}')
    (hq : c = '"' → s.opened = 0) : s.step c = s := by
  obtain ⟨opened, deepest, quote⟩ := s
  subst h
  have hc : (c == '"' && decide (0 < opened)) = false := by
    by_cases hc : c = '"'
    · have ho : opened = 0 := hq hc
      simp [ho]
    · simp [hc]
  simp [step, hl, hr, hc]

theorem step_closed {q : Quoted.Unfinished} {c : Char} {text : String}
    (h : s.quote = some q.escaped) (hq : q.step c = .closed text) :
    (s.step c).opened = s.opened ∧ (s.step c).quote = none := by
  obtain ⟨rfl, rfl⟩ := Quoted.Unfinished.of_step_eq_closed hq
  simp [step, h]

theorem step_more {q q' : Quoted.Unfinished} {c : Char} (h : s.quote = some q.escaped)
    (hq : q.step c = .more q') :
    (s.step c).opened = s.opened ∧ (s.step c).quote = some q'.escaped := by
  cases Quoted.Unfinished.grows_of_step hq with
  | escape => simp [step, h]
  | backslash => simp [step, h]
  | waiting => simp [step, h]
  | plain hquote hslash => simp [step, h, hquote, hslash]

end BraceScan

/-- A brace at the end of the text is not closed. -/
theorem Unclosed.here {cs : List Char} (h : openQuote? cs = none) :
    Unclosed (cs ++ ['{']) (openBraces cs) (byteLength cs) := by
  have hopen := (BraceScan.step_open h).1
  refine ⟨cs, [], rfl, rfl, h, rfl, fun more hmore => ?_⟩
  rw [List.prefix_nil.1 hmore]
  unfold openBraces
  rw [braceScan_concat, hopen]
  exact Nat.lt_succ_self _

theorem Unclosed.snoc {cs : List Char} {k pos : ℕ} (h : Unclosed cs k pos) {c : Char}
    (hk : k < openBraces (cs ++ [c])) : Unclosed (cs ++ [c]) k pos := by
  obtain ⟨before, after, rfl, hpos, hquote, hopen, hall⟩ := h
  refine ⟨before, after ++ [c], by simp, hpos, hquote, hopen, fun more hmore => ?_⟩
  rcases List.prefix_concat_iff.1 hmore with rfl | hmore
  · simpa using hk
  · exact hall more hmore

theorem AllUnclosed.snoc {cs : List Char} {c : Char} : ∀ {ps : List ℕ}, AllUnclosed cs ps →
    ps.length ≤ openBraces (cs ++ [c]) → AllUnclosed (cs ++ [c]) ps
  | [], _, _ => trivial
  | pos :: rest, h, hl => by
      rw [List.length_cons] at hl
      have hrest := h.2.snoc (c := c) (by omega)
      exact ⟨h.1.snoc (by omega), hrest⟩

theorem QuoteBegins.snoc {cs : List Char} {pos : ℕ} {q q' : Quoted.Unfinished} {c : Char}
    (h : QuoteBegins cs pos q) (hq : q.step c = .more q') : QuoteBegins (cs ++ [c]) pos q' := by
  obtain ⟨before, body, rfl, hpos, hquote, hopen, hfinish⟩ := h
  refine ⟨before, body ++ [c], by simp, hpos, hquote, hopen, fun rest => ?_⟩
  have hc := hfinish (c :: rest)
  rw [Quoted.Unfinished.finish, hq] at hc
  simpa using hc

/-! ### What is open in a reader -/

/-- What is open at a place: the byte positions of the open braces, from the inside out, and that of
the open quote with what has been read of it. -/
structure Nesting where
  braces : List ℕ
  quote : Option (ℕ × Quoted.Unfinished)

def Place.nesting : Place → Nesting
  | .outside _ => ⟨[], none⟩
  | .between g outer => ⟨g.opened :: outer.map (·.1.opened), none⟩
  | .inside g _ outer => ⟨g.opened :: outer.map (·.1.opened), none⟩
  | .quoted g _ opened q outer => ⟨g.opened :: outer.map (·.1.opened), some (opened, q)⟩

/-- What a character at the byte position does to what is open. -/
inductive Moves (offset : ℕ) : Char → Nesting → Nesting → Prop
  | brace {ps : List ℕ} : Moves offset '{' ⟨ps, none⟩ ⟨offset :: ps, none⟩
  | close {p : ℕ} {ps : List ℕ} : Moves offset '}' ⟨p :: ps, none⟩ ⟨ps, none⟩
  | quote {p : ℕ} {ps : List ℕ} :
      Moves offset '"' ⟨p :: ps, none⟩ ⟨p :: ps, some (offset, Quoted.Unfinished.start)⟩
  | more {ps : List ℕ} {opened : ℕ} {q q' : Quoted.Unfinished} {c : Char} :
      q.step c = .more q' → Moves offset c ⟨ps, some (opened, q)⟩ ⟨ps, some (opened, q')⟩
  | unquote {ps : List ℕ} {opened : ℕ} {q : Quoted.Unfinished} {c : Char} {text : String} :
      q.step c = .closed text → Moves offset c ⟨ps, some (opened, q)⟩ ⟨ps, none⟩
  | other {ps : List ℕ} {c : Char} :
      c ≠ '{' → c ≠ '}' → (c = '"' → ps = []) → Moves offset c ⟨ps, none⟩ ⟨ps, none⟩

theorem Moves.blank {offset : ℕ} {ps : List ℕ} {c : Char} (h : Text.isBlank c = true) :
    Moves offset c ⟨ps, none⟩ ⟨ps, none⟩ := by
  refine .other ?_ ?_ ?_
  · rintro rfl
    cases h
  · rintro rfl
    cases h
  · rintro rfl
    cases h

/-- The scan has as many braces open as the reader, and is in a quote if the reader is. -/
structure BraceScan.Follows (s : BraceScan) (v : Nesting) : Prop where
  quote : s.quote = v.quote.map (·.2.escaped)
  opened : s.opened = v.braces.length

/-- One character keeps the scan with the reader. -/
theorem BraceScan.Follows.step {s : BraceScan} {offset : ℕ} {c : Char} {v v' : Nesting}
    (h : s.Follows v) (hm : Moves offset c v v') : (s.step c).Follows v' := by
  obtain ⟨hquote, hopened⟩ := h
  cases hm with
  | brace =>
      obtain ⟨ho, hq⟩ := step_open hquote
      exact ⟨hq, by rw [ho, hopened, List.length_cons]⟩
  | close =>
      obtain ⟨ho, hq⟩ := step_close hquote
      exact ⟨hq, by rw [ho, hopened, List.length_cons, Nat.add_sub_cancel]⟩
  | @quote p ps =>
      have hpos : 0 < s.opened := by
        rw [hopened]
        exact Nat.zero_lt_succ ps.length
      obtain ⟨ho, hq⟩ := step_quote hquote hpos
      exact ⟨hq, ho.trans hopened⟩
  | more hstep =>
      obtain ⟨ho, hq⟩ := step_more hquote hstep
      exact ⟨hq, ho.trans hopened⟩
  | unquote hstep =>
      obtain ⟨ho, hq⟩ := step_closed hquote hstep
      exact ⟨hq, ho.trans hopened⟩
  | other hl hr hq =>
      have hs : s.step c = s := step_other hquote hl hr fun hc => by
        rw [hopened, hq hc]
        rfl
      rw [hs]
      exact ⟨hquote, hopened⟩

theorem AllUnclosed.step {cs : List Char} {c : Char} {v v' : Nesting}
    (hf : (braceScan cs).Follows v)
    (hf' : openBraces (cs ++ [c]) = v'.braces.length) (hm : Moves (byteLength cs) c v v')
    (h : AllUnclosed cs v.braces) : AllUnclosed (cs ++ [c]) v'.braces := by
  -- a brace that is closed leaves the list, so what is left in it stays below the count
  cases hm with
  | @brace ps =>
      have hopened : openBraces cs = ps.length := hf.opened
      have hhere : Unclosed (cs ++ ['{']) ps.length (byteLength cs) :=
        hopened ▸ Unclosed.here hf.quote
      have hrest : AllUnclosed (cs ++ ['{']) ps := h.snoc (by rw [hf']; exact Nat.le_succ _)
      exact ⟨hhere, hrest⟩
  | close => exact h.2.snoc hf'.ge
  | quote => exact h.snoc hf'.ge
  | more => exact h.snoc hf'.ge
  | unquote => exact h.snoc hf'.ge
  | other => exact h.snoc hf'.ge

/-- The mark of a quote is remembered as long as the quote is open. -/
theorem QuoteBegins.step {cs : List Char} {c : Char} {v v' : Nesting}
    (hf : (braceScan cs).Follows v) (hm : Moves (byteLength cs) c v v')
    (h : ∀ {pos : ℕ} {q : Quoted.Unfinished}, v.quote = some (pos, q) → QuoteBegins cs pos q)
    {pos : ℕ} {q : Quoted.Unfinished} (hq : v'.quote = some (pos, q)) :
    QuoteBegins (cs ++ [c]) pos q := by
  cases hm with
  | brace => cases hq
  | close => cases hq
  | unquote => cases hq
  | other => cases hq
  | @quote p ps =>
      cases hq
      have hopened : openBraces cs = (p :: ps).length := hf.opened
      have hpos : 0 < openBraces cs := by
        rw [hopened]
        exact Nat.zero_lt_succ ps.length
      exact ⟨cs, [], rfl, rfl, hf.quote, hpos, fun _ => rfl⟩
  | more hstep =>
      cases hq
      exact (h rfl).snoc hstep

namespace Reader

variable {depth offset : ℕ} {nodes nodes' : List Expr} {g : Group} {d : Draft}
  {outer : List Level} {place place' : Place} {c : Char}

theorem openGroup_eq_ok (h : openGroup depth offset outer = .ok place) :
    place = .between (Group.start offset) outer := by
  unfold openGroup at h
  split at h
  · cases h
  · exact (Except.ok.inj h).symm

theorem moves_of_closeGroup (h : closeGroup nodes g outer = .ok (nodes', place)) :
    Moves offset '}' ⟨g.opened :: outer.map (·.1.opened), none⟩ place.nesting := by
  unfold closeGroup at h
  cases hv : g.value with
  | error err => simp [hv] at h
  | ok e =>
      rw [hv] at h
      cases outer with
      | nil =>
          cases h
          exact .close
      | cons l outer =>
          obtain ⟨g', d'⟩ := l
          cases h
          exact .close

theorem moves_of_readItem (hr : c ≠ '}') (h : readItem depth offset g d outer c = .ok place) :
    Moves offset c ⟨g.opened :: outer.map (·.1.opened), none⟩ place.nesting := by
  unfold readItem at h
  split at h
  · next hc =>
    obtain rfl : c = '{' := by simpa using hc
    obtain rfl := openGroup_eq_ok h
    exact .brace
  · next hl =>
    split at h
    · next hc =>
      obtain rfl : c = '"' := by simpa using hc
      cases h
      exact .quote
    · next hq =>
      cases h
      exact .other (by simpa using hl) hr fun hc => absurd hc (by simpa using hq)

/-- A reader that goes on opens and closes what the character says. -/
theorem moves_of_advance (h : advance depth offset nodes place c = .ok (nodes', place')) :
    Moves offset c place.nesting place'.nesting := by
  cases place with
  | outside run =>
      simp only [advance] at h
      split at h
      · next hc =>
        obtain rfl : c = '{' := by simpa using hc
        obtain ⟨p, hp, he⟩ := map_eq_ok h
        cases he
        obtain rfl := openGroup_eq_ok hp
        exact .brace
      · next hl =>
        split at h
        · cases h
        · next hr =>
          cases h
          exact .other (by simpa using hl) (by simpa using hr) fun _ => rfl
  | between g outer =>
      simp only [advance] at h
      split at h
      · next hb =>
        cases h
        exact .blank hb
      · split at h
        · next hc =>
          obtain rfl : c = '}' := by simpa using hc
          exact moves_of_closeGroup h
        · next hr =>
          obtain ⟨p, hp, he⟩ := map_eq_ok h
          cases he
          exact moves_of_readItem (by simpa using hr) hp
  | inside g d outer =>
      simp only [advance] at h
      split at h
      · next hb =>
        cases h
        exact .blank hb
      · split at h
        · next hc =>
          obtain rfl : c = '}' := by simpa using hc
          exact moves_of_closeGroup (g := g.pushItem d) h
        · next hr =>
          obtain ⟨p, hp, he⟩ := map_eq_ok h
          cases he
          exact moves_of_readItem (by simpa using hr) hp
  | quoted g d opened q outer =>
      simp only [advance] at h
      cases hq : q.step c with
      | closed text =>
          rw [hq] at h
          cases h
          exact .unquote hq
      | more q' =>
          rw [hq] at h
          cases h
          exact .more hq

/-! ### Readers and the text that they have read -/

/-- What is known of a text from what is open in the reader that has read it. -/
structure Tracks (cs : List Char) (r : Reader) : Prop where
  offset : r.offset = byteLength cs
  follows : (braceScan cs).Follows r.place.nesting
  unclosed : AllUnclosed cs r.place.nesting.braces
  quote : ∀ {pos : ℕ} {q : Quoted.Unfinished}, r.place.nesting.quote = some (pos, q) →
    QuoteBegins cs pos q

theorem Tracks.start : Tracks [] Reader.start := by
  refine ⟨rfl, ⟨rfl, rfl⟩, trivial, fun h => ?_⟩
  cases h

/-- One character keeps what is known of the text. -/
theorem Tracks.step {cs : List Char} {r r' : Reader} (h : Tracks cs r)
    (hs : r.step depth c = .ok r') : Tracks (cs ++ [c]) r' := by
  obtain ⟨offset, nodes, place⟩ := r
  obtain ⟨⟨nodes', place'⟩, ha, rfl⟩ := map_eq_ok hs
  obtain ⟨hoffset, hfollows, hunclosed, hquote⟩ := h
  obtain rfl : offset = byteLength cs := hoffset
  have hm := moves_of_advance ha
  have hfollows' : (braceScan (cs ++ [c])).Follows place'.nesting := by
    rw [braceScan_concat]
    exact hfollows.step hm
  refine ⟨?_, hfollows', ?_, ?_⟩
  · rw [byteLength_append]
    simp
  · exact AllUnclosed.step hfollows hfollows'.opened hm hunclosed
  · exact QuoteBegins.step hfollows hm hquote

theorem Tracks.run {cs ds : List Char} {r r' : Reader} (h : Tracks cs r)
    (hr : r.run depth ds = .ok r') : Tracks (cs ++ ds) r' :=
  run_invariant (P := Tracks) Tracks.step h hr

end Reader

end CacheKeys.Template
