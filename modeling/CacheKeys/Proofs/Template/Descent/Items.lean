import Mathlib
import CacheKeys.Proofs.Template.Descent.Checks

/-! # Items of the descent

The descent on blanks, quotes and items, each by what one pass of its loop does.  What it passes has
a derivation, and where it refuses the template, the reader refuses what follows with the same error
(`conclude`).  Items are read with any way of reading groups that does this (`YieldsGroups`). -/

namespace CacheKeys.Template.Descent

open Reader

variable {α : Type} {t : String} {depth room pos : ℕ} {rest : List Char}

/-! ### Reading on -/

/-- The result of a reader before the rest of a template. -/
def conclude (depth : ℕ) (r : Reader) (cs : List Char) : Except CompileError (List Expr) :=
  r.run depth cs >>= finish

theorem conclude_append_of_ok {r r' : Reader} {cs ds : List Char} (h : r.run depth cs = .ok r') :
    conclude depth r (cs ++ ds) = conclude depth r' ds := by
  rw [conclude, run_append_of_ok h, conclude]

theorem conclude_of_ok {r r' : Reader} {cs : List Char} (h : r.run depth cs = .ok r') :
    conclude depth r cs = r'.finish := by
  rw [conclude, h]
  rfl

theorem conclude_cons_of_error {nodes : List Expr} {place : Place} {c : Char} {cs : List Char}
    {err : CompileError} (h : advance depth pos nodes place c = .error err) :
    conclude depth ⟨pos, nodes, place⟩ (c :: cs) = .error err := by
  have hs : step depth ⟨pos, nodes, place⟩ c = .error err := by
    rw [step, h]
    rfl
  rw [conclude, run_cons, hs]
  rfl

theorem conclude_start (depth : ℕ) (cs : List Char) :
    conclude depth Reader.start cs = read depth cs := by
  rw [conclude, read]
  cases Reader.start.run depth cs <;> rfl

theorem ok_bind {β : Type} (a : α) (f : α → Except Stop β) :
    ((.ok a : Except Stop α) >>= f) = f a := rfl

/-! ### Blanks -/

theorem utf8Size_of_isBlank {c : Char} (h : Text.isBlank c = true) : c.utf8Size = 1 := by
  simp only [Text.isBlank, Bool.or_eq_true, beq_iff_eq] at h
  rcases h with (((rfl | rfl) | rfl) | rfl) | rfl <;> rfl

/-- All blanks at a position are skipped. -/
theorem skipBlanks_of_at (h : At t pos rest) :
    ∃ blanks rest', rest = blanks ++ rest' ∧ Blanks blanks ∧
      (∀ c ∈ rest'.head?, Text.isBlank c = false) ∧
      skipBlanks t pos = .ok (pos + byteLength blanks) := by
  have hloop : Yields pos rest
      (fun blanks rest' _ => Blanks blanks ∧ ∀ c ∈ rest'.head?, Text.isBlank c = false)
      (fun _ => False) (loop t (blankPass t) pos ()) := by
    refine @yields_loop _ _ t pos (fun blanks _ _ => Blanks blanks) _ _ _ rest ?_ h () Blanks.nil
    intro blanks rest' _ _ hat hblanks
    unfold blankPass
    rw [peek_of_at hat]
    cases rest' with
    | nil => exact .leave_here ⟨hblanks, by simp⟩
    | cons c cs =>
        cases hc : Text.isBlank c with
        | true =>
            simp only [List.head?_cons, ok_bind, hc, if_true]
            rw [← utf8Size_of_isBlank hc]
            exact .again_behind (hblanks.append (Blanks.singleton hc))
        | false =>
            simp only [List.head?_cons, ok_bind, hc, Bool.false_eq_true, if_false]
            exact .leave_here ⟨hblanks, by simp [hc]⟩
  generalize hl : loop t (blankPass t) pos () = result at hloop
  cases hloop with
  | @passed blanks rest' _ hrest hfound =>
      refine ⟨blanks, rest', hrest, hfound.1, hfound.2, ?_⟩
      rw [skipBlanks, hl]
      rfl
  | refused h => exact h.elim

/-! ### Quotes -/

/-- Between two passes over a quote: the text of a backslash that stands for itself is there before
the character behind it is read. -/
def QuoteBetween (body rest : List Char) (text : String) : Prop :=
  DerivesQuoted body text ∨
    ∃ body' text', body = body' ++ ['\\'] ∧ text = text'.push '\\' ∧ DerivesQuoted body' text' ∧
      ∀ c ∈ rest.head?, c ≠ '"' ∧ c ≠ '\\'

theorem QuoteBetween.exists_quoteReads {body : List Char} {text : String}
    (h : QuoteBetween body rest text) : ∃ q, QuoteReads body q := by
  rcases h with h | ⟨body', text', hbody, -, h, -⟩
  · exact ⟨⟨text, false⟩, h⟩
  · exact ⟨⟨text', true⟩, body', hbody, h⟩

theorem QuoteBetween.derivesQuoted {body : List Char} {text : String} {c : Char}
    (h : QuoteBetween body (c :: rest) text) (hc : c = '"' ∨ c = '\\') :
    DerivesQuoted body text := by
  rcases h with h | ⟨body', text', -, -, -, hhead⟩
  · exact h
  · obtain ⟨hquote, hslash⟩ := hhead c rfl
    rcases hc with hc | hc
    · exact absurd hc hquote
    · exact absurd hc hslash

theorem QuoteBetween.plain {body : List Char} {text : String} {c : Char}
    (h : QuoteBetween body (c :: rest) text) (hquote : c ≠ '"') (hslash : c ≠ '\\') :
    DerivesQuoted (body ++ [c]) (text.push c) := by
  rcases h with h | ⟨body', text', rfl, rfl, h, -⟩
  · exact .plain h hquote hslash
  · rw [List.append_assoc]
    exact .backslash h hquote hslash

/-- One pass over a quote. -/
theorem steps_quotePass {opened : ℕ} {inside body : List Char} {text : String}
    (hinside : inside = body ++ rest) (hat : At t pos rest) (h : QuoteBetween body rest text) :
    Steps pos body rest QuoteBetween
      (fun piece _ text => ∃ body, piece = body ++ ['"'] ∧ DerivesQuoted body text)
      (fun err => err = .unterminatedQuote opened ∧ ∃ q, QuoteReads inside q)
      (quotePass t opened pos text) := by
  unfold quotePass
  cases rest with
  | nil =>
      have hbump : bump t pos = .ok (none, pos) := by
        rw [bump, peek_of_at hat]
        rfl
      rw [hbump, ok_bind]
      rw [List.append_nil] at hinside
      exact .refused ⟨rfl, hinside ▸ h.exists_quoteReads⟩
  | cons c rest =>
      rw [bump_of_at hat, ok_bind]
      by_cases hquote : c = '"'
      · subst hquote
        exact .leave_behind ⟨body, rfl, h.derivesQuoted (.inl rfl)⟩
      by_cases hslash : c = '\\'
      · subst hslash
        have hbody := h.derivesQuoted (.inr rfl)
        simp only [beq_iff_eq, hquote, if_false, if_true]
        rw [peek_of_at hat.cons, ok_bind]
        cases rest with
        | nil => exact .again_behind (.inr ⟨body, text, rfl, rfl, hbody, by simp⟩)
        | cons d rest =>
            simp only [List.head?_cons]
            by_cases hd : d = '"' ∨ d = '\\'
            · have hescape : Quoted.needsEscape d = true := by simpa [Quoted.needsEscape] using hd
              have hpos : pos + '\\'.utf8Size + d.utf8Size = pos + byteLength ['\\', d] := by
                simp [Nat.add_assoc]
              rw [if_pos hescape, bump_of_at hat.cons, ok_bind, hpos]
              exact .again rfl (List.cons_ne_nil _ _) (.inl (.escape hbody hd))
            · have hescape : ¬Quoted.needsEscape d = true := by simpa [Quoted.needsEscape] using hd
              rw [if_neg hescape]
              exact .again_behind
                (.inr ⟨body, text, rfl, rfl, hbody, by simpa [not_or] using hd⟩)
      · simp only [beq_iff_eq, hquote, hslash, if_false]
        exact .again_behind (.inl (h.plain hquote hslash))

/-- A quote is passed up to its second mark, or it has none; its first character is passed as it is.
-/
theorem yields_quote {opened : ℕ} {c : Char} {inside : List Char}
    (hat : At t opened (c :: inside)) :
    Yields opened (c :: inside)
      (fun piece _ text => ∃ body, piece = c :: (body ++ ['"']) ∧ DerivesQuoted body text)
      (fun err => err = .unterminatedQuote opened ∧ ∃ q, QuoteReads inside q)
      (quote t opened) := by
  rw [quote, bump_of_at hat, ok_bind]
  refine (yields_loop steps_quotePass hat.cons (.inl .nil)).behind ?_
  rintro piece rest' text ⟨body, rfl, hbody⟩
  exact ⟨body, rfl, hbody⟩

/-- A quote without an end leaves the reader inside it. -/
theorem conclude_quoted {body : List Char} {q : Quoted.Unfinished} (h : QuoteReads body q)
    {nodes : List Expr} {g : Group} {d : Draft} {opened : ℕ} {outer : List Level} :
    conclude depth ⟨pos, nodes, .quoted g d opened Quoted.Unfinished.start outer⟩ body =
      .error (.unterminatedQuote opened) := by
  rw [conclude_of_ok (run_quoteReads h)]
  rfl

/-! ### Items -/

/-- A group that begins at `pos` is refused at every place where a reader opens it. -/
def GroupRefused (depth room pos : ℕ) (cs : List Char) (err : CompileError) : Prop :=
  ∀ (nodes nodes' : List Expr) (place : Place) (outer : List Level), outer.length + room = depth →
    advance depth pos nodes place '{' =
      (openGroup depth pos outer).map (fun place' => (nodes', place')) →
    conclude depth ⟨pos, nodes, place⟩ cs = .error err

/-- Groups are passed from brace to brace or refused. -/
def YieldsGroups (t : String) (depth room : ℕ) (group : ℕ → Except Stop (ℕ × Expr)) : Prop :=
  ∀ {pos : ℕ} {rest : List Char}, At t pos ('{' :: rest) →
    Yields pos ('{' :: rest) (fun src _ e => DerivesGroup room pos src e)
      (GroupRefused depth room pos ('{' :: rest)) (group pos)

/-- An item that begins at `offset` is refused in whatever group it stands. -/
def ItemRefused (depth room offset : ℕ) (cs : List Char) (err : CompileError) : Prop :=
  ∀ (nodes : List Expr) (g : Group) (outer : List Level), outer.length + 1 + room = depth →
    conclude depth ⟨offset, nodes, .inside g (Draft.start offset) outer⟩ cs = .error err

/-- Nothing that follows belongs to an item. -/
def EndsItem (rest : List Char) : Prop :=
  ∀ c ∈ rest.head?, Text.isBlank c = true ∨ c = '}'

/-- The draft of an item with the given parts. -/
def draftOf (offset : ℕ) (src : List Char) (state : Parts × Bool) : Draft :=
  ⟨offset, String.ofList src, state.1.done, state.1.text, state.2⟩

/-- The item at `offset` is written as `src` so far and has the given parts. -/
structure ItemSoFar (room offset : ℕ) (src : List Char) (state : Parts × Bool) : Prop where
  reads : DraftReads room offset src (draftOf offset src state)
  word : state.2 = true → state.1.done = [] ∧ state.1.text.getD "" = String.ofList src

variable {offset : ℕ} {src src' : List Char} {state : Parts × Bool}

theorem allParts_draftOf : (draftOf offset src state).allParts = state.1.all := by
  unfold Draft.allParts Parts.all draftOf
  cases state.1.text <;> rfl

namespace ItemSoFar

theorem start (room offset : ℕ) : ItemSoFar room offset [] (Parts.none, true) :=
  ⟨DraftReads.start room offset, fun _ => ⟨rfl, rfl⟩⟩

theorem char {c : Char} (h : ItemSoFar room offset src state) (hc : isWordChar c = true) :
    ItemSoFar room offset (src ++ [c]) (state.1.pushText (String.singleton c), state.2) := by
  constructor
  · have hreads := h.reads.readText (.char hc)
    simpa [Draft.readText, draftOf, Parts.pushText, hc] using hreads
  · intro hbare
    obtain ⟨hdone, htext⟩ := h.word hbare
    refine ⟨hdone, ?_⟩
    simp [Parts.pushText, htext]

theorem quote {body : List Char} {text : String} (h : ItemSoFar room offset src state)
    (hq : DerivesQuoted body text) :
    ItemSoFar room offset (src ++ '"' :: (body ++ ['"'])) (state.1.pushText text, false) := by
  constructor
  · have hreads := h.reads.readText (.quoted hq)
    simpa [Draft.readText, draftOf, Parts.pushText, isWordChar] using hreads
  · intro hbare
    cases hbare

theorem group {e : Expr} (h : ItemSoFar room offset src state)
    (hg : DerivesGroup room (offset + byteLength src) src' e) :
    ItemSoFar room offset (src ++ src') (state.1.pushGroup e, false) := by
  constructor
  · have hreads := h.reads.pushGroup hg
    rw [Draft.pushGroup, allParts_draftOf] at hreads
    simpa [draftOf, Parts.pushGroup] using hreads
  · intro hbare
    cases hbare

/-- The reader comes to where the item is so far. -/
theorem conclude_append (h : ItemSoFar room offset src state) (nodes : List Expr) (g : Group)
    {outer : List Level} (hd : outer.length + 1 + room = depth) (cs : List Char) :
    ∃ d, conclude depth ⟨offset, nodes, .inside g (Draft.start offset) outer⟩ (src ++ cs) =
      conclude depth ⟨offset + byteLength src, nodes, .inside g d outer⟩ cs := by
  obtain ⟨d, hr, -⟩ := run_parts h.reads.allParts hd.le nodes g
  exact ⟨d, conclude_append_of_ok hr⟩

/-- Behind an item so far a group is opened, so what refuses the group refuses the item. -/
theorem refused_of_group {cs : List Char} {err : CompileError} (h : ItemSoFar room offset src state)
    (herr : GroupRefused depth room (offset + byteLength src) cs err) :
    ItemRefused depth room offset (src ++ cs) err := by
  intro nodes g outer hd
  obtain ⟨d, hd'⟩ := h.conclude_append nodes g hd cs
  rw [hd']
  refine herr nodes nodes (.inside g d outer) ((g, d) :: outer) ?_ ?_
  · rw [List.length_cons, hd]
  · simp [advance, readItem, Text.isBlank]

theorem refused_of_quote {inside : List Char} {q : Quoted.Unfinished}
    (h : ItemSoFar room offset src state) (hq : QuoteReads inside q) :
    ItemRefused depth room offset (src ++ '"' :: inside)
      (.unterminatedQuote (offset + byteLength src)) := by
  intro nodes g outer hd
  obtain ⟨d, hd'⟩ := h.conclude_append nodes g hd ('"' :: inside)
  have hopened := advance_inside_mark depth (offset + byteLength src) nodes g d outer
  rw [hd', ← List.singleton_append, conclude_append_of_ok (run_singleton_of_advance hopened),
    conclude_quoted hq]

end ItemSoFar

/-- One pass over an item. -/
theorem steps_itemPass {group : ℕ → Except Stop (ℕ × Expr)}
    (hgroup : YieldsGroups t depth room group) {whole : List Char} (hwhole : whole = src ++ rest)
    (hat : At t (offset + byteLength src) rest) (h : ItemSoFar room offset src state) :
    Steps (offset + byteLength src) src rest (fun src _ state => ItemSoFar room offset src state)
      (fun src rest' state => ItemSoFar room offset src state ∧ EndsItem rest')
      (ItemRefused depth room offset whole) (itemPass t group (offset + byteLength src) state) := by
  subst hwhole
  unfold itemPass
  rw [peek_of_at hat, ok_bind]
  cases rest with
  | nil => exact .leave_here ⟨h, by simp [EndsItem]⟩
  | cons c rest =>
      simp only [List.head?_cons]
      by_cases hend : (Text.isBlank c || c == '}') = true
      · rw [if_pos hend]
        exact .leave_here ⟨h, by simpa [EndsItem] using hend⟩
      rw [if_neg hend]
      by_cases hopen : c = '{'
      · subst hopen
        simp only [beq_self_eq_true, if_true]
        refine (hgroup hat).bind ?_ ?_
        · intro src' rest' e hrest hg
          obtain ⟨body, hbody⟩ := hg.exists_body
          exact .again hrest (by simp [hbody]) (h.group hg)
        · intro err herr
          exact .refused (h.refused_of_group herr)
      by_cases hquote : c = '"'
      · subst hquote
        simp only [beq_iff_eq, hopen, if_false, if_true]
        refine (yields_quote hat).bind ?_ ?_
        · rintro src' rest' text hrest ⟨body, rfl, hbody⟩
          exact .again hrest (List.cons_ne_nil _ _) (h.quote hbody)
        · rintro err ⟨rfl, q, hq⟩
          exact .refused (h.refused_of_quote hq)
      · have hword : isWordChar c = true := by
          simp only [Bool.or_eq_true, beq_iff_eq, not_or, Bool.not_eq_true] at hend
          exact isWordChar_iff.2 ⟨hend.1, hopen, hend.2, hquote⟩
        simp only [beq_iff_eq, hopen, hquote, if_false]
        rw [bump_of_at hat, ok_bind]
        exact .again_behind (h.char hword)

/-- The item of a group that stands between two positions. -/
structure Span.Shows (t : String) (p : Span) (item : Item) : Prop where
  offset : p.offset = item.offset
  source : slice t p.offset p.last = .ok item.source
  kind : p.kind = if item.isWord then .word item.source else .expr item.expr
  word : item.isWord = true → item.source ≠ "" ∧ item.expr = .literal item.source

theorem Span.Shows.expr_eq {p : Span} {item : Item} (h : p.Shows t item) : p.expr = item.expr := by
  unfold Span.expr
  rw [h.kind]
  cases hw : item.isWord with
  | true => exact (h.word hw).2.symm
  | false => rfl

namespace ItemSoFar

theorem all_of_bare (h : ItemSoFar room offset src state) (hne : src ≠ [])
    (hbare : state.2 = true) : state.1.all = [.literal (String.ofList src)] := by
  obtain ⟨hdone, htext⟩ := h.word hbare
  unfold Parts.all
  rw [hdone]
  cases ht : state.1.text with
  | some text =>
      rw [ht, Option.getD_some] at htext
      rw [htext]
      rfl
  | none =>
      rw [ht, Option.getD_none] at htext
      have hnil : [] = src := by simpa using congrArg String.toList htext
      exact absurd hnil.symm hne

/-- A word of an item that is not empty is not empty. -/
theorem kind_eq (h : ItemSoFar room offset src state) (hne : src ≠ []) :
    kind state.1.all state.2 = .ok (if (draftOf offset src state).toItem.isWord
      then .word (draftOf offset src state).toItem.source
      else .expr (draftOf offset src state).toItem.expr) := by
  have hitem : (draftOf offset src state).toItem =
      ⟨offset, String.ofList src, state.2, ofParts state.1.all⟩ := by
    rw [Draft.toItem, allParts_draftOf]
    rfl
  rw [hitem, kind]
  cases hbare : state.2 with
  | true =>
      have hsource : (String.ofList src).isEmpty = false := by
        rw [Bool.eq_false_iff, ne_eq, String.isEmpty_iff, ← String.toList_inj, String.toList_ofList]
        exact hne
      rw [h.all_of_bare hne hbare]
      simp [hsource]
  | false => rfl

theorem shows (h : ItemSoFar room offset src state) (hne : src ≠ [])
    (hat : At t offset (src ++ rest)) {k : Kind} (hk : kind state.1.all state.2 = .ok k) :
    (⟨offset, offset + byteLength src, k⟩ : Span).Shows t (draftOf offset src state).toItem := by
  refine ⟨rfl, slice_of_at hat, ?_, ?_⟩
  · have hkind := h.kind_eq hne
    rw [hk] at hkind
    exact Except.ok.inj hkind
  · intro hbare
    constructor
    · intro hsource
      have hnil := congrArg String.toList hsource
      rw [draftOf, Draft.toItem, String.toList_ofList] at hnil
      exact hne hnil
    · rw [Draft.toItem, allParts_draftOf, h.all_of_bare hne hbare]
      rfl

end ItemSoFar

/-- An item takes at least one character. -/
theorem yields_item {group : ℕ → Except Stop (ℕ × Expr)} (hgroup : YieldsGroups t depth room group)
    {c : Char} (hat : At t offset (c :: rest)) (hbegins : ¬EndsItem (c :: rest)) :
    Yields offset (c :: rest)
      (fun src rest' span => EndsItem rest' ∧
        ∃ item, DerivesItem room offset src item ∧ span.Shows t item)
      (ItemRefused depth room offset (c :: rest)) (item t group offset) := by
  have hloop := yields_loop (steps_itemPass hgroup) hat (ItemSoFar.start room offset)
  unfold item
  refine hloop.bind ?_ ?_
  · rintro src rest' state hrest ⟨hsofar, hends⟩
    have hne : src ≠ [] := by
      rintro rfl
      exact hbegins (hrest ▸ hends)
    have hpos := byteLength_pos hne
    have hmoved : ¬offset + byteLength src ≤ offset := by omega
    rw [hrest] at hat
    have hkind := hsofar.kind_eq hne
    dsimp only
    rw [if_neg hmoved, hkind, ok_bind]
    exact .passed hrest ⟨hends, _, hsofar.reads.toItem hne, hsofar.shows hne hat hkind⟩
  · intro err herr
    exact .refused herr

end CacheKeys.Template.Descent
