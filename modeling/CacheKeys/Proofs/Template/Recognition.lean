import Mathlib
import CacheKeys.Proofs.Template.Reading

/-! # What is read has a derivation

`Reads depth cs r` says what a reader `r` stands for after the characters `cs`: the finished nodes
derive from what lies before the place where it stands, and each open group and each unfinished
item from its own piece of the text.  One character keeps this (`Reads.step`), so a whole text does
(`Reads.run`).  With the theorems of the other direction the reader accepts exactly the grammar:
`parse_eq_ok_iff_derives`. -/

namespace CacheKeys.Template

/-! ### Characters of a quote -/

/-- All that a character can do to a quote that it does not end. -/
inductive Quoted.Unfinished.Grows : Quoted.Unfinished → Char → Quoted.Unfinished → Prop
  | escape {text : String} {c : Char} :
      c = '"' ∨ c = '\\' → Grows ⟨text, true⟩ c ⟨text.push c, false⟩
  | backslash {text : String} {c : Char} :
      c ≠ '"' → c ≠ '\\' → Grows ⟨text, true⟩ c ⟨(text.push '\\').push c, false⟩
  | waiting {text : String} : Grows ⟨text, false⟩ '\\' ⟨text, true⟩
  | plain {text : String} {c : Char} :
      c ≠ '"' → c ≠ '\\' → Grows ⟨text, false⟩ c ⟨text.push c, false⟩

theorem Quoted.Unfinished.grows_of_step {q q' : Quoted.Unfinished} {c : Char}
    (h : q.step c = .more q') : q.Grows c q' := by
  obtain ⟨text, escaped⟩ := q
  unfold Quoted.Unfinished.step at h
  cases escaped with
  | true =>
      simp only [if_true] at h
      split at h
      · next hc =>
        cases h
        exact .escape (by simpa [Quoted.needsEscape] using hc)
      · next hc =>
        have hc : c ≠ '"' ∧ c ≠ '\\' := by simpa [Quoted.needsEscape] using hc
        cases h
        exact .backslash hc.1 hc.2
  | false =>
      simp only [Bool.false_eq_true, if_false] at h
      split at h
      · cases h
      · next hquote =>
        split at h
        · next hslash =>
          obtain rfl : c = '\\' := by simpa using hslash
          cases h
          exact .waiting
        · next hslash =>
          cases h
          exact .plain (by simpa using hquote) (by simpa using hslash)

/-- Only a mark ends a quote, and only where no backslash waits for its meaning. -/
theorem Quoted.Unfinished.of_step_eq_closed {q : Quoted.Unfinished} {c : Char} {text : String}
    (h : q.step c = .closed text) : q = ⟨text, false⟩ ∧ c = '"' := by
  obtain ⟨text', escaped⟩ := q
  unfold Quoted.Unfinished.step at h
  cases escaped with
  | true =>
      simp only [if_true] at h
      split at h
      · cases h
      · cases h
  | false =>
      simp only [Bool.false_eq_true, if_false] at h
      split at h
      · next hc =>
        cases h
        exact ⟨rfl, by simpa using hc⟩
      · split at h
        · cases h
        · cases h

namespace Reader

/-! ### Unfinished quotes, items and groups -/

/-- An unfinished quote after `body`: a backslash at the end may be waiting for its meaning. -/
def QuoteReads (body : List Char) (q : Quoted.Unfinished) : Prop :=
  if q.escaped then ∃ body', body = body' ++ ['\\'] ∧ DerivesQuoted body' q.text
  else DerivesQuoted body q.text

/-- The draft of an item that starts at `pos` and is written as `src` so far. -/
structure DraftReads (room pos : ℕ) (src : List Char) (d : Draft) : Prop where
  offset : d.offset = pos
  source : d.source = String.ofList src
  isWord : d.isWord = src.all isWordChar
  parts : (d.literal = none ∧ EndsGroup src ∧ DerivesParts room pos src d.parts) ∨
    ∃ before last text, src = before ++ last ∧ d.literal = some text ∧ EndsGroup before ∧
      DerivesParts room pos before d.parts ∧ DerivesText last text

/-- The inside of a group at `pos` up to a place where an item may begin. -/
inductive ItemMayBegin (room pos : ℕ) : List Char → List Item → Prop
  | lead {lead : List Char} : Blanks lead → ItemMayBegin room pos lead []
  | gap {lead src gap : List Char} {items : List Item} :
      Blanks lead → DerivesItems room (pos + 1 + byteLength lead) src items → Blanks gap →
      gap ≠ [] → ItemMayBegin room pos (lead ++ src ++ gap) items

/-- An open group at `pos` whose inside is `body` so far, up to a place where an item may begin. -/
structure GroupReads (room pos : ℕ) (body : List Char) (g : Group) : Prop where
  opened : g.opened = pos
  source : g.source = String.ofList ('{' :: body)
  items : ItemMayBegin room pos body g.items

/-- The groups around a place, where `cs` is all that has been read before it. -/
def OuterReads (depth : ℕ) : List Level → List Char → List Expr → Prop
  | [], cs, nodes => DerivesNodes depth cs nodes
  | (g, d) :: outer, cs, nodes => ∃ before body src room,
      cs = before ++ '{' :: (body ++ src) ∧ OuterReads depth outer before nodes ∧
      outer.length + 1 + room = depth ∧ GroupReads room (byteLength before) body g ∧
      DraftReads room (byteLength before + 1 + byteLength body) src d

/-- What a reader stands for after the characters `cs`. -/
def Reads (depth : ℕ) (cs : List Char) (r : Reader) : Prop :=
  r.offset = byteLength cs ∧
  match r.place with
  | .outside run => ∃ before, cs = before ++ run.toList ∧ EndsGroup before ∧
      BraceFree run.toList ∧ DerivesNodes depth before r.nodes
  | .between g outer => ∃ before body room, cs = before ++ '{' :: body ∧
      OuterReads depth outer before r.nodes ∧ outer.length + 1 + room = depth ∧
      GroupReads room (byteLength before) body g
  | .inside g d outer => d.source ≠ "" ∧ OuterReads depth ((g, d) :: outer) cs r.nodes
  | .quoted g d opened q outer => ∃ before body d₀, cs = before ++ '"' :: body ∧
      opened = byteLength before ∧ d = body.foldl Draft.note (d₀.note '"') ∧
      OuterReads depth ((g, d₀) :: outer) before r.nodes ∧ QuoteReads body q

variable {depth room pos : ℕ}

theorem QuoteReads.start : QuoteReads [] Quoted.Unfinished.start := DerivesQuoted.nil

theorem QuoteReads.closed {body : List Char} {q : Quoted.Unfinished} {c : Char} {text : String}
    (h : QuoteReads body q) (hs : q.step c = .closed text) : c = '"' ∧ DerivesQuoted body text := by
  obtain ⟨rfl, rfl⟩ := Quoted.Unfinished.of_step_eq_closed hs
  exact ⟨rfl, h⟩

theorem QuoteReads.more {body : List Char} {q q' : Quoted.Unfinished} {c : Char}
    (h : QuoteReads body q) (hs : q.step c = .more q') : QuoteReads (body ++ [c]) q' := by
  cases Quoted.Unfinished.grows_of_step hs with
  | escape hc =>
      obtain ⟨body', rfl, hb⟩ := h
      rw [List.append_assoc]
      exact DerivesQuoted.escape hb hc
  | backslash hquote hslash =>
      obtain ⟨body', rfl, hb⟩ := h
      rw [List.append_assoc]
      exact DerivesQuoted.backslash hb hquote hslash
  | waiting => exact ⟨body, rfl, h⟩
  | plain hquote hslash => exact DerivesQuoted.plain h hquote hslash

/-- A reader in a quote goes on with it as long as the quote is unfinished. -/
theorem run_quoteReads {body : List Char} {q : Quoted.Unfinished} (h : QuoteReads body q)
    {nodes : List Expr} {g : Group} {d : Draft} {opened : ℕ} {outer : List Level} :
    Reader.run depth ⟨pos, nodes, .quoted g d opened Quoted.Unfinished.start outer⟩ body =
      .ok ⟨pos + byteLength body, nodes, .quoted g (body.foldl Draft.note d) opened q outer⟩ := by
  obtain ⟨text, escaped⟩ := q
  cases escaped with
  | false =>
      have hb : DerivesQuoted body text := h
      exact run_quoted hb
  | true =>
      obtain ⟨body', rfl, hb⟩ := h
      have hslash : advance depth (pos + byteLength body') nodes
          (.quoted g (body'.foldl Draft.note d) opened ⟨text, false⟩ outer) '\\' =
          .ok (nodes, .quoted g ((body' ++ ['\\']).foldl Draft.note d) opened ⟨text, true⟩
            outer) := by
        simp [advance, Quoted.Unfinished.step]
      rw [run_append_of_ok (run_quoted hb), run_singleton_of_advance hslash]
      simp [Nat.add_assoc]

theorem DraftReads.start (room pos : ℕ) : DraftReads room pos [] (Draft.start pos) :=
  ⟨rfl, rfl, rfl, .inl ⟨rfl, EndsGroup.nil, .nil⟩⟩

theorem DraftReads.allParts {src : List Char} {d : Draft} (h : DraftReads room pos src d) :
    DerivesParts room pos src d.allParts := by
  rcases h.parts with ⟨hl, _, hp⟩ | ⟨before, last, text, rfl, hl, he, hp, ht⟩
  · rwa [Draft.allParts, hl]
  · rw [Draft.allParts, hl]
    exact .text hp he ht

theorem DraftReads.readText {src src' : List Char} {d : Draft} {text : String}
    (h : DraftReads room pos src d) (ht : DerivesText src' text) :
    DraftReads room pos (src ++ src') (d.readText src' text) := by
  refine ⟨h.offset, by simp [Draft.readText, h.source], by simp [Draft.readText, h.isWord], ?_⟩
  rcases h.parts with ⟨hl, he, hp⟩ | ⟨before, last, text', rfl, hl, he, hp, ht'⟩
  · exact .inr ⟨src, src', text, rfl, by simp [Draft.readText, hl], he, hp, ht⟩
  · refine .inr ⟨before, last ++ src', text' ++ text, by simp, by simp [Draft.readText, hl], he,
      hp, .append ht' ht⟩

theorem DraftReads.pushGroup {src src' : List Char} {d : Draft} {e : Expr}
    (h : DraftReads room pos src d) (hg : DerivesGroup room (pos + byteLength src) src' e) :
    DraftReads room pos (src ++ src') (d.pushGroup (String.ofList src') e) := by
  obtain ⟨body, hb⟩ := hg.exists_body
  refine ⟨h.offset, by simp [Draft.pushGroup, h.source], ?_,
    .inl ⟨rfl, hg.endsGroup src, .group h.allParts hg⟩⟩
  simp [Draft.pushGroup, hb, isWordChar]

theorem DraftReads.toItem {src : List Char} {d : Draft} (h : DraftReads room pos src d)
    (hne : src ≠ []) : DerivesItem room pos src d.toItem := by
  have hi : d.toItem = itemOf pos src d.allParts := by
    simp only [Draft.toItem, itemOf, h.offset, h.source, h.isWord]
    rfl
  rw [hi]
  exact .parts h.allParts hne

theorem GroupReads.start (room pos : ℕ) : GroupReads room pos [] (Group.start pos) :=
  ⟨rfl, rfl, .lead Blanks.nil⟩

theorem ItemMayBegin.blank {body : List Char} {items : List Item} {c : Char}
    (h : ItemMayBegin room pos body items) (hc : Text.isBlank c = true) :
    ItemMayBegin room pos (body ++ [c]) items := by
  cases h with
  | lead hl => exact .lead (hl.append (Blanks.singleton hc))
  | gap hl hi hg hne =>
      rw [List.append_assoc]
      exact .gap hl hi (hg.append (Blanks.singleton hc)) (by simp)

theorem GroupReads.pushBlank {body : List Char} {g : Group} {c : Char}
    (h : GroupReads room pos body g) (hc : Text.isBlank c = true) :
    GroupReads room pos (body ++ [c]) (g.pushBlank c) :=
  ⟨h.opened, by simp [Group.pushBlank, h.source, ← String.toList_inj], h.items.blank hc⟩

/-- A finished item joins the items of its group. -/
theorem ItemMayBegin.item {body src : List Char} {items : List Item} {item : Item}
    (h : ItemMayBegin room pos body items)
    (hi : DerivesItem room (pos + 1 + byteLength body) src item) :
    ∃ lead src', body ++ src = lead ++ src' ∧ Blanks lead ∧
      DerivesItems room (pos + 1 + byteLength lead) src' (items ++ [item]) := by
  cases h with
  | lead hl => exact ⟨body, src, rfl, hl, .first hi⟩
  | @gap lead done gap _ hl hd hg hne =>
      refine ⟨lead, done ++ gap ++ src, by simp, hl, .next hd hg hne ?_⟩
      have hp : pos + 1 + byteLength lead + byteLength (done ++ gap) =
          pos + 1 + byteLength (lead ++ done ++ gap) := by
        simp [Nat.add_assoc]
      rwa [hp]

/-- What `closeGroup` closes: with its closing brace the text `src` derives every value of `g`. -/
def Closes (room pos : ℕ) (src : List Char) (g : Group) : Prop :=
  g.source.push '}' = String.ofList src ∧
  ∀ e, GroupMeans g.items e → DerivesGroup (room + 1) pos src e

theorem GroupReads.closes {body : List Char} {g : Group} (h : GroupReads room pos body g) :
    Closes room pos ('{' :: (body ++ ['}'])) g := by
  refine ⟨by simp [h.source, ← String.toList_inj], fun e hm => ?_⟩
  obtain ⟨opened, source, items⟩ := g
  obtain ⟨_, _, hi⟩ := h
  cases hi with
  | lead => cases hm
  | gap hl hi hg _ => exact .braces hl hi hg hm

theorem GroupReads.closes_pushItem {body src : List Char} {g : Group} {d : Draft}
    (h : GroupReads room pos body g) (hd : DraftReads room (pos + 1 + byteLength body) src d)
    (hne : src ≠ []) : Closes room pos ('{' :: (body ++ src ++ ['}'])) (g.pushItem d) := by
  refine ⟨by simp [Group.pushItem, h.source, hd.source, ← String.toList_inj], fun e hm => ?_⟩
  obtain ⟨lead, src', hs, hl, hi⟩ := h.items.item (hd.toItem hne)
  rw [hs]
  have := DerivesGroup.braces hl hi Blanks.nil hm
  rwa [List.append_nil] at this

theorem GroupReads.pushItem_pushBlank {body src : List Char} {g : Group} {d : Draft} {c : Char}
    (h : GroupReads room pos body g) (hd : DraftReads room (pos + 1 + byteLength body) src d)
    (hne : src ≠ []) (hc : Text.isBlank c = true) :
    GroupReads room pos (body ++ src ++ [c]) ((g.pushItem d).pushBlank c) := by
  obtain ⟨lead, src', hs, hl, hi⟩ := h.items.item (hd.toItem hne)
  refine ⟨h.opened, ?_, ?_⟩
  · simp [Group.pushBlank, Group.pushItem, h.source, hd.source, ← String.toList_inj]
  · rw [hs]
    exact .gap hl hi (Blanks.singleton hc) (by simp)

/-! ### One character -/

theorem reads_open {before : List Char} {nodes : List Expr} {outer : List Level} {p : Place}
    (h : OuterReads depth outer before nodes)
    (ho : openGroup depth (byteLength before) outer = .ok p) :
    Reads depth (before ++ ['{']) ⟨byteLength (before ++ ['{']), nodes, p⟩ := by
  unfold openGroup at ho
  split at ho
  · cases ho
  · next hd =>
    cases ho
    exact ⟨rfl, before, [], depth - (outer.length + 1), rfl, h, by omega, GroupReads.start _ _⟩

theorem reads_close {before src : List Char} {nodes nodes' : List Expr} {g : Group}
    {outer : List Level} {p : Place} (h : OuterReads depth outer before nodes)
    (hr : outer.length + 1 + room = depth) (hc : Closes room (byteLength before) src g)
    (hg : closeGroup nodes g outer = .ok (nodes', p)) :
    Reads depth (before ++ src) ⟨byteLength (before ++ src), nodes', p⟩ := by
  obtain ⟨hs, hv⟩ := hc
  unfold closeGroup at hg
  cases hval : g.value with
  | error e => simp [hval] at hg
  | ok e =>
      have hd := hv e (value_eq_ok_iff.1 hval)
      rw [hval] at hg
      cases outer with
      | nil =>
          cases hg
          refine ⟨rfl, before ++ src, by simp, hd.endsGroup before, BraceFree.nil, ?_⟩
          have hroom : room + 1 = depth := by simpa [Nat.add_comm] using hr
          exact .group h (hroom ▸ hd)
      | cons l outer =>
          obtain ⟨g', d⟩ := l
          cases hg
          obtain ⟨before', body, src', room', rfl, ho, hroom, hg', hd'⟩ := h
          have hr' : room' = room + 1 := by
            simp only [List.length_cons] at hr
            omega
          subst hr'
          have hp : byteLength before' + 1 + byteLength body + byteLength src' =
              byteLength (before' ++ '{' :: (body ++ src')) := by
            simp [utf8Size_brace]
            omega
          obtain ⟨inside, hb⟩ := hd.exists_body
          refine ⟨rfl, ?_, before', body, src' ++ src, room + 1, by simp, ho, hroom, hg', ?_⟩
          · intro he
            have := congrArg String.toList he
            simp [Draft.pushGroup, hs, hb] at this
          · rw [hs]
            exact hd'.pushGroup (hp ▸ hd)

theorem reads_readItem {cs : List Char} {nodes : List Expr} {g : Group} {d : Draft}
    {outer : List Level} {p : Place} {c : Char}
    (h : OuterReads depth ((g, d) :: outer) cs nodes) (hb : Text.isBlank c = false) (hr : c ≠ '}')
    (hi : readItem depth (byteLength cs) g d outer c = .ok p) :
    Reads depth (cs ++ [c]) ⟨byteLength (cs ++ [c]), nodes, p⟩ := by
  unfold readItem at hi
  split at hi
  · next hl =>
    simp only [beq_iff_eq] at hl
    subst hl
    exact reads_open h hi
  · next hl =>
    split at hi
    · next hq =>
      simp only [beq_iff_eq] at hq
      subst hq
      cases hi
      exact ⟨rfl, cs, [], d, by simp, rfl, rfl, h, QuoteReads.start⟩
    · next hq =>
      cases hi
      simp only [beq_iff_eq] at hl hq
      have hc : isWordChar c = true := isWordChar_iff.2 ⟨hb, hl, hr, hq⟩
      obtain ⟨before, body, src, room, rfl, ho, hroom, hg, hd⟩ := h
      rw [Draft.pushWord_eq_readText d hc]
      refine ⟨rfl, ?_, before, body, src ++ [c], room, by simp, ho, hroom, hg,
        hd.readText (.char hc)⟩
      intro he
      have := congrArg String.toList he
      simp [Draft.readText] at this

/-- At the place where an item may begin the reader has an empty draft of it. -/
theorem outerReads_start {before body : List Char} {nodes : List Expr} {g : Group}
    {outer : List Level} (h : OuterReads depth outer before nodes)
    (hr : outer.length + 1 + room = depth) (hg : GroupReads room (byteLength before) body g) :
    OuterReads depth ((g, Draft.start (byteLength (before ++ '{' :: body))) :: outer)
      (before ++ '{' :: body) nodes := by
  refine ⟨before, body, [], room, by simp, h, hr, hg, ?_⟩
  have hp : byteLength (before ++ '{' :: body) = byteLength before + 1 + byteLength body := by
    simp [utf8Size_brace, Nat.add_assoc]
  rw [hp]
  exact DraftReads.start _ _

/-- A run of text that ends adds a literal, unless it is empty. -/
theorem derivesNodes_withRun {before : List Char} {nodes : List Expr} {run : String}
    (hn : DerivesNodes depth before nodes) (he : EndsGroup before) (hb : BraceFree run.toList) :
    DerivesNodes depth (before ++ run.toList) (withRun nodes run) := by
  by_cases hz : run = ""
  · subst hz
    simpa [withRun] using hn
  · have hne : run.toList ≠ [] := fun h => hz (String.toList_eq_nil_iff.1 h)
    have := DerivesNodes.run hn he hne hb
    simpa [withRun, hz] using this

theorem outside_step {cs : List Char} {nodes nodes' : List Expr} {run : String} {p : Place}
    {c : Char} (h : Reads depth cs ⟨byteLength cs, nodes, .outside run⟩)
    (ha : advance depth (byteLength cs) nodes (.outside run) c = .ok (nodes', p)) :
    Reads depth (cs ++ [c]) ⟨byteLength (cs ++ [c]), nodes', p⟩ := by
  obtain ⟨_, before, hcs, he, hb, hn⟩ := h
  simp only [advance] at ha
  split at ha
  · next hl =>
    simp only [beq_iff_eq] at hl
    subst hl
    have ho : OuterReads depth [] cs (withRun nodes run) := hcs ▸ derivesNodes_withRun hn he hb
    obtain ⟨p', hg, hp⟩ := map_eq_ok ha
    cases hp
    exact reads_open ho hg
  · next hl =>
    split at ha
    · cases ha
    · next hr =>
      cases ha
      simp only [beq_iff_eq] at hl hr
      refine ⟨rfl, before, by simp [hcs], he, ?_, hn⟩
      rw [String.toList_push]
      refine hb.append fun d hd => ?_
      rw [List.mem_singleton.1 hd]
      exact ⟨hl, hr⟩

theorem quoted_step {cs : List Char} {nodes nodes' : List Expr} {g : Group} {d : Draft}
    {opened : ℕ} {q : Quoted.Unfinished} {outer : List Level} {p : Place} {c : Char}
    (h : Reads depth cs ⟨byteLength cs, nodes, .quoted g d opened q outer⟩)
    (ha : advance depth (byteLength cs) nodes (.quoted g d opened q outer) c = .ok (nodes', p)) :
    Reads depth (cs ++ [c]) ⟨byteLength (cs ++ [c]), nodes', p⟩ := by
  obtain ⟨_, before, body, d₀, hcs, hop, hd, ho, hq⟩ := h
  simp only [advance] at ha
  cases hs : q.step c with
  | more q' =>
      rw [hs] at ha
      cases ha
      exact ⟨rfl, before, body ++ [c], d₀, by simp [hcs], hop, by simp [hd], ho, hq.more hs⟩
  | closed text =>
      rw [hs] at ha
      obtain ⟨rfl, hb⟩ := hq.closed hs
      cases ha
      obtain ⟨before', body', src, room, rfl, ho', hroom, hg, hd'⟩ := ho
      have hs : ((d.note '"').extend text) = d₀.readText ('"' :: (body ++ ['"'])) text := by
        rw [hd, Draft.extend_note_eq_readText]
      rw [hs]
      refine ⟨rfl, ?_, before', body', src ++ '"' :: (body ++ ['"']), room, by simp [hcs], ho',
        hroom, hg, hd'.readText (.quoted hb)⟩
      intro he
      have := congrArg String.toList he
      simp [Draft.readText] at this

theorem between_step {cs : List Char} {nodes nodes' : List Expr} {g : Group}
    {outer : List Level} {p : Place} {c : Char}
    (h : Reads depth cs ⟨byteLength cs, nodes, .between g outer⟩)
    (ha : advance depth (byteLength cs) nodes (.between g outer) c = .ok (nodes', p)) :
    Reads depth (cs ++ [c]) ⟨byteLength (cs ++ [c]), nodes', p⟩ := by
  obtain ⟨_, before, body, room, rfl, ho, hroom, hg⟩ := h
  simp only [advance] at ha
  split at ha
  · next hb =>
    cases ha
    exact ⟨rfl, before, body ++ [c], room, by simp, ho, hroom, hg.pushBlank hb⟩
  · next hb =>
    split at ha
    · next hc =>
      simp only [beq_iff_eq] at hc
      subst hc
      have := reads_close ho hroom hg.closes ha
      rwa [List.append_assoc]
    · next hc =>
      obtain ⟨p', hi, hp⟩ := map_eq_ok ha
      cases hp
      exact reads_readItem (outerReads_start ho hroom hg) (by simpa using hb) (by simpa using hc) hi

theorem inside_step {cs : List Char} {nodes nodes' : List Expr} {g : Group} {d : Draft}
    {outer : List Level} {p : Place} {c : Char}
    (h : Reads depth cs ⟨byteLength cs, nodes, .inside g d outer⟩)
    (ha : advance depth (byteLength cs) nodes (.inside g d outer) c = .ok (nodes', p)) :
    Reads depth (cs ++ [c]) ⟨byteLength (cs ++ [c]), nodes', p⟩ := by
  obtain ⟨_, hne, ho⟩ := h
  obtain ⟨before, body, src, room, hcs, ho', hroom, hg, hd⟩ := id ho
  have hsrc : src ≠ [] := fun hz => hne (by simp [hd.source, hz])
  simp only [advance] at ha
  split at ha
  · next hb =>
    cases ha
    exact ⟨rfl, before, body ++ src ++ [c], room, by simp [hcs], ho', hroom,
      hg.pushItem_pushBlank hd hsrc hb⟩
  · next hb =>
    split at ha
    · next hc =>
      simp only [beq_iff_eq] at hc
      subst hc
      have := reads_close ho' hroom (hg.closes_pushItem hd hsrc) ha
      simpa [hcs] using this
    · next hc =>
      obtain ⟨p', hi, hp⟩ := map_eq_ok ha
      cases hp
      exact reads_readItem ho (by simpa using hb) (by simpa using hc) hi

/-- One character keeps what the reader stands for. -/
theorem Reads.step {cs : List Char} {r r' : Reader} {c : Char} (h : Reads depth cs r)
    (hs : r.step depth c = .ok r') : Reads depth (cs ++ [c]) r' := by
  obtain ⟨offset, nodes, place⟩ := r
  have hoff : offset = byteLength cs := h.1
  subst hoff
  obtain ⟨⟨nodes', p⟩, ha, hr⟩ := map_eq_ok hs
  have hr : ⟨byteLength (cs ++ [c]), nodes', p⟩ = r' := by
    rw [← hr, byteLength_append]
    simp
  subst hr
  cases place with
  | outside run => exact outside_step h ha
  | between g outer => exact between_step h ha
  | inside g d outer => exact inside_step h ha
  | quoted g d opened q outer => exact quoted_step h ha

/-! ### Whole texts -/

theorem Reads.run {cs : List Char} {r r' : Reader} {ds : List Char} (h : Reads depth cs r)
    (hr : r.run depth ds = .ok r') : Reads depth (cs ++ ds) r' :=
  run_invariant (P := Reads depth) Reads.step h hr

theorem Reads.start (depth : ℕ) : Reads depth [] Reader.start :=
  ⟨rfl, [], rfl, EndsGroup.nil, BraceFree.nil, .nil⟩

/-- A template that ends outside braces derives the nodes that the reader has for it. -/
theorem Reads.derives {cs : List Char} {r : Reader} {nodes : List Expr} (h : Reads depth cs r)
    (hf : r.finish = .ok nodes) : Derives depth cs nodes := by
  obtain ⟨offset, done, place⟩ := r
  obtain ⟨_, h⟩ := h
  cases place with
  | outside run =>
      obtain ⟨before, rfl, he, hb, hn⟩ := h
      have hd := derivesNodes_withRun hn he hb
      simp only [finish] at hf
      split at hf
      · next hz =>
        simp only [Bool.and_eq_true, String.isEmpty_iff, List.isEmpty_iff] at hz
        obtain ⟨rfl, rfl⟩ := hz
        cases hf
        exact .inl ⟨by simpa using hn.src_eq_nil_iff.2 rfl, rfl⟩
      · next hz =>
        cases hf
        refine .inr ⟨fun hs => hz ?_, hd⟩
        obtain ⟨rfl, hr⟩ := List.append_eq_nil_iff.1 hs
        simp only [Bool.and_eq_true, String.isEmpty_iff, List.isEmpty_iff]
        exact ⟨String.toList_eq_nil_iff.1 hr, hn.src_eq_nil_iff.1 rfl⟩
  | between g outer => cases hf
  | inside g d outer => cases hf
  | quoted g d opened q outer => cases hf

end Reader

/-- Reads a text of any length. -/
def read (depth : ℕ) (cs : List Char) : Except CompileError (List Expr) :=
  match Reader.start.run depth cs with
  | .error e => .error e
  | .ok r => r.finish

theorem parse_eq_read {limits : Limits} {template : String}
    (h : template.utf8ByteSize ≤ limits.maxLength) :
    parse limits template = read limits.maxDepth template.toList := by
  rw [parse, if_neg (Nat.not_lt.2 h)]
  rfl

theorem le_maxLength_of_parse {limits : Limits} {template : String} {nodes : List Expr}
    (h : parse limits template = .ok nodes) : template.utf8ByteSize ≤ limits.maxLength := by
  by_contra hl
  rw [parse, if_pos (Nat.not_le.1 hl)] at h
  cases h

/-- A text is read as `nodes` exactly if it derives them. -/
theorem read_eq_ok_iff {depth : ℕ} {cs : List Char} {nodes : List Expr} :
    read depth cs = .ok nodes ↔ Derives depth cs nodes := by
  constructor
  · intro h
    cases hr : Reader.start.run depth cs with
    | error e => simp [read, hr] at h
    | ok r =>
        have hf : r.finish = .ok nodes := by simpa [read, hr] using h
        exact ((Reader.Reads.start depth).run hr).derives hf
  · rintro (⟨rfl, rfl⟩ | ⟨hne, hd⟩)
    · rfl
    · obtain ⟨done, run, hr, hn, _⟩ := Reader.run_nodes hd
      have hz : (run.isEmpty && done.isEmpty) = false := by
        refine Bool.eq_false_iff.2 fun hz => hne (hd.src_eq_nil_iff.2 ?_)
        simp only [Bool.and_eq_true, String.isEmpty_iff, List.isEmpty_iff] at hz
        rw [← hn, hz.1, hz.2]
        rfl
      simp [read, hr, Reader.finish, hz, hn]

/-- A template is accepted exactly if it is short enough and derives the nodes it is read as. -/
theorem parse_eq_ok_iff_derives (limits : Limits) (template : String) (nodes : List Expr) :
    parse limits template = .ok nodes ↔
      template.utf8ByteSize ≤ limits.maxLength ∧
        Derives limits.maxDepth template.toList nodes := by
  constructor
  · intro h
    have hl := le_maxLength_of_parse h
    rw [parse_eq_read hl] at h
    exact ⟨hl, read_eq_ok_iff.1 h⟩
  · rintro ⟨hl, hd⟩
    rw [parse_eq_read hl]
    exact read_eq_ok_iff.2 hd

end CacheKeys.Template
