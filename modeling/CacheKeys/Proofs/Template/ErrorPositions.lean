import Mathlib
import CacheKeys.Proofs.Template.Braces
import CacheKeys.Proofs.Template.Offsets

/-! # Where errors point

`CompileError.PointsAt` says what stands in a template at the position of an error: a brace without
a partner, the mark of a quote without an end, the brace of a group that holds nothing, a number
that is no index, or a head that cannot be called.  A template that is refused is read up to the
character that is refused or up to its end (`Reader.run_eq_error`); what the reader has read by then
has derivations (`Reader.Reads`) and is tracked by the scan of its braces (`Reader.Tracks`), and the
error is read off both (`parse_error_pointsAt`). -/

namespace CacheKeys.Template

/-! ### Groups without a value -/

/-- Why the items of a group at a byte position stand for no node; `GroupMeans` has the others. -/
inductive GroupFails (opened : ℕ) : List Item → CompileError → Prop
  | empty : GroupFails opened [] (.emptyExpression opened)
  | index {head : Item} :
      head.isWord = true → Text.isNumeral head.source.toList = true →
      2 ^ 64 ≤ Text.numeralValue head.source.toList →
      GroupFails opened [head] (.invalidArgumentIndex head.source head.offset)
  | head {head : Item} {args : List Item} :
      head.isWord = false → args ≠ [] →
      GroupFails opened (head :: args) (.unknownFunction head.source head.offset)

theorem groupFails_of_value {g : Group} {err : CompileError} (h : g.value = .error err) :
    GroupFails g.opened g.items err := by
  have hbound : Text.indexBound = 2 ^ 64 := by norm_num [Text.indexBound]
  obtain ⟨opened, source, items⟩ := g
  simp only [Group.value, Text.natBelow?] at h
  rcases items with _ | ⟨head, _ | ⟨arg, args⟩⟩
  · cases h
    exact .empty
  · cases hw : head.isWord with
    | false => simp [hw] at h
    | true =>
        cases hn : Text.isNumeral head.source.toList with
        | false => simp [hw, hn] at h
        | true =>
            by_cases hv : Text.numeralValue head.source.toList < Text.indexBound
            · simp [hw, hn, hv] at h
            · simp only [hw, hn, hv, if_true, and_false, if_false, Except.error.injEq] at h
              rw [hbound, Nat.not_lt] at hv
              exact h ▸ .index hw hn hv
  · cases hw : head.isWord with
    | true => simp [hw] at h
    | false =>
        simp only [hw, Bool.false_eq_true, if_false, Except.error.injEq] at h
        exact h ▸ .head hw (List.cons_ne_nil arg args)

/-- What stands between the braces of a group at `pos`, and its items. -/
inductive GroupInside (room pos : ℕ) : List Char → List Item → Prop
  | blank {inside : List Char} : Blanks inside → GroupInside room pos inside []
  | items {lead src trail : List Char} {items : List Item} :
      Blanks lead → DerivesItems room (pos + 1 + byteLength lead) src items → Blanks trail →
      GroupInside room pos (lead ++ src ++ trail) items

/-! ### Items -/

variable {room pos : ℕ}

theorem DerivesItems.ne_nil {src : List Char} {items : List Item}
    (h : DerivesItems room pos src items) : items ≠ [] := by
  cases h with
  | first => simp
  | next => simp

theorem DerivesItems.singleton {src : List Char} {head : Item}
    (h : DerivesItems room pos src [head]) : DerivesItem room pos src head := by
  generalize he : [head] = items at h
  cases h with
  | first h =>
      obtain rfl := List.singleton_inj.1 he
      exact h
  | next hi _ _ _ =>
      have hlength := congrArg List.length he
      rw [List.length_append] at hlength
      have hpos := List.length_pos_iff.2 hi.ne_nil
      simp only [List.length_singleton] at hlength
      omega

/-- Items with a second one are the first, blanks, and the others.  The derivation adds items at
the end, so the others grow with it. -/
theorem DerivesItems.uncons : ∀ {src : List Char} {items : List Item},
    DerivesItems room pos src items → ∀ {head : Item} {args : List Item}, items = head :: args →
    args ≠ [] → ∃ first gap rest, src = first ++ gap ++ rest ∧ DerivesItem room pos first head ∧
      Blanks gap ∧ gap ≠ [] ∧ DerivesItems room (pos + byteLength (first ++ gap)) rest args
  | _, _, .first _, _, _, he, hargs => by
      obtain ⟨-, rfl⟩ := List.cons.inj he
      exact absurd rfl hargs
  | _, _, @DerivesItems.next _ _ src gap src' items item hi hgap hne hitem, head, args, he, _ => by
      obtain ⟨head', args', hitems⟩ := List.exists_cons_of_ne_nil hi.ne_nil
      rw [hitems] at he
      obtain ⟨rfl, rfl⟩ := List.cons.inj he
      by_cases hargs : args' = []
      · rw [hargs] at hitems ⊢
        exact ⟨src, gap, src', rfl, (hitems ▸ hi).singleton, hgap, hne, .first hitem⟩
      · obtain ⟨first, gap', rest, hsrc, hfirst, hgap', hne', hrest⟩ := hi.uncons hitems hargs
        refine ⟨first, gap', rest ++ gap ++ src', by simp [hsrc], hfirst, hgap', hne', ?_⟩
        refine .next hrest hgap hne ?_
        have hpos : pos + byteLength (first ++ gap') + byteLength (rest ++ gap) =
            pos + byteLength (src ++ gap) := by
          rw [hsrc]
          simp only [byteLength_append]
          omega
        rwa [hpos]

theorem DerivesText.quote_or_word {src : List Char} {text : String} (h : DerivesText src text) :
    '"' ∈ src ∨ src.all isWordChar = true := by
  induction h with
  | char hc => exact .inr (by simpa using hc)
  | quoted => exact .inl List.mem_cons_self
  | append _ _ ih ih' =>
      rcases ih with hq | hw
      · exact .inl (List.mem_append_left _ hq)
      · rcases ih' with hq' | hw'
        · exact .inl (List.mem_append_right _ hq')
        · exact .inr (by rw [List.all_append, hw, hw', Bool.and_self])

theorem DerivesParts.quote_or_brace_or_word : ∀ {src : List Char} {parts : List Expr},
    DerivesParts room pos src parts → '"' ∈ src ∨ '{' ∈ src ∨ src.all isWordChar = true
  | _, _, .nil => .inr (.inr rfl)
  | _, _, .text h _ ht => by
      rcases h.quote_or_brace_or_word with hq | hb | hw
      · exact .inl (List.mem_append_left _ hq)
      · exact .inr (.inl (List.mem_append_left _ hb))
      · rcases ht.quote_or_word with hq' | hw'
        · exact .inl (List.mem_append_right _ hq')
        · exact .inr (.inr (by rw [List.all_append, hw, hw', Bool.and_self]))
  | _, _, .group _ hg => by
      obtain ⟨body, rfl⟩ := hg.exists_body
      exact .inr (.inl (List.mem_append_right _ List.mem_cons_self))

/-- An item that is no word holds a quote or a group. -/
theorem DerivesItem.quote_or_brace {src : List Char} {item : Item}
    (h : DerivesItem room pos src item) (hw : item.isWord = false) : '"' ∈ src ∨ '{' ∈ src := by
  cases h with
  | parts hp _ =>
      have hword : src.all isWordChar = false := hw
      rcases hp.quote_or_brace_or_word with hq | hb | hall
      · exact .inl hq
      · exact .inr hb
      · rw [hall] at hword
        cases hword

theorem DerivesItem.source_offset {src : List Char} {item : Item}
    (h : DerivesItem room pos src item) : item.source = String.ofList src ∧ item.offset = pos := by
  cases h
  exact ⟨rfl, rfl⟩

/-! ### Positions of errors -/

/-- What stands in a template at the position of an error, and what the error carries of it. -/
inductive CompileError.PointsAt (cs : List Char) : CompileError → Prop
  -- an opening brace that is never closed
  | unclosed {k pos : ℕ} : Unclosed cs k pos → PointsAt cs (.unbalancedBraces pos)
  -- a closing brace where none is open
  | stray {before after : List Char} :
      cs = before ++ '}' :: after → openQuote? before = none → openBraces before = 0 →
      PointsAt cs (.unbalancedBraces (byteLength before))
  -- the mark of a quote in braces that has no end
  | quote {before body : List Char} :
      cs = before ++ '"' :: body → openQuote? before = none → 0 < openBraces before →
      Quoted.read? ('"' :: body) = none → PointsAt cs (.unterminatedQuote (byteLength before))
  -- the opening brace of a group without items
  | empty {before inside after : List Char} :
      cs = before ++ '{' :: (inside ++ '}' :: after) → openQuote? before = none → Blanks inside →
      PointsAt cs (.emptyExpression (byteLength before))
  -- a number alone in a group, which does not fit into 64 bits
  | index {before lead numeral trail after : List Char} :
      cs = before ++ '{' :: (lead ++ numeral ++ trail ++ '}' :: after) →
      openQuote? before = none → Blanks lead → Blanks trail →
      Text.isNumeral numeral = true → 2 ^ 64 ≤ Text.numeralValue numeral →
      PointsAt cs
        (.invalidArgumentIndex (String.ofList numeral) (byteLength (before ++ '{' :: lead)))
  -- the head of a group with arguments, which is no word
  | head {room : ℕ} {before lead head gap rest trail after : List Char} {item : Item}
      {args : List Item} :
      cs = before ++ '{' :: (lead ++ (head ++ gap ++ rest) ++ trail ++ '}' :: after) →
      openQuote? before = none → Blanks lead → Blanks gap → gap ≠ [] → Blanks trail →
      DerivesItem room (byteLength (before ++ '{' :: lead)) head item → '"' ∈ head ∨ '{' ∈ head →
      DerivesItems room (byteLength (before ++ '{' :: lead) + byteLength (head ++ gap)) rest args →
      PointsAt cs (.unknownFunction (String.ofList head) (byteLength (before ++ '{' :: lead)))

/-- Every such position is that of a character of the template. -/
theorem CompileError.PointsAt.exists_split {cs : List Char} {err : CompileError}
    (h : err.PointsAt cs) {offset : ℕ} (ho : err.offset? = some offset) :
    ∃ before after, cs = before ++ after ∧ after ≠ [] ∧ byteLength before = offset := by
  cases h with
  | unclosed h =>
      obtain ⟨before, after, rfl, rfl, -⟩ := h
      cases ho
      exact ⟨before, _, rfl, List.cons_ne_nil _ _, rfl⟩
  | stray h =>
      cases ho
      exact ⟨_, _, h, List.cons_ne_nil _ _, rfl⟩
  | quote h =>
      cases ho
      exact ⟨_, _, h, List.cons_ne_nil _ _, rfl⟩
  | empty h =>
      cases ho
      exact ⟨_, _, h, List.cons_ne_nil _ _, rfl⟩
  | @index before lead numeral trail after h =>
      cases ho
      exact ⟨before ++ '{' :: lead, numeral ++ trail ++ '}' :: after, by simp [h], by simp, rfl⟩
  | @head room before lead head gap rest trail after item args h =>
      cases ho
      exact ⟨before ++ '{' :: lead, head ++ gap ++ rest ++ trail ++ '}' :: after, by simp [h],
        by simp, rfl⟩

theorem pointsAt_of_groupFails {cs before inside after : List Char} {items : List Item}
    {err : CompileError} (hcs : cs = before ++ '{' :: (inside ++ '}' :: after))
    (hquote : openQuote? before = none) (hi : GroupInside room (byteLength before) inside items)
    (hf : GroupFails (byteLength before) items err) : err.PointsAt cs := by
  have hpos : ∀ lead, byteLength before + 1 + byteLength lead =
      byteLength (before ++ '{' :: lead) := by
    intro lead
    simp only [byteLength_append, byteLength_cons, utf8Size_brace.1]
    omega
  cases hi with
  | blank hb =>
      cases hf
      exact .empty hcs hquote hb
  | @items lead src trail items hl hi ht =>
      rw [hpos] at hi
      cases hf with
      | empty => exact absurd rfl hi.ne_nil
      | @index head hw hn hv =>
          obtain ⟨hsource, hoffset⟩ := hi.singleton.source_offset
          rw [hsource, String.toList_ofList] at hn hv
          rw [hsource, hoffset]
          exact .index hcs hquote hl ht hn hv
      | @head head args hw hargs =>
          obtain ⟨first, gap, rest, rfl, hfirst, hgap, hne, hrest⟩ := hi.uncons rfl hargs
          obtain ⟨hsource, hoffset⟩ := hfirst.source_offset
          have hholds := hfirst.quote_or_brace hw
          rw [hsource, hoffset]
          exact .head hcs hquote hl hgap hne ht hfirst hholds hrest

namespace Reader

variable {depth : ℕ}

/-! ### Where reading stops -/

theorem map_eq_error {α β : Type} {f : α → β} {x : Except CompileError α} {err : CompileError}
    (h : x.map f = .error err) : x = .error err := by
  cases x with
  | error e => exact congrArg _ (Except.error.inj h)
  | ok a => cases h

/-- Why a reader at a place refuses a character. -/
inductive Refuses (depth offset : ℕ) : Place → Char → CompileError → Prop
  | deep {place : Place} : Refuses depth offset place '{' (.nestingTooDeep depth)
  | stray {run : String} : Refuses depth offset (.outside run) '}' (.unbalancedBraces offset)
  | between {g : Group} {outer : List Level} {err : CompileError} :
      g.value = .error err → Refuses depth offset (.between g outer) '}' err
  | inside {g : Group} {d : Draft} {outer : List Level} {err : CompileError} :
      (g.pushItem d).value = .error err → Refuses depth offset (.inside g d outer) '}' err

variable {offset : ℕ} {nodes : List Expr} {g : Group} {d : Draft} {outer : List Level}
  {place : Place} {err : CompileError} {c : Char}

theorem openGroup_eq_error (h : openGroup depth offset outer = .error err) :
    err = .nestingTooDeep depth := by
  unfold openGroup at h
  split at h
  · exact (Except.error.inj h).symm
  · cases h

theorem readItem_eq_error (h : readItem depth offset g d outer c = .error err) :
    c = '{' ∧ err = .nestingTooDeep depth := by
  unfold readItem at h
  split at h
  · next hc => exact ⟨by simpa using hc, openGroup_eq_error h⟩
  · split at h
    · cases h
    · cases h

theorem closeGroup_eq_error (h : closeGroup nodes g outer = .error err) :
    g.value = .error err := by
  unfold closeGroup at h
  cases hv : g.value with
  | error e =>
      rw [hv] at h
      obtain rfl : e = err := Except.error.inj h
      rfl
  | ok e =>
      rw [hv] at h
      cases outer with
      | nil => cases h
      | cons l outer => cases h

theorem refuses_of_advance (h : advance depth offset nodes place c = .error err) :
    Refuses depth offset place c err := by
  cases place with
  | outside run =>
      simp only [advance] at h
      split at h
      · next hc =>
        obtain rfl : c = '{' := by simpa using hc
        obtain rfl := openGroup_eq_error (map_eq_error h)
        exact .deep
      · split at h
        · next hc =>
          obtain rfl : c = '}' := by simpa using hc
          cases h
          exact .stray
        · cases h
  | between g outer =>
      simp only [advance] at h
      split at h
      · cases h
      · split at h
        · next hc =>
          obtain rfl : c = '}' := by simpa using hc
          exact .between (closeGroup_eq_error h)
        · obtain ⟨rfl, rfl⟩ := readItem_eq_error (map_eq_error h)
          exact .deep
  | inside g d outer =>
      simp only [advance] at h
      split at h
      · cases h
      · split at h
        · next hc =>
          obtain rfl : c = '}' := by simpa using hc
          exact .inside (closeGroup_eq_error h)
        · obtain ⟨rfl, rfl⟩ := readItem_eq_error (map_eq_error h)
          exact .deep
  | quoted g d opened q outer =>
      simp only [advance] at h
      cases hq : q.step c with
      | closed text =>
          rw [hq] at h
          cases h
      | more q' =>
          rw [hq] at h
          cases h

/-- Why a text may not end at a place. -/
inductive EndsEarly : Place → CompileError → Prop
  | between (g : Group) (outer : List Level) :
      EndsEarly (.between g outer) (.unbalancedBraces g.opened)
  | inside (g : Group) (d : Draft) (outer : List Level) :
      EndsEarly (.inside g d outer) (.unbalancedBraces g.opened)
  | quoted (g : Group) (d : Draft) (opened : ℕ) (q : Quoted.Unfinished) (outer : List Level) :
      EndsEarly (.quoted g d opened q outer) (.unterminatedQuote opened)

theorem endsEarly_of_finish {r : Reader} (h : r.finish = .error err) : EndsEarly r.place err := by
  obtain ⟨offset, nodes, place⟩ := r
  cases place with
  | outside run =>
      simp only [finish] at h
      split at h
      · cases h
      · cases h
  | between g outer =>
      cases h
      exact .between g outer
  | inside g d outer =>
      cases h
      exact .inside g d outer
  | quoted g d opened q outer =>
      cases h
      exact .quoted g d opened q outer

/-- A text that is refused is read up to the character that is refused. -/
theorem run_eq_error {cs : List Char} {r : Reader} (h : r.run depth cs = .error err) :
    ∃ before c after r', cs = before ++ c :: after ∧ r.run depth before = .ok r' ∧
      r'.step depth c = .error err := by
  induction cs generalizing r with
  | nil => cases h
  | cons c cs ih =>
      rw [run_cons] at h
      cases hs : r.step depth c with
      | error e =>
          rw [hs] at h
          obtain rfl : e = err := Except.error.inj h
          exact ⟨[], c, cs, r, rfl, rfl, hs⟩
      | ok r₁ =>
          rw [hs] at h
          obtain ⟨before, c', after, r', rfl, hr, hs'⟩ := ih h
          refine ⟨c :: before, c', after, r', rfl, ?_, hs'⟩
          rw [run_cons, hs]
          exact hr

/-! ### Errors of a reader -/

theorem append_inj_of_byteLength {before before' rest rest' : List Char}
    (h : before ++ rest = before' ++ rest') (hl : byteLength before = byteLength before') :
    before = before' := by
  have hnil : ∀ more, byteLength more = 0 → more = [] := by
    intro more hmore
    by_contra hne
    have hpos := byteLength_pos hne
    omega
  rcases List.append_eq_append_iff.1 h with ⟨more, rfl, -⟩ | ⟨more, rfl, -⟩
  · rw [byteLength_append] at hl
    rw [hnil more (by omega), List.append_nil]
  · rw [byteLength_append] at hl
    rw [hnil more (by omega), List.append_nil]

/-- A brace that a group begins with stands outside quotes. -/
theorem openQuote?_of_unclosed {before inside : List Char} {k : ℕ}
    (h : Unclosed (before ++ '{' :: inside) k (byteLength before)) : openQuote? before = none := by
  obtain ⟨before', after, hcs, hpos, hquote, -⟩ := h
  have hbefore : before' = before := append_inj_of_byteLength hcs.symm hpos
  rwa [hbefore] at hquote

/-- The inside of the innermost group of a reader between two items. -/
theorem Reads.groupInside_between {cs : List Char}
    (h : Reads depth cs ⟨offset, nodes, .between g outer⟩) :
    ∃ before inside room, cs = before ++ '{' :: inside ∧ g.opened = byteLength before ∧
      GroupInside room (byteLength before) inside g.items := by
  obtain ⟨-, before, inside, room, hcs, -, -, hopened, -, hitems⟩ := h
  refine ⟨before, inside, room, hcs, hopened, ?_⟩
  generalize g.items = items at hitems
  cases hitems with
  | lead hl => exact .blank hl
  | gap hl hi hg _ => exact .items hl hi hg

/-- The inside of the innermost group of a reader in an item, with this item. -/
theorem Reads.groupInside_inside {cs : List Char}
    (h : Reads depth cs ⟨offset, nodes, .inside g d outer⟩) :
    ∃ before inside room, cs = before ++ '{' :: inside ∧ g.opened = byteLength before ∧
      GroupInside room (byteLength before) inside (g.pushItem d).items := by
  obtain ⟨-, hne, before, body, src, room, hcs, -, -, hg, hd⟩ := h
  have hsrc : src ≠ [] := fun hz => hne (by simp [hd.source, hz])
  obtain ⟨lead, src', hsplit, hl, hi⟩ := hg.items.item (hd.toItem hsrc)
  have hinside := GroupInside.items hl hi Blanks.nil
  rw [List.append_nil, ← hsplit] at hinside
  exact ⟨before, body ++ src, room, hcs, hg.opened, hinside⟩

/-- A character that is refused, unless for the depth of its nesting, makes an error that points at
what has been read with it. -/
theorem pointsAt_of_step {cs after : List Char} {r : Reader} (hr : Reads depth cs r)
    (ht : Tracks cs r) (hs : r.step depth c = .error err) :
    err = .nestingTooDeep depth ∨ err.PointsAt (cs ++ c :: after) := by
  obtain ⟨offset, nodes, place⟩ := r
  -- at both places in a group a closing brace is refused because the group has no value
  have hgroup : ∀ {g : Group} {rest : List ℕ} {before inside : List Char} {room : ℕ},
      cs = before ++ '{' :: inside → g.opened = byteLength before →
      GroupInside room (byteLength before) inside g.items → AllUnclosed cs (g.opened :: rest) →
      g.value = .error err → err.PointsAt (cs ++ '}' :: after) := by
    rintro g rest before inside room rfl hopened hinside hunclosed hv
    have hquote := openQuote?_of_unclosed (hopened ▸ hunclosed.1)
    have hfails := groupFails_of_value hv
    rw [hopened] at hfails
    have hcs : (before ++ '{' :: inside) ++ '}' :: after =
        before ++ '{' :: (inside ++ '}' :: after) := by
      simp
    exact pointsAt_of_groupFails hcs hquote hinside hfails
  have hoffset : offset = byteLength cs := ht.offset
  cases refuses_of_advance (map_eq_error hs) with
  | deep => exact .inl rfl
  | stray =>
      rw [hoffset]
      exact .inr (.stray rfl ht.follows.quote ht.follows.opened)
  | between hv =>
      obtain ⟨before, inside, room, hcs, hopened, hinside⟩ := hr.groupInside_between
      exact .inr (hgroup hcs hopened hinside ht.unclosed hv)
  | inside hv =>
      obtain ⟨before, inside, room, hcs, hopened, hinside⟩ := hr.groupInside_inside
      exact .inr (hgroup (g := Group.pushItem _ _) hcs hopened hinside ht.unclosed hv)

/-- A text that ends too early makes an error that points at what is open. -/
theorem pointsAt_of_finish {cs : List Char} {r : Reader} (ht : Tracks cs r)
    (hf : r.finish = .error err) : err.PointsAt cs := by
  have hearly := endsEarly_of_finish hf
  obtain ⟨offset, nodes, place⟩ := r
  cases hearly with
  | between g outer => exact .unclosed ht.unclosed.1
  | inside g d outer => exact .unclosed ht.unclosed.1
  | quoted g d opened q outer =>
      obtain ⟨before, body, hcs, hpos, hquote, hopen, hfinish⟩ := ht.quote rfl
      have hnone : Quoted.Unfinished.start.finish body = none := by
        have hbody := hfinish []
        rwa [List.append_nil] at hbody
      rw [← hpos]
      exact .quote hcs hquote hopen hnone

end Reader

/-! ### Errors of templates -/

theorem parse_eq_error_of_le {limits : Limits} {template : String} {err : CompileError}
    (hl : template.utf8ByteSize ≤ limits.maxLength) (h : parse limits template = .error err) :
    err = .nestingTooDeep limits.maxDepth ∨ err.PointsAt template.toList := by
  rw [parse_eq_read hl] at h
  cases hr : Reader.start.run limits.maxDepth template.toList with
  | ok r =>
      have hf : r.finish = .error err := by simpa [read, hr] using h
      have ht : Reader.Tracks template.toList r := Reader.Tracks.start.run hr
      exact .inr (Reader.pointsAt_of_finish ht hf)
  | error err' =>
      obtain rfl : err' = err := by simpa [read, hr] using h
      obtain ⟨before, c, after, r, hcs, hrun, hs⟩ := Reader.run_eq_error hr
      rw [hcs]
      exact Reader.pointsAt_of_step ((Reader.Reads.start limits.maxDepth).run hrun)
        (Reader.Tracks.start.run hrun) hs

/-- A template that is longer than the limit is refused for this, whatever else is wrong with it,
and only such a template is. -/
theorem parse_eq_templateTooLong_iff {limits : Limits} {template : String} {length limit : ℕ} :
    parse limits template = .error (.templateTooLong length limit) ↔
      limits.maxLength < template.utf8ByteSize ∧ length = template.utf8ByteSize ∧
        limit = limits.maxLength := by
  constructor
  · intro h
    by_cases hl : limits.maxLength < template.utf8ByteSize
    · rw [parse, if_pos hl] at h
      cases h
      exact ⟨hl, rfl, rfl⟩
    · rcases parse_eq_error_of_le (Nat.not_lt.1 hl) h with herr | herr
      · cases herr
      · cases herr
  · rintro ⟨hl, rfl, rfl⟩
    rw [parse, if_pos hl]

/-- Every error with a position points at what it names, at a character of the template. -/
theorem parse_error_pointsAt (limits : Limits) (template : String) :
    (∀ err offset, parse limits template = .error err → err.offset? = some offset →
      (∃ before after, template.toList = before ++ after ∧ after ≠ [] ∧
        byteLength before = offset) ∧
      err.PointsAt template.toList) ∧
    ∀ length limit, parse limits template = .error (.templateTooLong length limit) ↔
      limits.maxLength < template.utf8ByteSize ∧ length = template.utf8ByteSize ∧
        limit = limits.maxLength := by
  refine ⟨fun err offset h ho => ?_, fun length limit => parse_eq_templateTooLong_iff⟩
  have hpoints : err.PointsAt template.toList := by
    by_cases hl : limits.maxLength < template.utf8ByteSize
    · rw [parse, if_pos hl] at h
      cases h
      cases ho
    · rcases parse_eq_error_of_le (Nat.not_lt.1 hl) h with rfl | hpoints
      · cases ho
      · exact hpoints
  exact ⟨hpoints.exists_split ho, hpoints⟩

theorem parse_error_pointsAt_behind_accents :
    parse Limits.standard "é\x7b\"f\" x\x7d" = .error (.unknownFunction "\"f\"" 3) ∧
    (CompileError.unknownFunction "\"f\"" 3).PointsAt "é\x7b\"f\" x\x7d".toList ∧
    parse Limits.standard "é\x7bf \x7bg \"ü\\\"\x7d" = .error (.unterminatedQuote 8) ∧
    (CompileError.unterminatedQuote 8).PointsAt "é\x7bf \x7bg \"ü\\\"\x7d".toList ∧
    parse Limits.standard "é\x7bf \x7bg\x7d" = .error (.unbalancedBraces 2) ∧
    (CompileError.unbalancedBraces 2).PointsAt "é\x7bf \x7bg\x7d".toList ∧
    (parse ⟨32, 2⟩ "a\x7d\x7d" = .error (.templateTooLong 3 2) ↔ 2 < 3 ∧ 3 = 3 ∧ 2 = 2) := by
  have hhead : parse Limits.standard "é\x7b\"f\" x\x7d" = .error (.unknownFunction "\"f\"" 3) := by
    decide +kernel
  have hquote : parse Limits.standard "é\x7bf \x7bg \"ü\\\"\x7d" =
      .error (.unterminatedQuote 8) := by
    decide +kernel
  have hbrace : parse Limits.standard "é\x7bf \x7bg\x7d" = .error (.unbalancedBraces 2) := by
    decide +kernel
  refine ⟨hhead, ?_, hquote, ?_, hbrace, ?_, ?_⟩
  · exact ((parse_error_pointsAt Limits.standard _).1 _ 3 hhead rfl).2
  · exact ((parse_error_pointsAt Limits.standard _).1 _ 8 hquote rfl).2
  · exact ((parse_error_pointsAt Limits.standard _).1 _ 2 hbrace rfl).2
  · exact (parse_error_pointsAt ⟨32, 2⟩ "a\x7d\x7d").2 3 2

end CacheKeys.Template
