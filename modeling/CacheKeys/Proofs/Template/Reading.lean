import Mathlib
import CacheKeys.Proofs.Template.Grammar

/-! # Derivations are read

What the reader does on a text that has a derivation, one theorem for each relation of the grammar:
`run_text` for runs of text inside an item, `run_parts`, `run_items` and `run_group` for the inside
of braces, `run_nodes` for a template.  Each follows the derivation from left to right; the places
between the pieces are reached by `run_append`.  The last section is `value_eq_ok_iff`: the reader
takes a closed group for a node exactly if `GroupMeans` does. -/

namespace CacheKeys.Template

/-! ### Drafts and groups after a piece of text -/

/-- The group after more of it has been read, with no new item. -/
def Group.extend (g : Group) (cs : List Char) : Group :=
  { g with source := g.source ++ String.ofList cs }

/-- The draft after a run of text. -/
def Draft.readText (d : Draft) (src : List Char) (text : String) : Draft :=
  ⟨d.offset, d.source ++ String.ofList src, d.parts, some (d.literal.getD "" ++ text),
    d.isWord && src.all isWordChar⟩

theorem Group.extend_nil (g : Group) : g.extend [] = g := by
  simp [Group.extend]

theorem Group.pushBlank_extend (g : Group) (c : Char) (cs : List Char) :
    (g.pushBlank c).extend cs = g.extend (c :: cs) := by
  simp [Group.extend, Group.pushBlank, ← String.toList_inj]

theorem Draft.pushWord_eq_readText (d : Draft) {c : Char} (hc : isWordChar c = true) :
    d.pushWord c = d.readText [c] (String.singleton c) := by
  simp [Draft.pushWord, Draft.extend, Draft.readText, hc]

theorem Draft.foldl_note (d : Draft) (cs : List Char) :
    cs.foldl Draft.note d =
      ⟨d.offset, d.source ++ String.ofList cs, d.parts, d.literal, d.isWord && cs.isEmpty⟩ := by
  induction cs generalizing d with
  | nil => simp
  | cons c cs ih =>
      rw [List.foldl_cons, ih]
      simp [Draft.note, ← String.toList_inj]

/-- A closed quote adds its text to the literal of the draft. -/
theorem Draft.extend_note_eq_readText (d : Draft) (cs : List Char) (text : String) :
    ((cs.foldl Draft.note (d.note '"')).note '"').extend text =
      d.readText ('"' :: (cs ++ ['"'])) text := by
  simp [Draft.foldl_note, Draft.note, Draft.extend, Draft.readText, isWordChar,
    ← String.toList_inj]

theorem Draft.readText_readText (d : Draft) (src src' : List Char) (text text' : String) :
    (d.readText src text).readText src' text' = d.readText (src ++ src') (text ++ text') := by
  simp [Draft.readText, String.append_assoc, Bool.and_assoc]

namespace Reader

variable {depth : ℕ}

/-! ### Runs -/

theorem map_eq_ok {α β : Type} {f : α → β} {x : Except CompileError α} {b : β}
    (h : x.map f = .ok b) : ∃ a, x = .ok a ∧ f a = b := by
  cases x with
  | error e => cases h
  | ok a => exact ⟨a, rfl, Except.ok.inj h⟩

theorem bind_eq_ok {α β : Type} {f : α → Except CompileError β} {x : Except CompileError α} {b : β}
    (h : x >>= f = .ok b) : ∃ a, x = .ok a ∧ f a = .ok b := by
  cases x with
  | error e => cases h
  | ok a => exact ⟨a, rfl, h⟩

theorem run_nil (r : Reader) : r.run depth [] = .ok r := rfl

theorem run_cons (r : Reader) (c : Char) (cs : List Char) :
    r.run depth (c :: cs) = (r.step depth c) >>= fun r' => r'.run depth cs :=
  List.foldlM_cons

theorem run_append (r : Reader) (cs ds : List Char) :
    r.run depth (cs ++ ds) = (r.run depth cs) >>= fun r' => r'.run depth ds :=
  List.foldlM_append

theorem run_append_of_ok {r r' : Reader} {cs ds : List Char} (h : r.run depth cs = .ok r') :
    r.run depth (cs ++ ds) = r'.run depth ds := by
  rw [run_append, h]; rfl

/-- What every character keeps of the text before it and the reader, a text keeps. -/
theorem run_invariant {P : List Char → Reader → Prop}
    (hstep : ∀ {cs : List Char} {r r' : Reader} {c : Char}, P cs r → r.step depth c = .ok r' →
      P (cs ++ [c]) r')
    {cs ds : List Char} {r r' : Reader} (h : P cs r) (hr : r.run depth ds = .ok r') :
    P (cs ++ ds) r' := by
  induction ds generalizing cs r with
  | nil =>
      cases hr
      rwa [List.append_nil]
  | cons d ds ih =>
      rw [run_cons] at hr
      obtain ⟨r₁, hs, hr⟩ := bind_eq_ok hr
      have hrun := ih (hstep h hs) hr
      rwa [List.append_assoc] at hrun

/-- One character of a run, where it is known what it does. -/
theorem run_cons_of_advance {pos : ℕ} {nodes nodes' : List Expr} {place place' : Place} {c : Char}
    (h : advance depth pos nodes place c = .ok (nodes', place')) (cs : List Char) :
    run depth ⟨pos, nodes, place⟩ (c :: cs) =
      run depth ⟨pos + c.utf8Size, nodes', place'⟩ cs := by
  have hs : step depth ⟨pos, nodes, place⟩ c = .ok ⟨pos + c.utf8Size, nodes', place'⟩ := by
    rw [step, h]; rfl
  rw [run_cons, hs]; rfl

theorem run_singleton_of_advance {pos : ℕ} {nodes nodes' : List Expr} {place place' : Place}
    {c : Char} (h : advance depth pos nodes place c = .ok (nodes', place')) :
    run depth ⟨pos, nodes, place⟩ [c] = .ok ⟨pos + c.utf8Size, nodes', place'⟩ :=
  run_cons_of_advance h []

/-! ### Blanks, quotes and runs of text -/

theorem run_blanks {pos : ℕ} {nodes : List Expr} {g : Group} {outer : List Level} :
    ∀ {cs : List Char}, Blanks cs →
      run depth ⟨pos, nodes, .between g outer⟩ cs =
        .ok ⟨pos + byteLength cs, nodes, .between (g.extend cs) outer⟩
  | [], _ => by rw [Group.extend_nil]; rfl
  | c :: cs, h => by
      have hc : advance depth pos nodes (.between g outer) c =
          .ok (nodes, .between (g.pushBlank c) outer) := by
        simp [advance, h c List.mem_cons_self]
      rw [run_cons_of_advance hc, run_blanks fun d hd => h d (List.mem_cons_of_mem c hd),
        Group.pushBlank_extend, byteLength_cons, Nat.add_assoc]

theorem run_quoted {src : List Char} {text : String} (h : DerivesQuoted src text) {pos : ℕ}
    {nodes : List Expr} {g : Group} {d : Draft} {opened : ℕ} {outer : List Level} :
    run depth ⟨pos, nodes, .quoted g d opened Quoted.Unfinished.start outer⟩ src =
      .ok ⟨pos + byteLength src, nodes,
        .quoted g (src.foldl Draft.note d) opened ⟨text, false⟩ outer⟩ := by
  induction h with
  | nil => rfl
  | @plain src text c _ hq hs ih =>
      have hc : advance depth (pos + byteLength src) nodes
          (.quoted g (src.foldl Draft.note d) opened ⟨text, false⟩ outer) c =
          .ok (nodes, .quoted g ((src ++ [c]).foldl Draft.note d) opened ⟨text.push c, false⟩
            outer) := by
        simp [advance, Quoted.Unfinished.step, hq, hs]
      rw [run_append_of_ok ih, run_singleton_of_advance hc]
      simp [Nat.add_assoc]
  | @escape src text c _ he ih =>
      have hb : advance depth (pos + byteLength src) nodes
          (.quoted g (src.foldl Draft.note d) opened ⟨text, false⟩ outer) '\\' =
          .ok (nodes, .quoted g ((src.foldl Draft.note d).note '\\') opened ⟨text, true⟩
            outer) := by
        simp [advance, Quoted.Unfinished.step]
      have hc : advance depth (pos + byteLength src + '\\'.utf8Size) nodes
          (.quoted g ((src.foldl Draft.note d).note '\\') opened ⟨text, true⟩ outer) c =
          .ok (nodes, .quoted g ((src ++ ['\\', c]).foldl Draft.note d) opened
            ⟨text.push c, false⟩ outer) := by
        simp [advance, Quoted.Unfinished.step, Quoted.needsEscape, he]
      rw [run_append_of_ok ih, run_cons_of_advance hb, run_singleton_of_advance hc]
      simp [Nat.add_assoc]
  | @backslash src text c _ hq hs ih =>
      have hb : advance depth (pos + byteLength src) nodes
          (.quoted g (src.foldl Draft.note d) opened ⟨text, false⟩ outer) '\\' =
          .ok (nodes, .quoted g ((src.foldl Draft.note d).note '\\') opened ⟨text, true⟩
            outer) := by
        simp [advance, Quoted.Unfinished.step]
      have hc : advance depth (pos + byteLength src + '\\'.utf8Size) nodes
          (.quoted g ((src.foldl Draft.note d).note '\\') opened ⟨text, true⟩ outer) c =
          .ok (nodes, .quoted g ((src ++ ['\\', c]).foldl Draft.note d) opened
            ⟨(text.push '\\').push c, false⟩ outer) := by
        simp [advance, Quoted.Unfinished.step, Quoted.needsEscape, hq, hs]
      rw [run_append_of_ok ih, run_cons_of_advance hb, run_singleton_of_advance hc]
      simp [Nat.add_assoc]

theorem advance_inside_mark (depth pos : ℕ) (nodes : List Expr) (g : Group) (d : Draft)
    (outer : List Level) :
    advance depth pos nodes (.inside g d outer) '"' =
      .ok (nodes, .quoted g (d.note '"') pos Quoted.Unfinished.start outer) := by
  simp [advance, readItem, Text.isBlank, Except.map]

theorem run_text {src : List Char} {text : String} (h : DerivesText src text) {pos : ℕ}
    {nodes : List Expr} {g : Group} {d : Draft} {outer : List Level} :
    run depth ⟨pos, nodes, .inside g d outer⟩ src =
      .ok ⟨pos + byteLength src, nodes, .inside g (d.readText src text) outer⟩ := by
  induction h generalizing pos d with
  | @char c hc =>
      obtain ⟨hb, hl, hr, hq⟩ := isWordChar_iff.1 hc
      have ha : advance depth pos nodes (.inside g d outer) c =
          .ok (nodes, .inside g (d.readText [c] (String.singleton c)) outer) := by
        simp [advance, readItem, hb, hl, hr, hq, Except.map, Draft.pushWord_eq_readText d hc]
      rw [run_singleton_of_advance ha]
      simp
  | @quoted src text h =>
      have ho := advance_inside_mark depth pos nodes g d outer
      have hc : advance depth (pos + '"'.utf8Size + byteLength src) nodes
          (.quoted g (src.foldl Draft.note (d.note '"')) pos ⟨text, false⟩ outer) '"' =
          .ok (nodes, .inside g (d.readText ('"' :: (src ++ ['"'])) text) outer) := by
        simp [advance, Quoted.Unfinished.step, ← Draft.extend_note_eq_readText]
      rw [run_cons_of_advance ho, run_append_of_ok (run_quoted h), run_singleton_of_advance hc]
      simp [Nat.add_assoc]
  | append _ _ ih ih' =>
      rw [run_append_of_ok ih, ih', Draft.readText_readText, byteLength_append, Nat.add_assoc]

/-! ### The value of a group -/

theorem value_eq_ok_iff {g : Group} {e : Expr} : g.value = .ok e ↔ GroupMeans g.items e := by
  have hbound : Text.indexBound = 2 ^ 64 := by norm_num [Text.indexBound]
  obtain ⟨opened, source, items⟩ := g
  simp only [Group.value, Text.natBelow?]
  constructor
  · intro h
    match items with
    | [] => cases h
    | [head] =>
        cases hw : head.isWord with
        | false =>
            simp only [hw, Bool.false_eq_true, if_false, Except.ok.injEq] at h
            exact h ▸ .whole hw
        | true =>
            cases hn : Text.isNumeral head.source.toList with
            | false =>
                simp only [hw, hn, Bool.false_eq_true, if_true, if_false, Except.ok.injEq] at h
                exact h ▸ .name hw hn
            | true =>
                by_cases hv : Text.numeralValue head.source.toList < Text.indexBound
                · simp only [hw, hn, hv, if_true, and_self, Except.ok.injEq] at h
                  exact h ▸ .index hw hn (hbound ▸ hv)
                · simp [hw, hn, hv] at h
    | head :: arg :: args =>
        cases hw : head.isWord with
        | false => simp [hw] at h
        | true =>
            simp only [hw, if_true, Except.ok.injEq] at h
            exact h ▸ .call hw (List.cons_ne_nil arg args)
  · intro h
    cases h with
    | index hw hn hv =>
        rw [← hbound] at hv
        simp [hw, hn, hv]
    | name hw hn => simp [hw, hn]
    | whole hw => simp [hw]
    | @call head args hw hne =>
        cases args with
        | nil => exact absurd rfl hne
        | cons arg args => simp [hw]

/-! ### Items and groups -/

/-- The draft holds an item that starts at `pos`, is written as `src` so far and has these parts. -/
structure Holds (d : Draft) (pos : ℕ) (src : List Char) (parts : List Expr) : Prop where
  offset : d.offset = pos
  source : d.source = String.ofList src
  isWord : d.isWord = src.all isWordChar
  allParts : d.allParts = parts
  literal : EndsGroup src → d.literal = none

theorem Holds.start (pos : ℕ) : Holds (Draft.start pos) pos [] [] :=
  ⟨rfl, rfl, rfl, rfl, fun _ => rfl⟩

theorem Holds.toItem {d : Draft} {pos : ℕ} {src : List Char} {parts : List Expr}
    (h : Holds d pos src parts) : d.toItem = itemOf pos src parts := by
  obtain ⟨rfl, hs, hw, rfl, _⟩ := h
  simp only [Draft.toItem, itemOf, hs, hw]
  rfl

theorem Holds.readText {d : Draft} {pos : ℕ} {src src' : List Char} {parts : List Expr}
    {text : String} (h : Holds d pos src parts) (he : EndsGroup src) (ht : DerivesText src' text) :
    Holds (d.readText src' text) pos (src ++ src') (parts ++ [.literal text]) := by
  obtain ⟨ho, hs, hw, hp, hl⟩ := h
  have hl := hl he
  refine ⟨ho, ?_, ?_, ?_, fun he' => absurd he' (ht.not_endsGroup src)⟩
  · simp [Draft.readText, hs]
  · simp [Draft.readText, hw]
  · rw [Draft.allParts, hl] at hp
    simp [Draft.readText, Draft.allParts, hl, hp]

theorem Holds.pushGroup {d : Draft} {pos : ℕ} {src src' body : List Char} {parts : List Expr}
    {e : Expr} (h : Holds d pos src parts) (hb : src' = '{' :: body) :
    Holds (d.pushGroup (String.ofList src') e) pos (src ++ src') (parts ++ [e]) := by
  obtain ⟨ho, hs, _, hp, _⟩ := h
  refine ⟨ho, ?_, ?_, ?_, fun _ => rfl⟩
  · simp [Draft.pushGroup, hs]
  · simp [Draft.pushGroup, hb, isWordChar]
  · simp [Draft.pushGroup, Draft.allParts, ← hp]

/-- The reader right after a group with a value, below the groups around it. -/
def afterGroup (pos : ℕ) (nodes : List Expr) (src : List Char) (e : Expr) : List Level → Reader
  | [] => ⟨pos, nodes ++ [e], .outside ""⟩
  | (g, d) :: outer => ⟨pos, nodes, .inside g (d.pushGroup (String.ofList src) e) outer⟩

theorem run_close {pos : ℕ} {nodes : List Expr} {g : Group} {outer : List Level} {e : Expr}
    {place : Place} {src : List Char}
    (ha : advance depth pos nodes place '}' = closeGroup nodes g outer)
    (hs : g.source.push '}' = String.ofList src) (hv : g.value = .ok e) :
    run depth ⟨pos, nodes, place⟩ ['}'] = .ok (afterGroup (pos + 1) nodes src e outer) := by
  cases outer with
  | nil =>
      rw [closeGroup, hv] at ha
      exact run_singleton_of_advance ha
  | cons l outer =>
      obtain ⟨g', d⟩ := l
      rw [closeGroup, hv, hs] at ha
      exact run_singleton_of_advance ha

/-- Blanks after an item finish it. -/
theorem run_gap {pos : ℕ} {nodes : List Expr} {g : Group} {d : Draft} {outer : List Level}
    {gap : List Char} (hg : Blanks gap) (hne : gap ≠ []) :
    run depth ⟨pos, nodes, .inside g d outer⟩ gap =
      .ok ⟨pos + byteLength gap, nodes, .between ((g.pushItem d).extend gap) outer⟩ := by
  cases gap with
  | nil => exact absurd rfl hne
  | cons c cs =>
      have hb : advance depth pos nodes (.inside g d outer) c =
          .ok (nodes, .between ((g.pushItem d).pushBlank c) outer) := by
        simp [advance, hg c List.mem_cons_self]
      have hcs : Blanks cs := fun x hx => hg x (List.mem_cons_of_mem c hx)
      rw [run_cons_of_advance hb, run_blanks hcs, Group.pushBlank_extend, byteLength_cons,
        Nat.add_assoc]

/-- What follows an item up to the closing brace. -/
theorem run_trail {pos : ℕ} {nodes : List Expr} {g : Group} {d : Draft} {outer : List Level}
    {e : Expr} {trail src : List Char} (ht : Blanks trail)
    (hs : ((g.pushItem d).extend trail).source.push '}' = String.ofList src)
    (hv : (g.pushItem d).value = .ok e) :
    run depth ⟨pos, nodes, .inside g d outer⟩ (trail ++ ['}']) =
      .ok (afterGroup (pos + byteLength trail + 1) nodes src e outer) := by
  by_cases hne : trail = []
  · subst hne
    rw [Group.extend_nil] at hs
    refine run_close ?_ hs hv
    simp [advance, Text.isBlank]
  · rw [run_append_of_ok (run_gap ht hne)]
    refine run_close ?_ hs hv
    simp [advance, Text.isBlank]

theorem run_between_eq_run_inside {pos : ℕ} {nodes : List Expr} {g : Group} {outer : List Level}
    {src : List Char} (hne : src ≠ [])
    (hh : ∀ c ∈ src.head?, Text.isBlank c = false ∧ c ≠ '}') :
    run depth ⟨pos, nodes, .between g outer⟩ src =
      run depth ⟨pos, nodes, .inside g (Draft.start pos) outer⟩ src := by
  cases src with
  | nil => exact absurd rfl hne
  | cons c cs =>
      obtain ⟨hb, hr⟩ := hh c rfl
      have ha : advance depth pos nodes (.between g outer) c =
          advance depth pos nodes (.inside g (Draft.start pos) outer) c := by
        simp [advance, hb, hr]
      rw [run_cons, run_cons, step, step]
      simp only [ha]

theorem advance_inside_brace {pos : ℕ} {nodes : List Expr} {g : Group} {d : Draft}
    {outer : List Level} (h : outer.length + 2 ≤ depth) :
    advance depth pos nodes (.inside g d outer) '{' =
      .ok (nodes, .between (Group.start pos) ((g, d) :: outer)) := by
  have hd : ¬ depth < outer.length + 1 + 1 := by omega
  simp [advance, readItem, openGroup, Text.isBlank, hd, Except.map]

mutual

/-- A group is read from its opening brace to what `afterGroup` says. -/
theorem run_group : ∀ {room pos : ℕ} {src : List Char} {e : Expr},
    DerivesGroup room pos src e → ∀ {nodes nodes' : List Expr} {place : Place}
      {outer : List Level}, outer.length + room ≤ depth →
      advance depth pos nodes place '{' = .ok (nodes', .between (Group.start pos) outer) →
      run depth ⟨pos, nodes, place⟩ src = .ok (afterGroup (pos + byteLength src) nodes' src e outer)
  | _, pos, _, e, @DerivesGroup.braces room _ lead src trail items _ hl hi ht hm,
      nodes, nodes', place, outer, hd, ha => by
      obtain ⟨g, d, hr, hp⟩ := run_items hi (show outer.length + 1 + room ≤ depth by omega) nodes'
        ((Group.start pos).extend lead)
      have hv : (g.pushItem d).value = .ok e := by
        rw [value_eq_ok_iff, hp]
        simpa [Group.start, Group.extend] using hm
      have hs : ((g.pushItem d).extend trail).source.push '}' =
          String.ofList ('{' :: (lead ++ src ++ trail ++ ['}'])) := by
        rw [hp]
        simp [Group.start, Group.extend, ← String.toList_inj]
      have hrun : run depth ⟨pos + 1, nodes', .between (Group.start pos) outer⟩
          (lead ++ (src ++ (trail ++ ['}']))) =
          .ok (afterGroup (pos + 1 + byteLength lead + byteLength src + byteLength trail + 1)
            nodes' ('{' :: (lead ++ src ++ trail ++ ['}'])) e outer) := by
        rw [run_append_of_ok (run_blanks hl), run_append_of_ok hr, run_trail ht hs hv]
      have hpos : pos + byteLength ('{' :: (lead ++ src ++ trail ++ ['}'])) =
          pos + 1 + byteLength lead + byteLength src + byteLength trail + 1 := by
        simp [utf8Size_brace]
        omega
      rw [run_cons_of_advance ha, utf8Size_brace.1, hpos, ← hrun]
      simp only [List.append_assoc]

/-- Items are read up to the end of the last one, which is not finished yet. -/
theorem run_items : ∀ {room pos : ℕ} {src : List Char} {items : List Item},
    DerivesItems room pos src items → ∀ {outer : List Level}, outer.length + 1 + room ≤ depth →
      ∀ (nodes : List Expr) (g : Group), ∃ g' d,
        run depth ⟨pos, nodes, .between g outer⟩ src =
          .ok ⟨pos + byteLength src, nodes, .inside g' d outer⟩ ∧
        g'.pushItem d = ⟨g.opened, g.source ++ String.ofList src, g.items ++ items⟩
  | _, pos, src, _, .first hi, outer, hd, nodes, g => by
      obtain ⟨d, hr, hs, rfl⟩ := run_item hi hd nodes g
      exact ⟨g, d, hr, by rw [Group.pushItem, hs]⟩
  | _, pos, _, _, @DerivesItems.next _ _ src gap src' items item hi hg hne hi', outer, hd, nodes,
      g => by
      obtain ⟨g₁, d₁, hr₁, hp₁⟩ := run_items hi hd nodes g
      obtain ⟨d, hr, hs, rfl⟩ := run_item hi' hd nodes ((g₁.pushItem d₁).extend gap)
      have hpos : pos + byteLength src + byteLength gap = pos + byteLength (src ++ gap) := by
        rw [byteLength_append, Nat.add_assoc]
      refine ⟨(g₁.pushItem d₁).extend gap, d, ?_, ?_⟩
      · rw [List.append_assoc, run_append_of_ok hr₁, run_append_of_ok (run_gap hg hne), hpos, hr,
          Nat.add_assoc pos, ← byteLength_append, List.append_assoc]
      · rw [hp₁]
        simp [Group.pushItem, Group.extend, hs, ← String.toList_inj]

theorem run_item : ∀ {room pos : ℕ} {src : List Char} {item : Item},
    DerivesItem room pos src item → ∀ {outer : List Level}, outer.length + 1 + room ≤ depth →
      ∀ (nodes : List Expr) (g : Group), ∃ d,
        run depth ⟨pos, nodes, .between g outer⟩ src =
          .ok ⟨pos + byteLength src, nodes, .inside g d outer⟩ ∧
        d.source = String.ofList src ∧ d.toItem = item
  | _, _, _, _, .parts hp hne, outer, hd, nodes, g => by
      obtain ⟨d, hr, hh⟩ := run_parts hp hd nodes g
      exact ⟨d, by rw [run_between_eq_run_inside hne hp.head, hr], hh.source, hh.toItem⟩

theorem run_parts : ∀ {room pos : ℕ} {src : List Char} {parts : List Expr},
    DerivesParts room pos src parts → ∀ {outer : List Level}, outer.length + 1 + room ≤ depth →
      ∀ (nodes : List Expr) (g : Group), ∃ d,
        run depth ⟨pos, nodes, .inside g (Draft.start pos) outer⟩ src =
          .ok ⟨pos + byteLength src, nodes, .inside g d outer⟩ ∧ Holds d pos src parts
  | _, pos, _, _, .nil, outer, hd, nodes, g => ⟨Draft.start pos, rfl, Holds.start pos⟩
  | _, pos, _, _, @DerivesParts.text _ _ src src' parts text hp he ht, outer, hd, nodes, g => by
      obtain ⟨d, hr, hh⟩ := run_parts hp hd nodes g
      refine ⟨d.readText src' text, ?_, ?_⟩
      · rw [run_append_of_ok hr, run_text ht, byteLength_append, Nat.add_assoc]
      · exact hh.readText he ht
  | _, pos, _, _, @DerivesParts.group _ _ src src' parts e hp hg, outer, hd, nodes, g => by
      obtain ⟨d, hr, hh⟩ := run_parts hp hd nodes g
      obtain ⟨body, hb⟩ := hg.exists_body
      refine ⟨d.pushGroup (String.ofList src') e, ?_, hh.pushGroup hb⟩
      have hroom : outer.length + 2 ≤ depth := by
        cases hg
        omega
      rw [run_append_of_ok hr, run_group hg (by simpa using hd) (advance_inside_brace hroom),
        byteLength_append, Nat.add_assoc]
      rfl

end

/-! ### Templates -/

theorem advance_outside_brace {pos : ℕ} {nodes : List Expr} {run : String} (h : 1 ≤ depth) :
    advance depth pos nodes (.outside run) '{' =
      .ok (withRun nodes run, .between (Group.start pos) []) := by
  have hd : ¬ depth < 1 := by omega
  simp [advance, openGroup, hd, Except.map]

theorem run_outside {pos : ℕ} {nodes : List Expr} {run : String} :
    ∀ {cs : List Char}, BraceFree cs →
      Reader.run depth ⟨pos, nodes, .outside run⟩ cs =
        .ok ⟨pos + byteLength cs, nodes, .outside (run ++ String.ofList cs)⟩
  | [], _ => by simp [run_nil]
  | c :: cs, h => by
      obtain ⟨hl, hr⟩ := h c List.mem_cons_self
      have hc : advance depth pos nodes (.outside run) c = .ok (nodes, .outside (run.push c)) := by
        simp [advance, hl, hr]
      have hs : run.push c ++ String.ofList cs = run ++ String.ofList (c :: cs) := by
        simp [← String.toList_inj]
      rw [run_cons_of_advance hc, run_outside fun d hd => h d (List.mem_cons_of_mem c hd), hs,
        byteLength_cons, Nat.add_assoc]

/-- A template is read up to a run that is still open; no run is open after a group. -/
theorem run_nodes {src : List Char} {nodes : List Expr} (h : DerivesNodes depth src nodes) :
    ∃ done run, Reader.run depth start src = .ok ⟨byteLength src, done, .outside run⟩ ∧
      withRun done run = nodes ∧ (EndsGroup src → run = "") := by
  induction h with
  | nil => exact ⟨[], "", rfl, rfl, fun _ => rfl⟩
  | @run src run nodes _ he hne hb ih =>
      obtain ⟨done, before, hr, hn, hz⟩ := ih
      have hz := hz he
      subst hz
      refine ⟨done, String.ofList run, ?_, ?_, fun he' => ?_⟩
      · rw [run_append_of_ok hr, run_outside hb, byteLength_append]
        simp
      · have hne' : String.ofList run ≠ "" := fun e => hne (by simpa using congrArg String.toList e)
        have hn : done = nodes := by simpa [withRun] using hn
        simp [withRun, hne', hn]
      · exact absurd he' fun he' => by
          have hl := List.getLast?_eq_some_getLast hne
          rw [EndsGroup, List.getLast?_append_of_ne_nil _ hne, hl] at he'
          exact (hb _ (List.getLast_mem hne)).2 (he' _ rfl)
  | @group src src' nodes e _ hg ih =>
      obtain ⟨done, run, hr, hn, _⟩ := ih
      have hd : 1 ≤ depth := by
        cases hg
        omega
      refine ⟨nodes ++ [e], "", ?_, rfl, fun _ => rfl⟩
      have hz : ([] : List Level).length + depth ≤ depth := by simp
      rw [run_append_of_ok hr, run_group hg hz (advance_outside_brace hd), hn, byteLength_append]
      rfl

end Reader

end CacheKeys.Template
