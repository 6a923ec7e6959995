import Mathlib
import CacheKeys.Proofs.Template.Pieces

/-! # When a written template means the same

Writing a template and reading it again keeps its keys exactly if every text in a juxtaposition
outside braces is a bare word (`evaluate_render_iff`).  Any other text of a juxtaposition is written
in quotes there, and the quotes become part of the key.  A text with a brace opens or closes a group
instead, if the template can still be read at all; then the key differs because it has fewer braces
at its beginning: quotes add characters to a key, but no braces. -/

namespace CacheKeys.Template

/-! ### Plain juxtapositions -/

mutual

/-- Whether every text of a part of a juxtaposition is a bare word. -/
def Expr.isPlainPart : Expr → Bool
  | .literal text => isBareWord text
  | .argRef _ => true
  | .call _ _ _ => true
  | .concat parts => arePlainParts parts

/-- Whether every text of parts of a juxtaposition is a bare word. -/
def arePlainParts : List Expr → Bool
  | [] => true
  | e :: es => e.isPlainPart && arePlainParts es

end

/-- Whether the node is no juxtaposition with a text that needs quotes. -/
def Expr.isPlain : Expr → Bool
  | .concat parts => arePlainParts parts
  | _ => true

mutual

theorem all_partPieces : ∀ e : Expr, (e.partPieces.all fun p => !p.isQuoted) = e.isPlainPart
  | .literal text => by
      rw [Expr.partPieces, Expr.isPlainPart]
      cases isBareWord text <;> rfl
  | .argRef _ => rfl
  | .call _ _ _ => rfl
  | .concat parts => all_allPartPieces parts

theorem all_allPartPieces : ∀ es : List Expr,
    ((allPartPieces es).all fun p => !p.isQuoted) = arePlainParts es
  | [] => rfl
  | e :: es => by
      rw [allPartPieces, List.all_append, all_partPieces e, all_allPartPieces es, arePlainParts]

end

/-- Plain nodes have no pieces in quotes. -/
theorem forall_isPlain_iff {nodes : List Expr} :
    (∀ e ∈ nodes, e.isPlain = true) ↔ ∀ p ∈ piecesOf nodes, p.isQuoted = false := by
  have he : ∀ e : Expr, e.isPlain = true ↔ ∀ p ∈ e.pieces, p.isQuoted = false := by
    intro e
    cases e with
    | concat parts =>
        rw [Expr.isPlain, ← all_allPartPieces, List.all_eq_true]
        simp [Expr.pieces]
    | literal => simp [Expr.isPlain, Expr.pieces, Piece.isQuoted]
    | argRef => simp [Expr.isPlain, Expr.pieces, Piece.isQuoted]
    | call => simp [Expr.isPlain, Expr.pieces, Piece.isQuoted]
  rw [piecesOf, List.forall_mem_flatMap]
  exact forall₂_congr fun e _ => he e

/-! ### Counting braces -/

def braceCount (cs : List Char) : ℕ := cs.countP fun c => c == '{' || c == '}'

theorem braceCount_append (cs ds : List Char) :
    braceCount (cs ++ ds) = braceCount cs + braceCount ds := List.countP_append

theorem BraceFree.braceCount {cs : List Char} (h : BraceFree cs) : braceCount cs = 0 := by
  simpa [CacheKeys.Template.braceCount, List.countP_eq_zero, BraceFree] using h

theorem braceCount_escape (cs : List Char) : braceCount (Quoted.escape cs) = braceCount cs := by
  induction cs with
  | nil => rfl
  | cons c cs ih =>
      unfold braceCount at ih ⊢
      rw [Quoted.escape]
      split
      · simp [List.countP_cons, ih]
      · simp [List.countP_cons, ih]

theorem length_le_length_escape (cs : List Char) : cs.length ≤ (Quoted.escape cs).length := by
  induction cs with
  | nil => exact le_rfl
  | cons c cs ih =>
      rw [Quoted.escape]
      split
      · simp only [List.length_cons]; omega
      · simp only [List.length_cons]; omega

/-- Two texts differ if one has fewer braces in a beginning that is at least as long. -/
theorem append_ne_append_of_braceCount {cs ds cs' ds' : List Char} (hl : cs.length ≤ ds.length)
    (hb : braceCount ds < braceCount cs) : cs ++ cs' ≠ ds ++ ds' := by
  intro h
  have hp : cs <+: ds :=
    List.prefix_of_prefix_length_le (List.prefix_append cs cs') (h ▸ List.prefix_append ds ds') hl
  have hc : braceCount cs ≤ braceCount ds := hp.sublist.countP_le
  omega

/-! ### Quotes without braces -/

/-- Whether the piece is a text in quotes that holds a brace. -/
def Piece.isBraced : Piece → Bool
  | .node _ => false
  | .quoted text => holdsBrace text

theorem braceFree_opening {cs : List Char} (h : BraceFree cs) :
    BraceFree ('"' :: Quoted.escape cs) := by
  have hc := h.braceCount
  rw [← braceCount_escape, braceCount, List.countP_eq_zero] at hc
  refine List.forall_mem_cons.2 ⟨by decide, fun c hm => ?_⟩
  simpa using hc c hm

theorem braceFree_write {s : String} (h : BraceFree s.toList) :
    BraceFree (Quoted.write s).toList := by
  have hw : (Quoted.write s).toList = ('"' :: Quoted.escape s.toList) ++ ['"'] := by
    rw [Quoted.write, String.toList_ofList, List.cons_append]
  rw [hw]
  exact (braceFree_opening h).append fun c hc => by
    obtain rfl := List.mem_singleton.1 hc
    decide

theorem Piece.text_shown {p : Piece} (h : p.isBraced = false) : p.shown.text = p.text := by
  cases p with
  | node e => rfl
  | quoted text =>
      have hb := holdsBrace_eq_false_iff.2 (braceFree_write (holdsBrace_eq_false_iff.1 h))
      simp [Piece.shown, Piece.text, Expr.text, hb]

theorem render_shown : ∀ {ps : List Piece}, (∀ p ∈ ps, p.isBraced = false) →
    render (ps.map Piece.shown) = Piece.join ps
  | [], _ => rfl
  | p :: ps, h => by
      obtain ⟨hp, hps⟩ := List.forall_mem_cons.1 h
      rw [List.map_cons, render_cons, Piece.text_shown hp, render_shown hps]
      simp [Piece.join]

theorem Piece.Printable.shown {room : ℕ} {p : Piece} (h : p.Printable room)
    (hb : p.isBraced = false) : PrintableNode room p.shown := by
  cases p with
  | node e => exact h
  | quoted text =>
      have hw := holdsBrace_eq_false_iff.2 (braceFree_write (holdsBrace_eq_false_iff.1 hb))
      exact ⟨.literal room _, rfl, by simp [Piece.shown, Expr.isRun, hw]⟩

/-- Quotes without braces make a key longer and keep its braces. -/
theorem exists_keyOf_shown (R : Registry) (ctx : Context) : ∀ {ps : List Piece} {key : String},
    (∀ p ∈ ps, p.isBraced = false) → keyOf R ctx (ps.map Piece.meant) = some key →
    ∃ key', keyOf R ctx (ps.map Piece.shown) = some key' ∧
      braceCount key'.toList = braceCount key.toList ∧
      key.toList.length + ps.countP Piece.isQuoted ≤ key'.toList.length
  | [], key, _, h => ⟨key, h, rfl, by simp⟩
  | p :: ps, key, hb, h => by
      obtain ⟨hp, hps⟩ := List.forall_mem_cons.1 hb
      rw [List.map_cons, keyOf_cons, Option.map₂_eq_some_iff] at h
      obtain ⟨v, tail, hv, ht, rfl⟩ := h
      obtain ⟨tail', ht', hc, hl⟩ := exists_keyOf_shown R ctx hps ht
      rw [List.map_cons, keyOf_cons, ht']
      cases p with
      | node e =>
          refine ⟨v ++ tail', by rw [show value R ctx (Piece.node e).shown = some v from hv]; rfl,
            ?_, ?_⟩
          · rw [String.toList_append, String.toList_append, braceCount_append, braceCount_append,
              hc]
          · simp only [String.toList_append, List.length_append, List.countP_cons, Piece.isQuoted,
              Bool.false_eq_true, if_false]
            omega
      | quoted text =>
          obtain rfl : text = v := Option.some.inj ((value_literal R ctx text).symm.trans hv)
          refine ⟨Quoted.write text ++ tail', by rw [Piece.shown, value_literal]; rfl, ?_, ?_⟩
          · have hw := braceFree_write (holdsBrace_eq_false_iff.1 hp)
            rw [String.toList_append, String.toList_append, braceCount_append, braceCount_append,
              hc, hw.braceCount, (holdsBrace_eq_false_iff.1 hp).braceCount]
          · have hle := length_le_length_escape text.toList
            simp only [String.toList_append, List.length_append, List.countP_cons, Piece.isQuoted,
              Quoted.write, String.toList_ofList, List.length_cons, List.length_nil, if_true]
            omega

/-! ### Quotes with braces -/

theorem exists_first_brace {s : String} (h : holdsBrace s = true) :
    ∃ before b after, s.toList = before ++ b :: after ∧ BraceFree before ∧ (b = '{' ∨ b = '}') := by
  cases hf : s.toList.find? fun c => c == '{' || c == '}' with
  | none =>
      obtain ⟨c, hc, hb⟩ := List.any_eq_true.1 h
      exact absurd hb (List.find?_eq_none.1 hf c hc)
  | some b =>
      obtain ⟨hb, before, after, hs, hn⟩ := List.find?_eq_some_iff_append.1 hf
      refine ⟨before, b, after, hs, fun c hc => ?_, by simpa using hb⟩
      simpa using hn c hc

theorem exists_first_braced : ∀ {ps : List Piece}, (∃ p ∈ ps, p.isBraced = true) →
    ∃ before text after, ps = before ++ .quoted text :: after ∧ holdsBrace text = true ∧
      ∀ p ∈ before, p.isBraced = false := by
  rintro ps ⟨p, hp, hb⟩
  cases hf : ps.find? Piece.isBraced with
  | none => exact absurd hb (List.find?_eq_none.1 hf p hp)
  | some q =>
      obtain ⟨hq, before, after, hs, hn⟩ := List.find?_eq_some_iff_append.1 hf
      cases q with
      | node e => cases hq
      | quoted text => exact ⟨before, text, after, hs, hq, fun p hp => by simpa using hn p hp⟩

theorem toList_write_of_brace {s : String} {cs ds : List Char} {b : Char}
    (hs : s.toList = cs ++ b :: ds) (hb : b = '{' ∨ b = '}') :
    (Quoted.write s).toList = ('"' :: Quoted.escape cs) ++ b :: (Quoted.escape ds ++ ['"']) := by
  have he : Quoted.escape (b :: ds) = b :: Quoted.escape ds := by
    rcases hb with rfl | rfl <;> simp [Quoted.escape, Quoted.needsEscape]
  rw [Quoted.write, String.toList_ofList, hs, escape_append, he]
  simp

/-- Pieces without braces in quotes and a run of text behind them are read as they stand. -/
theorem exists_read_join_run {room : ℕ} {ps : List Piece} {run : String}
    (hp : ∀ p ∈ ps, p.Printable room) (hb : ∀ p ∈ ps, p.isBraced = false)
    (hrun : holdsBrace run = false) :
    ∃ ns, read room ((Piece.join ps).toList ++ run.toList) = .ok ns ∧
      ∀ R ctx, keyOf R ctx ns =
        Option.map₂ (· ++ ·) (keyOf R ctx (ps.map Piece.shown)) (some run) := by
  have hnodes : ∀ e ∈ ps.map Piece.shown ++ [.literal run], PrintableNode room e := by
    refine List.forall_mem_append.2
      ⟨List.forall_mem_map.2 fun p hm => (hp p hm).shown (hb p hm), ?_⟩
    exact List.forall_mem_singleton.2 ⟨.literal room run, rfl, by simp [Expr.isRun, hrun]⟩
  have htext : render [.literal run] = run := by simp [render, Expr.text, hrun]
  obtain ⟨ns, hns, hk⟩ := exists_read_render hnodes
  rw [render_append, render_shown hb, htext, String.toList_append] at hns
  refine ⟨ns, hns, fun R ctx => ?_⟩
  rw [hk, keyOf_append, keyOf_singleton, value_literal]

/-- The beginning of a quote does not stand for what is quoted, if a brace follows. -/
theorem append_ne_append_opening {first first' cs ds tail tail' : List Char} {b : Char}
    (hcount : braceCount first' = braceCount first) (hlen : first.length ≤ first'.length)
    (hcs : BraceFree cs) (hb : b = '{' ∨ b = '}') :
    first ++ (cs ++ b :: ds) ++ tail ≠ first' ++ '"' :: Quoted.escape cs ++ tail' := by
  have hne : (first ++ cs ++ [b]) ++ (ds ++ tail) ≠
      (first' ++ '"' :: Quoted.escape cs) ++ tail' := by
    refine append_ne_append_of_braceCount ?_ ?_
    · have hle := length_le_length_escape cs
      simp only [List.length_append, List.length_cons, List.length_nil]
      omega
    · have hb₁ : braceCount [b] = 1 := by rcases hb with rfl | rfl <;> rfl
      rw [braceCount_append, braceCount_append, braceCount_append, hb₁,
        (braceFree_opening hcs).braceCount]
      omega
  simpa using hne

/-- A text in quotes that holds a brace never leaves the key as it is. -/
theorem keyOf_ne_of_isBraced {R : Registry} {ctx : Context} {room : ℕ} {ps : List Piece}
    {key : String} {ks : List Expr} (hp : ∀ p ∈ ps, p.Printable room)
    (hb : ∃ p ∈ ps, p.isBraced = true) (hk : keyOf R ctx (ps.map Piece.meant) = some key)
    (hr : read room (Piece.join ps).toList = .ok ks) : keyOf R ctx ks ≠ some key := by
  obtain ⟨before, text, after, rfl, ht, hbefore⟩ := exists_first_braced hb
  obtain ⟨cs, b, ds, htext, hcs, hbrace⟩ := exists_first_brace ht
  rw [List.map_append, List.map_cons, keyOf_append, keyOf_cons, Option.map₂_eq_some_iff] at hk
  obtain ⟨first, rest, hfirst, hrest, rfl⟩ := hk
  rw [Piece.meant, value_literal, Option.mem_map₂_iff] at hrest
  obtain ⟨_, tail, ⟨⟩, _, rfl⟩ := hrest
  obtain ⟨first', hfirst', hcount, hlen⟩ := exists_keyOf_shown R ctx hbefore hfirst
  -- the text up to the brace is a template, in which the quote is a run of text
  obtain ⟨opening, hopen⟩ : ∃ opening : String, opening.toList = '"' :: Quoted.escape cs :=
    ⟨String.ofList _, String.toList_ofList⟩
  have hopening : holdsBrace opening = false :=
    holdsBrace_eq_false_iff.2 (by rw [hopen]; exact braceFree_opening hcs)
  obtain ⟨ns, hns, hkns⟩ := exists_read_join_run
    (fun p hm => hp p (List.mem_append_left _ hm)) hbefore hopening
  have hjoin : (Piece.join (before ++ .quoted text :: after)).toList =
      ((Piece.join before).toList ++ opening.toList) ++
        b :: (Quoted.escape ds ++ ['"'] ++ (Piece.join after).toList) := by
    rw [Piece.join_append, Piece.join_cons, Piece.text]
    simp [toList_write_of_brace htext hbrace, hopen]
  have ha : Alike _ _ (read room (b :: (Quoted.escape ds ++ ['"'] ++ (Piece.join after).toList)))
      _ := read_append hns
  rw [← hjoin, hr] at ha
  obtain ⟨ms, _, hs⟩ := ha.ok_of_ok
  rw [hs.keyOf_eq, hkns, hfirst']
  intro he
  obtain ⟨_, later, ⟨⟩, _, he⟩ := Option.map₂_eq_some_iff.1 he
  have hne : first.toList ++ (cs ++ b :: ds) ++ tail.toList ≠
      first'.toList ++ '"' :: Quoted.escape cs ++ later.toList :=
    append_ne_append_opening hcount (by omega) hcs hbrace
  refine hne ?_
  have hl := congrArg String.toList he
  simp only [String.toList_append, htext, hopen] at hl
  simpa using hl.symm

/-! ### The exact condition -/

theorem map_shown_eq_map_meant {ps : List Piece} (h : ∀ p ∈ ps, p.isQuoted = false) :
    ps.map Piece.shown = ps.map Piece.meant := by
  refine List.map_congr_left fun p hp => ?_
  cases p with
  | node e => rfl
  | quoted text => cases h _ hp

/-- The text of pieces is read with their meaning exactly if no piece is in quotes. -/
theorem exists_read_join_iff {R : Registry} {ctx : Context} {room : ℕ} {ps : List Piece}
    {key : String} (hp : ∀ p ∈ ps, p.Printable room)
    (hk : keyOf R ctx (ps.map Piece.meant) = some key) :
    (∃ ks, read room (Piece.join ps).toList = .ok ks ∧ keyOf R ctx ks = some key) ↔
      ∀ p ∈ ps, p.isQuoted = false := by
  by_cases hb : ∃ p ∈ ps, p.isBraced = true
  · constructor
    · rintro ⟨ks, hr, hks⟩
      exact absurd hks (keyOf_ne_of_isBraced hp hb hk hr)
    · intro hq
      obtain ⟨p, hm, hbp⟩ := hb
      cases p with
      | node e => cases hbp
      | quoted text => cases hq _ hm
  · have hb' : ∀ p ∈ ps, p.isBraced = false := fun p hm =>
      Bool.eq_false_iff.2 fun hbp => hb ⟨p, hm, hbp⟩
    obtain ⟨ns, hns, hkns⟩ := exists_read_render
      (List.forall_mem_map.2 fun p hm => (hp p hm).shown (hb' p hm))
    rw [render_shown hb'] at hns
    constructor
    · rintro ⟨ks, hr, hks⟩
      obtain rfl : ns = ks := Except.ok.inj (hns.symm.trans hr)
      obtain ⟨key', hkey', _, hl⟩ := exists_keyOf_shown R ctx hb' hk
      obtain rfl : key' = key := Option.some.inj (hkey'.symm.trans ((hkns R ctx).symm.trans hks))
      have hc : ps.countP Piece.isQuoted = 0 := by omega
      simpa [List.countP_eq_zero] using hc
    · intro hq
      exact ⟨ns, hns, by rw [hkns, map_shown_eq_map_meant hq, hk]⟩

/-- A template that is written and compiled again gives its key exactly if every text in a
juxtaposition outside braces is a bare word. -/
theorem evaluate_render_iff (R : Registry) (limits : Limits) (template : String)
    (nodes : List Expr) (k : Compiled) (length : ℕ) (ctx : Context)
    (hp : parse limits template = .ok nodes)
    (hk : Compiler.compile ⟨R, limits⟩ template = .ok k)
    (hl : (render nodes).utf8ByteSize ≤ length) :
    (∃ k', Compiler.compile ⟨R, ⟨limits.maxDepth, length⟩⟩ (render nodes) = .ok k' ∧
        k'.evaluate ctx = k.evaluate ctx) ↔
      ∀ e ∈ nodes, e.isPlain = true := by
  obtain ⟨nodes', hp', hkey⟩ := exists_compile_evaluate_iff.1 ⟨k, hk, rfl⟩
  obtain rfl : nodes' = nodes := Except.ok.inj (hp'.symm.trans hp)
  have hd : Derives limits.maxDepth template.toList nodes' := by
    rw [parse_eq_read (le_maxLength_of_parse hp)] at hp
    exact read_eq_ok_iff.1 hp
  have hread : parse ⟨limits.maxDepth, length⟩ (render nodes') =
      read limits.maxDepth (Piece.join (piecesOf nodes')).toList := by
    rw [join_piecesOf]
    exact parse_eq_read hl
  rw [exists_compile_evaluate_iff, hread, forall_isPlain_iff]
  exact exists_read_join_iff hd.pieces_printable (by rw [keyOf_piecesOf, hkey])

theorem evaluate_render_bare_word :
    ∃ k', Compiler.standard.compile (render [.concat [.literal "a-b", .argRef 0]]) = .ok k' ∧
      k'.evaluate ⟨["x"]⟩ = "a-bx" := by
  have hp : parse Limits.standard "\x7ba-b\x7b0\x7d\x7d" =
      .ok [.concat [.literal "a-b", .argRef 0]] := by rfl
  have hk : Compiler.standard.compile "\x7ba-b\x7b0\x7d\x7d" =
      .ok ⟨"\x7ba-b\x7b0\x7d\x7d", [.concat [.literal "a-b", .argRef 0]], []⟩ := by rfl
  exact (evaluate_render_iff Registry.builtin Limits.standard _ _ _ Limits.standard.maxLength
    ⟨["x"]⟩ hp hk (by decide)).2 (by decide)

/-- A text of two words in a juxtaposition keeps its quotes in the key. -/
theorem evaluate_render_two_words :
    ∃ nodes k k', parse Limits.standard "\x7b\"a b\"\x7b0\x7d\x7d" = .ok nodes ∧
      Compiler.standard.compile "\x7b\"a b\"\x7b0\x7d\x7d" = .ok k ∧
      Compiler.standard.compile (render nodes) = .ok k' ∧
      k.evaluate ⟨["x"]⟩ = "a bx" ∧ k'.evaluate ⟨["x"]⟩ = "\"a b\"x" := by
  have hp : parse Limits.standard "\x7b\"a b\"\x7b0\x7d\x7d" =
      .ok [.concat [.literal "a b", .argRef 0]] := by rfl
  have hr : render [.concat [.literal "a b", .argRef 0]] = "\"a b\"\x7b0\x7d" := by decide
  have hp' : parse Limits.standard "\"a b\"\x7b0\x7d" =
      .ok [.literal "\"a b\"", .argRef 0] := by rfl
  refine ⟨_, _, _, hp, compile_eq_ok_iff.2 ⟨_, _, hp, by rfl, rfl⟩,
    compile_eq_ok_iff.2 ⟨_, _, by rw [hr]; exact hp', by rfl, rfl⟩, by decide, by decide⟩

end CacheKeys.Template
