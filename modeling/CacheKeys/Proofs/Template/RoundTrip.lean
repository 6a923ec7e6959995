import Mathlib
import CacheKeys.Proofs.Template.Rendering

/-! # Canonical trees survive writing and reading

In a canonical list of nodes nothing can be lost when its text is read: no two runs of text touch,
no juxtaposition stands where it would be spread, and every name and index can be read.  Such a
list comes back from its text with nothing changed but the positions of its calls
(`parse_render_canonical`), if the text is short enough and the nesting of its braces outside
quotes, `braceNesting`, is within the limit. -/

namespace CacheKeys.Template

/-! ### Canonical trees -/

/-- A tree that is its own normal form and whose names and indices can be read. -/
inductive Expr.Canonical : Expr → Prop
  | literal (text : String) : Canonical (.literal text)
  | argRef {index : ℕ} : index < 2 ^ 64 → Canonical (.argRef index)
  | call {name : String} {args : List Expr} {offset : ℕ} :
      IsName name → (args = [] → Text.isNumeral name.toList = false) →
      (∀ e ∈ args, Canonical e) → Canonical (.call name args offset)
  | concat {parts : List Expr} :
      2 ≤ parts.length → (∀ e ∈ parts, e.isConcat = false) →
      parts.IsChain (fun e e' => ¬(e.isLiteral = true ∧ e'.isLiteral = true)) →
      (∀ e ∈ parts, Canonical e) → Canonical (.concat parts)

/-- A template whose nodes are all read back from its text. -/
structure CanonicalNodes (nodes : List Expr) : Prop where
  ne_nil : nodes ≠ []
  noConcat : ∀ e ∈ nodes, e.isConcat = false
  noEmpty : nodes.length = 1 ∨ .literal "" ∉ nodes
  apart : nodes.IsChain (fun e e' => ¬(e.isRun = true ∧ e'.isRun = true))
  canonical : ∀ e ∈ nodes, e.Canonical

/-! ### Canonical trees are normal -/

theorem Expr.text_partsOnto {e : Expr} (hc : e.isConcat = false) (hl : e.isLiteral = false)
    (p : Parts) : (e.partsOnto p).text = none := by
  cases e with
  | literal => cases hl
  | argRef => rfl
  | call => rfl
  | concat => cases hc

theorem ofParts_eq_concat {parts : List Expr} (h : 2 ≤ parts.length) :
    ofParts parts = .concat parts := by
  match parts, h with
  | _ :: _ :: _, _ => rfl

mutual

/-- A part is added as it is, if it is no text that merges with text before it. -/
theorem all_partsOnto : ∀ (e : Expr) {p : Parts}, e.Canonical → e.isConcat = false →
    (p.text = none ∨ e.isLiteral = false) → (e.partsOnto p).all = p.all ++ [e.forget]
  | .literal text, ⟨done, last?⟩, _, _, hp => by
      have hn : last? = none := hp.resolve_right (by simp [Expr.isLiteral])
      subst hn
      simp [Expr.partsOnto, Parts.pushText, Parts.all, Expr.forget, Expr.relocate]
  | .argRef index, _, _, _, _ => rfl
  | .call name args offset, _, .call _ _ hargs, _, _ => by
      rw [Expr.partsOnto, normalAll_of_canonical args hargs, Expr.forget_call]
      rfl
  | .concat parts, _, _, hc, _ => by cases hc

theorem all_allPartsOnto : ∀ (es : List Expr) {p : Parts}, (∀ e ∈ es, e.Canonical) →
    (∀ e ∈ es, e.isConcat = false) →
    es.IsChain (fun e e' => ¬(e.isLiteral = true ∧ e'.isLiteral = true)) →
    (p.text = none ∨ ∀ e ∈ es.head?, e.isLiteral = false) →
    (allPartsOnto es p).all = p.all ++ forgetAll es
  | [], _, _, _, _, _ => by simp [allPartsOnto, forgetAll]
  | e :: es, p, h, hc, hl, hp => by
      have he := all_partsOnto e (h e List.mem_cons_self) (hc e List.mem_cons_self)
        (hp.imp_right fun hp => hp e rfl)
      have hnext : (e.partsOnto p).text = none ∨ ∀ e' ∈ es.head?, e'.isLiteral = false := by
        cases hle : e.isLiteral with
        | false => exact .inl (Expr.text_partsOnto (hc e List.mem_cons_self) hle p)
        | true =>
            refine .inr fun e' he' => Bool.eq_false_iff.2 fun hle' => ?_
            exact (List.isChain_cons.1 hl).1 e' he' ⟨hle, hle'⟩
      rw [allPartsOnto, all_allPartsOnto es (fun e' h' => h e' (List.mem_cons_of_mem e h'))
        (fun e' h' => hc e' (List.mem_cons_of_mem e h')) hl.of_cons hnext, he]
      simp [forgetAll]

theorem normal_of_canonical : ∀ (e : Expr), e.Canonical → e.normal = e.forget
  | .literal text, h => by
      rw [Expr.normal, all_partsOnto _ h rfl (.inl rfl)]
      rfl
  | .argRef index, h => rfl
  | .call name args offset, h => by
      rw [Expr.normal, all_partsOnto _ h rfl (.inl rfl)]
      rfl
  | .concat parts, .concat hlen hc hl hparts => by
      have hall := all_allPartsOnto parts hparts hc hl (.inl rfl : Parts.none.text = none ∨ _)
      rw [Expr.normal, Expr.partsOnto, hall, Expr.forget_concat]
      exact ofParts_eq_concat (by simpa [forgetAll, Parts.none, Parts.all] using hlen)

theorem normalAll_of_canonical : ∀ (es : List Expr), (∀ e ∈ es, e.Canonical) →
    normalAll es = forgetAll es
  | [], _ => rfl
  | e :: es, h => by
      have he := normal_of_canonical e (h e List.mem_cons_self)
      rw [Expr.normal] at he
      rw [normalAll, he, normalAll_of_canonical es fun e' h' => h e' (List.mem_cons_of_mem e h')]
      rfl

end

/-! ### Nesting of braces -/

/-- What is known of the braces of a template after a part of it: how many are open, how many have
been open at once, and in a quote whether the last character was a backslash. -/
structure BraceScan where
  opened : ℕ
  deepest : ℕ
  quote : Option Bool

namespace BraceScan

/-- Reads one character; a quote begins inside braces only. -/
def step (s : BraceScan) (c : Char) : BraceScan :=
  match s.quote with
  | some true => { s with quote := some false }
  | some false =>
    if c == '"' then { s with quote := none }
    else if c == '\\' then { s with quote := some true }
    else s
  | none =>
    if c == '{' then ⟨s.opened + 1, max s.deepest (s.opened + 1), none⟩
    else if c == '}' then { s with opened := s.opened - 1 }
    else if c == '"' && 0 < s.opened then { s with quote := some false }
    else s

def run (s : BraceScan) (cs : List Char) : BraceScan := cs.foldl step s

theorem run_append (s : BraceScan) (cs ds : List Char) :
    s.run (cs ++ ds) = (s.run cs).run ds := List.foldl_append

theorem run_cons (s : BraceScan) (c : Char) (cs : List Char) :
    s.run (c :: cs) = (s.step c).run cs := rfl

variable {n m : ℕ}

theorem run_word {cs : List Char} (h : ∀ c ∈ cs, isWordChar c = true) :
    run ⟨n, m, none⟩ cs = ⟨n, m, none⟩ := by
  induction cs with
  | nil => rfl
  | cons c cs ih =>
      obtain ⟨_, hl, hr, hq⟩ := isWordChar_iff.1 (h c List.mem_cons_self)
      have hs : step ⟨n, m, none⟩ c = ⟨n, m, none⟩ := by simp [step, hl, hr, hq]
      rw [run_cons, hs, ih fun d hd => h d (List.mem_cons_of_mem c hd)]

theorem run_braceFree {cs : List Char} (h : BraceFree cs) :
    run ⟨0, m, none⟩ cs = ⟨0, m, none⟩ := by
  induction cs with
  | nil => rfl
  | cons c cs ih =>
      obtain ⟨hl, hr⟩ := h c List.mem_cons_self
      have hs : step ⟨0, m, none⟩ c = ⟨0, m, none⟩ := by simp [step, hl, hr]
      rw [run_cons, hs, ih fun d hd => h d (List.mem_cons_of_mem c hd)]

theorem run_escape (cs : List Char) :
    run ⟨n, m, some false⟩ (Quoted.escape cs) = ⟨n, m, some false⟩ := by
  induction cs with
  | nil => rfl
  | cons c cs ih =>
      rw [Quoted.escape]
      split
      · exact ih
      · next hc =>
        have hc' : c ≠ '"' ∧ c ≠ '\\' := by simpa [Quoted.needsEscape] using hc
        have hs : step ⟨n, m, some false⟩ c = ⟨n, m, some false⟩ := by simp [step, hc']
        rw [run_cons, hs, ih]

theorem run_write (s : String) :
    run ⟨n + 1, m, none⟩ (Quoted.write s).toList = ⟨n + 1, m, none⟩ := by
  have hs : step ⟨n + 1, m, none⟩ '"' = ⟨n + 1, m, some false⟩ := by simp [step]
  rw [Quoted.write, String.toList_ofList, run_cons, hs, run_append, run_escape]
  rfl

theorem run_literal (s : String) :
    run ⟨n + 1, m, none⟩ (Expr.literal s).argumentText.toList = ⟨n + 1, m, none⟩ := by
  rw [Expr.argumentText]
  split
  · next h => exact run_word fun c hc => ((isBareWord_iff.1 h).2 c hc).1
  · exact run_write s

/-- Braces around a text count once more than it. -/
theorem run_braces {body : String} {m' : ℕ}
    (h : run ⟨n + 1, max m (n + 1), none⟩ body.toList = ⟨n + 1, m', none⟩) :
    run ⟨n, m, none⟩ ("\x7b" ++ body ++ "\x7d").toList = ⟨n, m', none⟩ := by
  have ho : step ⟨n, m, none⟩ '{' = ⟨n + 1, max m (n + 1), none⟩ := by simp [step]
  have hb : ("\x7b" ++ body ++ "\x7d").toList = '{' :: (body.toList ++ ['}']) := by simp
  rw [hb, run_cons, ho, run_append, h]
  rfl

theorem run_argRef (n m index : ℕ) :
    run ⟨n, m, none⟩ (Expr.argRef index).argumentText.toList = ⟨n, max m (n + 1), none⟩ :=
  run_braces (run_word (isName_toString index).2)

theorem run_call {name : String} {args : List Expr} {m' : ℕ} (hn : IsName name)
    (h : run ⟨n + 1, max m (n + 1), none⟩ (Expr.spacedTexts args).toList = ⟨n + 1, m', none⟩)
    (offset : ℕ) :
    run ⟨n, m, none⟩ (Expr.call name args offset).argumentText.toList = ⟨n, m', none⟩ := by
  have ht : (Expr.call name args offset).argumentText =
      "\x7b" ++ (name ++ Expr.spacedTexts args) ++ "\x7d" := by
    simp [Expr.argumentText, String.append_assoc]
  rw [ht]
  refine run_braces ?_
  rw [String.toList_append, run_append, run_word hn.2, h]

/-- Braces that have been counted may be opened. -/
theorem printable_argRef {index room : ℕ} (hi : index < 2 ^ 64) (h : max m (n + 1) ≤ n + room) :
    Printable room (.argRef index) := by
  obtain ⟨room, rfl⟩ : ∃ r, room = r + 1 := ⟨room - 1, by omega⟩
  exact .argRef hi

theorem printable_call {name : String} {args : List Expr} {offset m' room : ℕ} (hn : IsName name)
    (hnum : args = [] → Text.isNumeral name.toList = false) (hm : max m (n + 1) ≤ m')
    (hargs : ∀ room, m' ≤ n + 1 + room → ∀ e ∈ args, Printable room e) (h : m' ≤ n + room) :
    Printable room (.call name args offset) := by
  obtain ⟨room, rfl⟩ : ∃ r, room = r + 1 := ⟨room - 1, by omega⟩
  exact .call hn hnum (hargs room (by omega))

mutual

/-- Where a scan of a canonical argument ends, and that its braces have been counted. -/
theorem run_argumentText : ∀ (e : Expr) {n m : ℕ}, e.Canonical →
    ∃ m', run ⟨n + 1, m, none⟩ e.argumentText.toList = ⟨n + 1, m', none⟩ ∧ m ≤ m' ∧
      ∀ room, m' ≤ n + 1 + room → Printable room e
  | .literal text, _, m, _ => ⟨m, run_literal text, le_rfl, fun room _ => .literal room text⟩
  | .argRef index, n, m, .argRef hi =>
      ⟨_, run_argRef (n + 1) m index, le_max_left .., fun _ => printable_argRef hi⟩
  | .call name args offset, n, m, .call hn hnum hargs => by
      obtain ⟨m', hr, hm, hp⟩ := run_spacedTexts args (n := n + 1) (m := max m (n + 2)) hargs
      exact ⟨m', run_call hn hr offset, (le_max_left ..).trans hm,
        fun _ => printable_call hn hnum hm hp⟩
  | .concat parts, n, m, .concat hlen _ _ hparts => by
      obtain ⟨m', hr, hm, hp⟩ := run_joinedTexts parts (n := n) (m := m) hparts
      refine ⟨m', hr, hm, fun room h => .concat ?_ (hp room h)⟩
      rintro rfl
      simp at hlen

theorem run_joinedTexts : ∀ (es : List Expr) {n m : ℕ}, (∀ e ∈ es, e.Canonical) →
    ∃ m', run ⟨n + 1, m, none⟩ (Expr.joinedTexts es).toList = ⟨n + 1, m', none⟩ ∧ m ≤ m' ∧
      ∀ room, m' ≤ n + 1 + room → ∀ e ∈ es, Printable room e
  | [], _, m, _ => ⟨m, rfl, le_rfl, by simp⟩
  | e :: es, n, m, h => by
      obtain ⟨m₁, hr₁, hm₁, hp₁⟩ := run_argumentText e (n := n) (m := m) (h e List.mem_cons_self)
      obtain ⟨m₂, hr₂, hm₂, hp₂⟩ := run_joinedTexts es (n := n) (m := m₁)
        fun e' h' => h e' (List.mem_cons_of_mem e h')
      refine ⟨m₂, ?_, hm₁.trans hm₂, fun room hroom => ?_⟩
      · rw [Expr.joinedTexts, String.toList_append, run_append, hr₁, hr₂]
      · exact List.forall_mem_cons.2 ⟨hp₁ room (hm₂.trans hroom), hp₂ room hroom⟩

theorem run_spacedTexts : ∀ (es : List Expr) {n m : ℕ}, (∀ e ∈ es, e.Canonical) →
    ∃ m', run ⟨n + 1, m, none⟩ (Expr.spacedTexts es).toList = ⟨n + 1, m', none⟩ ∧ m ≤ m' ∧
      ∀ room, m' ≤ n + 1 + room → ∀ e ∈ es, Printable room e
  | [], _, m, _ => ⟨m, rfl, le_rfl, by simp⟩
  | e :: es, n, m, h => by
      obtain ⟨m₁, hr₁, hm₁, hp₁⟩ := run_argumentText e (n := n) (m := m) (h e List.mem_cons_self)
      obtain ⟨m₂, hr₂, hm₂, hp₂⟩ := run_spacedTexts es (n := n) (m := m₁)
        fun e' h' => h e' (List.mem_cons_of_mem e h')
      refine ⟨m₂, ?_, hm₁.trans hm₂, fun room hroom => ?_⟩
      · rw [Expr.spacedTexts, String.toList_append, String.toList_append, run_append, run_append]
        show run (run ⟨n + 1, m, none⟩ e.argumentText.toList) _ = _
        rw [hr₁, hr₂]
      · exact List.forall_mem_cons.2 ⟨hp₁ room (hm₂.trans hroom), hp₂ room hroom⟩

end

/-- The same of a node outside braces. -/
theorem run_text {e : Expr} (h : e.Canonical) (hc : e.isConcat = false) (m : ℕ) :
    ∃ m', run ⟨0, m, none⟩ e.text.toList = ⟨0, m', none⟩ ∧ m ≤ m' ∧
      ∀ room, m' ≤ room → PrintableNode room e := by
  cases h with
  | literal text =>
      cases hb : holdsBrace text with
      | false =>
          refine ⟨m, ?_, le_rfl, fun room _ => ⟨.literal room text, rfl, fun hr => ?_⟩⟩
          · rw [Expr.text, hb, if_neg Bool.false_ne_true]
            exact run_braceFree (holdsBrace_eq_false_iff.1 hb)
          · simp [Expr.isRun, hb] at hr
      | true =>
          refine ⟨max m 1, ?_, le_max_left .., fun room h => ⟨.literal room text, rfl, fun _ => ?_⟩⟩
          · rw [Expr.text, hb, if_pos rfl]
            exact run_braces (run_write text)
          · omega
  | @argRef index hi =>
      refine ⟨_, run_argRef 0 m index, le_max_left .., fun room h => ⟨?_, rfl, fun _ => ?_⟩⟩
      · exact printable_argRef (n := 0) (m := m) hi (by omega)
      · omega
  | @call name args offset hn hnum hargs =>
      obtain ⟨m', hr, hm, hp⟩ := run_spacedTexts args (n := 0) (m := max m 1) hargs
      refine ⟨m', run_call hn hr offset, (le_max_left ..).trans hm,
        fun room h => ⟨?_, rfl, fun _ => ?_⟩⟩
      · exact printable_call hn hnum hm hp (by rwa [Nat.zero_add])
      · omega
  | concat => cases hc

theorem run_render : ∀ (nodes : List Expr), (∀ e ∈ nodes, e.Canonical) →
    (∀ e ∈ nodes, e.isConcat = false) → ∀ m : ℕ,
    ∃ m', run ⟨0, m, none⟩ (render nodes).toList = ⟨0, m', none⟩ ∧ m ≤ m' ∧
      ∀ room, m' ≤ room → ∀ e ∈ nodes, PrintableNode room e
  | [], _, _, m => ⟨m, rfl, le_rfl, by simp⟩
  | e :: es, h, hc, m => by
      obtain ⟨m₁, hr₁, hm₁, hp₁⟩ := run_text (h e List.mem_cons_self) (hc e List.mem_cons_self) m
      obtain ⟨m₂, hr₂, hm₂, hp₂⟩ := run_render es (fun e' h' => h e' (List.mem_cons_of_mem e h'))
        (fun e' h' => hc e' (List.mem_cons_of_mem e h')) m₁
      refine ⟨m₂, ?_, hm₁.trans hm₂, fun room hroom => ?_⟩
      · rw [render_cons, String.toList_append, run_append, hr₁, hr₂]
      · exact List.forall_mem_cons.2 ⟨hp₁ room (hm₂.trans hroom), hp₂ room hroom⟩

end BraceScan

/-- The greatest number of braces that a template has open at once, quotes aside. -/
def braceNesting (template : String) : ℕ := (BraceScan.run ⟨0, 0, none⟩ template.toList).deepest

/-! ### Reading canonical templates -/

/-- The text of canonical nodes behind a template adds the nodes, unless runs of text touch. -/
theorem exists_derivesNodes_render {room : ℕ} : ∀ {nodes : List Expr} {src : List Char}
    {done : List Expr}, (∀ e ∈ nodes, e.Canonical) → (∀ e ∈ nodes, PrintableNode room e) →
    .literal "" ∉ nodes → nodes.IsChain (fun e e' => ¬(e.isRun = true ∧ e'.isRun = true)) →
    DerivesNodes room src done → (EndsGroup src ∨ ∀ e ∈ nodes.head?, e.isRun = false) →
    ∃ nodes', DerivesNodes room (src ++ (render nodes).toList) (done ++ nodes') ∧
      forgetAll nodes' = forgetAll nodes
  | [], src, done, _, _, _, _, hd, _ => ⟨[], by simpa [render] using hd, rfl⟩
  | e :: es, src, done, h, hp, hne, hl, hd, hs => by
      obtain ⟨he, hes⟩ := List.forall_mem_cons.1 h
      obtain ⟨hpe, hpes⟩ := List.forall_mem_cons.1 hp
      obtain ⟨hle, hles⟩ := List.isChain_cons.1 hl
      rw [List.mem_cons, not_or] at hne
      rw [render_cons, String.toList_append, ← List.append_assoc]
      cases hr : e.isRun with
      | true =>
          obtain ⟨text, rfl, hb⟩ := Expr.isRun_iff.1 hr
          have hend : EndsGroup src := hs.resolve_right fun hs => by simp [hs _ rfl] at hr
          have hrun : text.toList ≠ [] := fun ht => hne.1 (by rw [String.toList_eq_nil_iff.1 ht])
          have hnext : ∀ e' ∈ es.head?, e'.isRun = false := fun e' he' =>
            Bool.eq_false_iff.2 fun hr' => hle e' he' ⟨hr, hr'⟩
          obtain ⟨nodes', hn, hf'⟩ := exists_derivesNodes_render hes hpes hne.2 hles
            (hd.run hend hrun (holdsBrace_eq_false_iff.1 hb)) (.inr hnext)
          rw [String.ofList_toList] at hn
          refine ⟨.literal text :: nodes', by simpa [Expr.text, hb] using hn, ?_⟩
          simpa [forgetAll, Expr.forget, Expr.relocate] using hf'
      | false =>
          obtain ⟨e', hg, hf⟩ := exists_derivesGroup_text hpe hr (byteLength src)
          obtain ⟨nodes', hn, hf'⟩ := exists_derivesNodes_render hes hpes hne.2 hles
            (hd.group hg) (.inl (hg.endsGroup src))
          refine ⟨e' :: nodes', by simpa using hn, ?_⟩
          rw [normal_of_canonical e he] at hf
          simpa [forgetAll, hf] using hf'

/-- Canonical nodes are read back from their text, with nothing but positions changed. -/
theorem parse_render_canonical (limits : Limits) (nodes : List Expr) (h : CanonicalNodes nodes)
    (hlength : (render nodes).utf8ByteSize ≤ limits.maxLength)
    (hdepth : braceNesting (render nodes) ≤ limits.maxDepth) :
    ∃ nodes', parse limits (render nodes) = .ok nodes' ∧ forgetAll nodes' = forgetAll nodes := by
  rw [parse_eq_read hlength]
  by_cases he : Expr.literal "" ∈ nodes
  · obtain ⟨e, rfl⟩ := List.length_eq_one_iff.1 (h.noEmpty.resolve_right fun hn => hn he)
    obtain rfl := List.mem_singleton.1 he
    exact ⟨[.literal ""], read_eq_ok_iff.2 (.inl ⟨by decide, rfl⟩), rfl⟩
  · obtain ⟨m, hr, -, hp⟩ := BraceScan.run_render nodes h.canonical h.noConcat 0
    have hm : m ≤ limits.maxDepth := by rwa [braceNesting, hr] at hdepth
    obtain ⟨nodes', hd, hf⟩ := exists_derivesNodes_render h.canonical (hp limits.maxDepth hm) he
      h.apart .nil (.inl EndsGroup.nil)
    rw [List.nil_append, List.nil_append] at hd
    refine ⟨nodes', read_eq_ok_iff.2 (.inr ⟨fun hs => h.ne_nil ?_, hd⟩), hf⟩
    rw [hd.src_eq_nil_iff.1 hs] at hf
    exact List.map_eq_nil_iff.1 hf.symm

theorem parse_render_canonical_call :
    CanonicalNodes [.literal "a",
      .call "join" [.literal "", .concat [.literal "b\"c", .argRef 0]] 7, .literal "\x7b"] ∧
    ∃ nodes', parse Limits.standard (render [.literal "a",
        .call "join" [.literal "", .concat [.literal "b\"c", .argRef 0]] 7, .literal "\x7b"]) =
        .ok nodes' ∧
      forgetAll nodes' = [.literal "a",
        .call "join" [.literal "", .concat [.literal "b\"c", .argRef 0]] 0, .literal "\x7b"] := by
  have hargs : ∀ e ∈ [Expr.literal "", .concat [.literal "b\"c", .argRef 0]], e.Canonical := by
    refine List.forall_mem_cons.2 ⟨.literal _, List.forall_mem_singleton.2 (.concat ?_ ?_ ?_ ?_)⟩
    · decide
    · decide
    · simp [Expr.isLiteral]
    · exact List.forall_mem_cons.2 ⟨.literal _, List.forall_mem_singleton.2 (.argRef (by decide))⟩
  have h : CanonicalNodes [.literal "a",
      .call "join" [.literal "", .concat [.literal "b\"c", .argRef 0]] 7, .literal "\x7b"] := by
    refine ⟨by simp, by simp [Expr.isConcat], .inr (by simp), by simp [Expr.isRun], ?_⟩
    refine List.forall_mem_cons.2 ⟨.literal _, List.forall_mem_cons.2 ⟨.call ?_ ?_ hargs, ?_⟩⟩
    · exact ⟨by decide, by simp [isWordChar, Text.isBlank]⟩
    · simp
    · exact List.forall_mem_singleton.2 (.literal _)
  exact ⟨h, parse_render_canonical Limits.standard _ h (by decide) (by decide)⟩

end CacheKeys.Template
