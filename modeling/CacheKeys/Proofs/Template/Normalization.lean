import Mathlib
import CacheKeys.Proofs.Template.Offsets
import CacheKeys.Proofs.Template.Pieces
import CacheKeys.Proofs.Template.RoundTrip

/-! # Calls and their normal forms

The text of a call that is an argument, or part of a juxtaposition, is a template of its own.
Reading it gives the normal form of the call (`Expr.normal`): juxtapositions inside juxtapositions
are spread and texts that come to stand next to each other merge.  The normal form is canonical
(`canonical_normal`), whatever was nested in the tree, so it is written and read without any further
change; `parse_text_of_call` says this of every call of a template. -/

namespace CacheKeys.Template

/-! ### Trees inside trees -/

/-- The tree `e` stands in the tree, at any depth. -/
inductive Expr.IsIn (e : Expr) : Expr → Prop
  | root : IsIn e e
  | argument {name : String} {args : List Expr} {offset : ℕ} {arg : Expr} :
      arg ∈ args → IsIn e arg → IsIn e (.call name args offset)
  | part {parts : List Expr} {part : Expr} :
      part ∈ parts → IsIn e part → IsIn e (.concat parts)

/-- What stands in a tree can be written wherever the tree can, with as many braces still to open.
-/
theorem Printable.of_isIn {room : ℕ} {e root : Expr} (hin : e.IsIn root) (h : Printable room root) :
    Printable room e := by
  induction hin generalizing room with
  | root => exact h
  | argument ha _ ih =>
      cases h with
      | call _ _ hargs =>
          have hp := ih (hargs _ ha)
          exact hp.succ
  | part hp _ ih =>
      cases h with
      | concat _ hparts => exact ih (hparts _ hp)

/-! ### Normal forms are canonical -/

/-- Parts that make up a canonical juxtaposition, also after more of them have been added. -/
structure Parts.IsNormal (p : Parts) : Prop where
  canonical : ∀ e ∈ p.done, e.Canonical
  noConcat : ∀ e ∈ p.done, e.isConcat = false
  apart : p.done.IsChain (fun e e' => ¬(e.isLiteral = true ∧ e'.isLiteral = true))
  last : ∀ e ∈ p.done.getLast?, e.isLiteral = false

namespace Parts.IsNormal

variable {p : Parts}

theorem none : Parts.none.IsNormal := by
  constructor
  · exact List.forall_mem_nil _
  · exact List.forall_mem_nil _
  · exact List.isChain_nil
  · intro e he
    simp [Parts.none] at he

theorem pushText (h : p.IsNormal) (text : String) : (p.pushText text).IsNormal :=
  ⟨h.canonical, h.noConcat, h.apart, h.last⟩

theorem canonical_all (h : p.IsNormal) : ∀ e ∈ p.all, e.Canonical := by
  obtain ⟨done, last?⟩ := p
  cases last? with
  | none => exact h.canonical
  | some text =>
      have htext : ∀ e ∈ [Expr.literal text], e.Canonical :=
        List.forall_mem_singleton.2 (.literal text)
      exact List.forall_mem_append.2 ⟨h.canonical, htext⟩

theorem noConcat_all (h : p.IsNormal) : ∀ e ∈ p.all, e.isConcat = false := by
  obtain ⟨done, last?⟩ := p
  cases last? with
  | none => exact h.noConcat
  | some text => exact List.forall_mem_append.2 ⟨h.noConcat, List.forall_mem_singleton.2 rfl⟩

/-- The text at the end stands behind no other text. -/
theorem apart_all (h : p.IsNormal) :
    p.all.IsChain (fun e e' => ¬(e.isLiteral = true ∧ e'.isLiteral = true)) := by
  obtain ⟨done, last?⟩ := p
  cases last? with
  | none => exact h.apart
  | some text =>
      refine List.isChain_append.2 ⟨h.apart, List.isChain_singleton _, fun e he e' _ hl => ?_⟩
      have hlast := h.last e he
      rw [hl.1] at hlast
      cases hlast

theorem pushGroup (h : p.IsNormal) {e : Expr} (hc : e.Canonical) (hn : e.isConcat = false)
    (hl : e.isLiteral = false) : (p.pushGroup e).IsNormal := by
  constructor
  · exact List.forall_mem_append.2 ⟨h.canonical_all, List.forall_mem_singleton.2 hc⟩
  · exact List.forall_mem_append.2 ⟨h.noConcat_all, List.forall_mem_singleton.2 hn⟩
  · refine List.isChain_append.2 ⟨h.apart_all, List.isChain_singleton _, fun e₁ _ e₂ he₂ hl' => ?_⟩
    have he : e₂ = e := by simpa using he₂.symm
    rw [he, hl] at hl'
    exact Bool.false_ne_true hl'.2
  · intro e' he'
    have he : e' = e := by simpa [Parts.pushGroup] using he'.symm
    rw [he, hl]

/-- Such parts are a canonical tree, if there are any. -/
theorem canonical_ofParts (h : p.IsNormal) (hne : p.all ≠ []) : (ofParts p.all).Canonical := by
  have hc := h.canonical_all
  have hn := h.noConcat_all
  have ha := h.apart_all
  match hp : p.all with
  | [] => exact absurd hp hne
  | [e] =>
      rw [hp] at hc
      exact hc e List.mem_cons_self
  | e :: e' :: es =>
      rw [hp] at hc hn ha
      exact .concat (by simp) hn ha hc

end Parts.IsNormal

theorem all_partsOnto_ne_nil {room : ℕ} {e : Expr} (h : Printable room e) :
    (e.partsOnto Parts.none).all ≠ [] := by
  have hopen := derivesOpen_argumentText e h (DerivesOpen.none room 0)
  obtain ⟨parts, hp, hf⟩ := hopen.derivesParts
  intro hnil
  rw [hnil] at hf
  have hparts : parts = [] := List.map_eq_nil_iff.1 hf
  exact hp.parts_ne_nil (argumentText_ne_nil h) hparts

mutual

/-- The induction is on the tree: what stands between groups is text, which merges, or a group. -/
theorem isNormal_partsOnto : ∀ (e : Expr) {room : ℕ} {p : Parts}, Printable room e →
    p.IsNormal → (e.partsOnto p).IsNormal
  | .literal text, _, _, _, hp => hp.pushText text
  | .argRef index, _, _, .argRef hi, hp => hp.pushGroup (.argRef hi) rfl rfl
  | .call name args offset, _, _, .call hn hnum hargs, hp => by
      refine hp.pushGroup (.call hn (fun ha => hnum ?_) (canonical_normalAll args hargs)) rfl rfl
      cases args with
      | nil => rfl
      | cons e es => cases ha
  | .concat parts, _, _, .concat _ hparts, hp => isNormal_allPartsOnto parts hparts hp

theorem isNormal_allPartsOnto : ∀ (es : List Expr) {room : ℕ} {p : Parts},
    (∀ e ∈ es, Printable room e) → p.IsNormal → (allPartsOnto es p).IsNormal
  | [], _, _, _, hp => hp
  | e :: es, _, _, h, hp => by
      obtain ⟨he, hes⟩ := List.forall_mem_cons.1 h
      have hp' := isNormal_partsOnto e he hp
      rw [allPartsOnto]
      exact isNormal_allPartsOnto es hes hp'

theorem canonical_normalAll : ∀ (es : List Expr) {room : ℕ}, (∀ e ∈ es, Printable room e) →
    ∀ e ∈ normalAll es, e.Canonical
  | [], _, _ => List.forall_mem_nil _
  | e :: es, _, h => by
      obtain ⟨he, hes⟩ := List.forall_mem_cons.1 h
      have hp := isNormal_partsOnto e he Parts.IsNormal.none
      have hnormal := hp.canonical_ofParts (all_partsOnto_ne_nil he)
      rw [normalAll]
      exact List.forall_mem_cons.2 ⟨hnormal, canonical_normalAll es hes⟩

end

/-- A tree that is read back from its text is canonical. -/
theorem canonical_normal {room : ℕ} {e : Expr} (h : Printable room e) : e.normal.Canonical := by
  have hp := isNormal_partsOnto e h Parts.IsNormal.none
  exact hp.canonical_ofParts (all_partsOnto_ne_nil h)

theorem length_normalAll (es : List Expr) : (normalAll es).length = es.length := by
  induction es with
  | nil => rfl
  | cons e es ih => rw [normalAll, List.length_cons, ih, List.length_cons]

/-! ### Positions -/

theorem Expr.isConcat_forget (e : Expr) : e.forget.isConcat = e.isConcat := by
  cases e <;> rfl

theorem Expr.isLiteral_forget (e : Expr) : e.forget.isLiteral = e.isLiteral := by
  cases e <;> rfl

theorem Expr.exists_of_forget_eq_call {e : Expr} {name : String} {args : List Expr}
    (h : e.forget = .call name args 0) :
    ∃ args' offset, e = .call name args' offset ∧ forgetAll args' = args := by
  cases e with
  | literal => cases h
  | argRef => cases h
  | concat => cases h
  | call name' args' offset =>
      rw [Expr.forget_call] at h
      injection h with hname hargs
      exact ⟨args', offset, by rw [hname], hargs⟩

mutual

/-- Positions do not matter for a tree to be canonical. -/
theorem Expr.canonical_of_forget : ∀ e : Expr, e.forget.Canonical → e.Canonical
  | .literal text, _ => .literal text
  | .argRef index, h => by
      cases h with
      | argRef hi => exact .argRef hi
  | .call name args offset, h => by
      rw [Expr.forget_call] at h
      cases h with
      | call hn hnum hargs =>
          refine .call hn (fun ha => hnum ?_) (canonical_of_forgetAll args hargs)
          rw [ha]
          rfl
  | .concat parts, h => by
      rw [Expr.forget_concat] at h
      cases h with
      | concat hlen hc ha hparts =>
          refine .concat ?_ ?_ ?_ (canonical_of_forgetAll parts hparts)
          · rwa [forgetAll, List.length_map] at hlen
          · intro e he
            have hf := hc e.forget (List.mem_map_of_mem he)
            rwa [Expr.isConcat_forget] at hf
          · rw [forgetAll, List.isChain_map] at ha
            simpa only [Expr.isLiteral_forget] using ha

theorem canonical_of_forgetAll : ∀ es : List Expr, (∀ e ∈ forgetAll es, e.Canonical) →
    ∀ e ∈ es, e.Canonical
  | [], _ => List.forall_mem_nil _
  | e :: es, h => by
      obtain ⟨he, hes⟩ := List.forall_mem_cons.1 h
      have hc := Expr.canonical_of_forget e he
      exact List.forall_mem_cons.2 ⟨hc, canonical_of_forgetAll es hes⟩

end

/-- What is read back from the text of a tree is its own normal form. -/
theorem normal_of_forget_eq_normal {room : ℕ} {e e' : Expr} (h : Printable room e)
    (hf : e'.forget = e.normal) : e'.normal = e'.forget := by
  have hcanonical : e'.forget.Canonical := by
    rw [hf]
    exact canonical_normal h
  exact normal_of_canonical e' (Expr.canonical_of_forget e' hcanonical)

/-! ### Meanings -/

theorem exists_lower_of_registered {R : Registry} {e : Expr}
    (h : ∀ site ∈ e.calls, R.contains site.name = true) : ∃ r, lower R e = .ok r := by
  have hall : ∀ site ∈ Expr.callsAll [e], R.contains site.name = true := by
    rwa [callsAll_singleton]
  obtain ⟨r, hr⟩ := exists_lowerAll_iff.2 hall
  obtain ⟨s, -, hs, -⟩ := lowerAll_cons_eq_ok_iff.1 hr
  exact ⟨s, hs⟩

/-- A tree with the meaning of a resolved one can be resolved, and evaluates to the same texts. -/
theorem exists_lower_of_value_eq {R : Registry} {e e' : Expr} {r : Stage × List Diagnostic}
    (hr : lower R e = .ok r) (hv : ∀ ctx, value R ctx e' = value R ctx e) :
    ∃ r', lower R e' = .ok r' ∧ ∀ ctx, r'.1.render ctx = r.1.render ctx := by
  have hvalue : ∀ ctx, value R ctx e' = some (r.1.render ctx) := by
    intro ctx
    rw [hv, value, hr]
    rfl
  cases hr' : lower R e' with
  | error err =>
      have hnone := hvalue ⟨[]⟩
      rw [value, hr'] at hnone
      cases hnone
  | ok r' =>
      refine ⟨r', rfl, fun ctx => ?_⟩
      have hsome := hvalue ctx
      rw [value, hr'] at hsome
      exact Option.some.inj hsome

theorem value_of_forget_eq_normal (R : Registry) (ctx : Context) {e e' : Expr}
    (hf : e'.forget = e.normal) : value R ctx e' = value R ctx e := by
  calc value R ctx e' = value R ctx e'.forget := (value_relocate R ctx (fun _ => 0) e').symm
    _ = value R ctx e.normal := by rw [hf]
    _ = value R ctx e := value_normal R ctx e

/-! ### Texts of calls -/

theorem printableNode_call {room : ℕ} {name : String} {args : List Expr} {offset : ℕ}
    (h : Printable room (.call name args offset)) :
    PrintableNode room (.call name args offset) := by
  refine ⟨h, rfl, fun _ => ?_⟩
  cases h
  omega

/-- The text of a call is a template with one node, the normal form of the call. -/
theorem exists_parse_text_call {depth length : ℕ} {name : String} {args : List Expr} {offset : ℕ}
    (h : Printable depth (.call name args offset))
    (hl : (Expr.call name args offset).text.utf8ByteSize ≤ length) :
    ∃ args' offset',
      parse ⟨depth, length⟩ (Expr.call name args offset).text = .ok [.call name args' offset'] ∧
      Printable depth (.call name args' offset') ∧
      (Expr.call name args' offset').forget = (Expr.call name args offset).normal := by
  obtain ⟨e', hg, hf⟩ := exists_derivesGroup_text (printableNode_call h) rfl 0
  have hnormal : (Expr.call name args offset).normal = .call name (normalAll args) 0 := rfl
  obtain ⟨args', offset', rfl, -⟩ := Expr.exists_of_forget_eq_call (hf.trans hnormal)
  have hne : (Expr.call name args offset).text.toList ≠ [] := argumentText_ne_nil h
  refine ⟨args', offset', ?_, hg.printable.2, hf⟩
  refine (parse_eq_ok_iff_derives _ _ _).2 ⟨hl, .inr ⟨hne, ?_⟩⟩
  exact .group .nil hg

/-- Every call in a template, at whatever depth, is read back from its own text as one call of the
same function with as many arguments, which means the same and which reading leaves as it is. -/
theorem parse_text_of_call {limits : Limits} {template : String} {nodes : List Expr} {root : Expr}
    {name : String} {args : List Expr} {offset length : ℕ}
    (hp : parse limits template = .ok nodes) (hroot : root ∈ nodes)
    (hin : (Expr.call name args offset).IsIn root)
    (hl : (Expr.call name args offset).text.utf8ByteSize ≤ length) :
    ∃ args' offset',
      parse ⟨limits.maxDepth, length⟩ (Expr.call name args offset).text =
        .ok [.call name args' offset'] ∧
      args'.length = args.length ∧
      (∀ R : Registry,
        (∀ site ∈ (Expr.call name args offset).calls, R.contains site.name = true) →
        ∃ r r', lower R (.call name args offset) = .ok r ∧
          lower R (.call name args' offset') = .ok r' ∧
          ∀ ctx, r'.1.render ctx = r.1.render ctx) ∧
      ∀ length', (Expr.call name args' offset').text.utf8ByteSize ≤ length' →
        ∃ e'', parse ⟨limits.maxDepth, length'⟩ (Expr.call name args' offset').text = .ok [e''] ∧
          e''.forget = (Expr.call name args' offset').forget := by
  have hderives := ((parse_eq_ok_iff_derives limits template nodes).1 hp).2
  have hprintable : Printable limits.maxDepth (.call name args offset) :=
    Printable.of_isIn hin (hderives.printable root hroot).1
  obtain ⟨args', offset', hparse, hprintable', hforget⟩ := exists_parse_text_call hprintable hl
  refine ⟨args', offset', hparse, ?_, ?_, ?_⟩
  · have hargs : forgetAll args' = normalAll args := by
      rw [Expr.forget_call] at hforget
      injection hforget
    have hlength := congrArg List.length hargs
    rwa [forgetAll, List.length_map, length_normalAll] at hlength
  · intro R hregistered
    obtain ⟨r, hr⟩ := exists_lower_of_registered hregistered
    have hvalue := fun ctx => value_of_forget_eq_normal R ctx hforget
    obtain ⟨r', hr', hrender⟩ := exists_lower_of_value_eq hr hvalue
    exact ⟨r, r', hr, hr', hrender⟩
  · intro length' hl'
    obtain ⟨args'', offset'', hparse', -, hforget'⟩ := exists_parse_text_call hprintable' hl'
    have hfixed := normal_of_forget_eq_normal hprintable hforget
    exact ⟨_, hparse', hforget'.trans hfixed⟩

theorem parse_text_of_call_in_juxtaposition :
    parse Limits.standard
        "\x7bupper x\x7bjoin \x7ba\x7b\"b\"\x7b\"c\"\x7d\x7d\x7d \"\"\x7d\x7b0\x7d\x7d" =
      .ok [.call "upper" [.concat [.literal "x", .call "join"
        [.concat [.literal "a", .concat [.literal "b", .literal "c"]], .literal ""] 9,
        .argRef 0]] 1] ∧
    ∃ args' offset',
      parse ⟨32, 13⟩ "\x7bjoin abc \"\"\x7d" = .ok [.call "join" args' offset'] ∧
      args'.length = 2 ∧
      (∀ R : Registry, R.contains "join" = true →
        ∃ r r', lower R (.call "join"
            [.concat [.literal "a", .concat [.literal "b", .literal "c"]], .literal ""] 9) = .ok r ∧
          lower R (.call "join" args' offset') = .ok r' ∧
          ∀ ctx, r'.1.render ctx = r.1.render ctx) ∧
      ∀ length', (Expr.call "join" args' offset').text.utf8ByteSize ≤ length' →
        ∃ e'', parse ⟨32, length'⟩ (Expr.call "join" args' offset').text = .ok [e''] ∧
          e''.forget = (Expr.call "join" args' offset').forget := by
  have hp : parse Limits.standard
      "\x7bupper x\x7bjoin \x7ba\x7b\"b\"\x7b\"c\"\x7d\x7d\x7d \"\"\x7d\x7b0\x7d\x7d" =
      .ok [.call "upper" [.concat [.literal "x", .call "join"
        [.concat [.literal "a", .concat [.literal "b", .literal "c"]], .literal ""] 9,
        .argRef 0]] 1] := by
    decide +kernel
  have htext : (Expr.call "join"
      [.concat [.literal "a", .concat [.literal "b", .literal "c"]], .literal ""] 9).text =
      "\x7bjoin abc \"\"\x7d" := by
    decide +kernel
  have hin : (Expr.call "join"
      [.concat [.literal "a", .concat [.literal "b", .literal "c"]], .literal ""] 9).IsIn
      (.call "upper" [.concat [.literal "x", .call "join"
        [.concat [.literal "a", .concat [.literal "b", .literal "c"]], .literal ""] 9,
        .argRef 0]] 1) := by
    refine .argument List.mem_cons_self (.part ?_ .root)
    exact List.mem_cons_of_mem _ List.mem_cons_self
  have hl : (Expr.call "join" [.concat [.literal "a", .concat [.literal "b", .literal "c"]],
      .literal ""] 9).text.utf8ByteSize ≤ 13 := by
    rw [htext]
    decide
  obtain ⟨args', offset', hparse, hlength, hlower, hfixed⟩ :=
    parse_text_of_call hp List.mem_cons_self hin hl
  rw [htext] at hparse
  refine ⟨hp, args', offset', hparse, hlength, fun R hR => hlower R ?_, hfixed⟩
  simpa [Expr.calls, Expr.callsAll] using hR

end CacheKeys.Template
