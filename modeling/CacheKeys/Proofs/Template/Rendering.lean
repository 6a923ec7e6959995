import Mathlib
import CacheKeys.Template.Printer
import CacheKeys.Proofs.Template.Relocation

/-! # The text of a tree is read back

`Printable room e` says that the text of `e` can be read with `room` braces still to open: names
are words that are not taken for numbers, indices fit, and no juxtaposition is empty.  Reading the
text of `e` does not always give `e`: parts of nested juxtapositions are spread, and texts that
come to stand next to each other merge.  `Expr.normal` is the tree that is read
(`exists_derivesItem_argumentText`), with all positions forgotten. -/

namespace CacheKeys.Template

/-! ### Trees without positions -/

/-- The tree with all positions forgotten. -/
def Expr.forget (e : Expr) : Expr := e.relocate fun _ => 0

/-- The trees with all positions forgotten. -/
def forgetAll (es : List Expr) : List Expr := es.map Expr.forget

theorem Expr.forget_call (name : String) (args : List Expr) (offset : ℕ) :
    (Expr.call name args offset).forget = .call name (forgetAll args) 0 := by
  simp [forget, relocate, forgetAll, relocateAll_eq_map]

theorem Expr.forget_concat (parts : List Expr) :
    (Expr.concat parts).forget = .concat (forgetAll parts) := by
  simp [forget, relocate, forgetAll, relocateAll_eq_map]

theorem forget_ofParts (parts : List Expr) :
    (ofParts parts).forget = ofParts (forgetAll parts) := by
  rw [Expr.forget, relocate_ofParts, relocateAll_eq_map]
  rfl

/-! ### Parts that are gathered -/

/-- Parts of an item; text at the end may still grow. -/
structure Parts where
  done : List Expr
  text : Option String

namespace Parts

def none : Parts := ⟨[], .none⟩

def all (p : Parts) : List Expr :=
  match p.text with
  | .none => p.done
  | some text => p.done ++ [.literal text]

def pushText (p : Parts) (text : String) : Parts := ⟨p.done, some (p.text.getD "" ++ text)⟩

/-- Adds the value of a group. -/
def pushGroup (p : Parts) (e : Expr) : Parts := ⟨p.all ++ [e], .none⟩

end Parts

mutual

/-- The parts that are read when the text of an argument stands behind others. -/
def Expr.partsOnto : Expr → Parts → Parts
  | .literal text, p => p.pushText text
  | .argRef index, p => p.pushGroup (.argRef index)
  | .call name args _, p => p.pushGroup (.call name (normalAll args) 0)
  | .concat parts, p => allPartsOnto parts p

/-- The parts that are read when the texts of parts stand behind others. -/
def allPartsOnto : List Expr → Parts → Parts
  | [], p => p
  | e :: es, p => allPartsOnto es (e.partsOnto p)

/-- The trees that the texts of arguments are read as. -/
def normalAll : List Expr → List Expr
  | [] => []
  | e :: es => ofParts (e.partsOnto Parts.none).all :: normalAll es

end

/-- The tree that the text of an argument is read as. -/
def Expr.normal (e : Expr) : Expr := ofParts (e.partsOnto Parts.none).all

/-! ### Trees that can be read back -/

/-- A name that is read as a word. -/
def IsName (name : String) : Prop := name ≠ "" ∧ ∀ c ∈ name.toList, isWordChar c = true

/-- The text of the tree can be read where `room` more braces may be opened. -/
inductive Printable : ℕ → Expr → Prop
  | literal (room : ℕ) (text : String) : Printable room (.literal text)
  | argRef {room index : ℕ} : index < 2 ^ 64 → Printable (room + 1) (.argRef index)
  | call {room : ℕ} {name : String} {args : List Expr} {offset : ℕ} :
      IsName name → (args = [] → Text.isNumeral name.toList = false) →
      (∀ e ∈ args, Printable room e) → Printable (room + 1) (.call name args offset)
  | concat {room : ℕ} {parts : List Expr} :
      parts ≠ [] → (∀ e ∈ parts, Printable room e) → Printable room (.concat parts)

/-! ### Words, quotes and numerals -/

theorem isWordChar_of_isDigit {c : Char} (h : c.isDigit = true) : isWordChar c = true := by
  by_contra hc
  simp only [isWordChar, Text.isBlank, Bool.not_eq_true, Bool.not_eq_false', Bool.or_eq_true,
    beq_iff_eq] at hc
  rcases hc with ((((((rfl | rfl) | rfl) | rfl) | rfl) | rfl) | rfl) | rfl <;>
    exact absurd h (by decide)

theorem isNumeral_toString (n : ℕ) : Text.isNumeral (toString n).toList = true := by
  rw [Nat.toString_eq_ofList_toDigits, String.toList_ofList]
  simp only [Text.isNumeral, Bool.and_eq_true, Bool.not_eq_true', List.isEmpty_eq_false_iff]
  exact ⟨Nat.toDigits_ne_nil, List.all_eq_true.2 fun c hc =>
    Nat.isDigit_of_mem_toDigits (by decide) (by decide) hc⟩

theorem numeralValue_toString (n : ℕ) : Text.numeralValue (toString n).toList = n := by
  rw [Nat.toString_eq_ofList_toDigits, String.toList_ofList]
  exact Nat.ofDigitChars_ten_toDigits

theorem isName_toString (n : ℕ) : IsName (toString n) := by
  have h := isNumeral_toString n
  simp only [Text.isNumeral, Bool.and_eq_true, Bool.not_eq_true', List.isEmpty_eq_false_iff] at h
  refine ⟨fun he => h.1 (by rw [he]; rfl), fun c hc => ?_⟩
  exact isWordChar_of_isDigit (List.all_eq_true.1 h.2 c hc)

theorem derivesText_word {cs : List Char} (hne : cs ≠ []) (h : ∀ c ∈ cs, isWordChar c = true) :
    DerivesText cs (String.ofList cs) := by
  induction cs with
  | nil => exact absurd rfl hne
  | cons c cs ih =>
      have hc : DerivesText [c] (String.singleton c) := .char (h c List.mem_cons_self)
      by_cases hcs : cs = []
      · rwa [hcs, ← String.singleton_eq_ofList]
      · have ht := hc.append (ih hcs fun d hd => h d (List.mem_cons_of_mem c hd))
        rwa [← String.ofList_cons] at ht

theorem escape_append (cs ds : List Char) :
    Quoted.escape (cs ++ ds) = Quoted.escape cs ++ Quoted.escape ds := by
  induction cs with
  | nil => rfl
  | cons c cs ih =>
      simp only [List.cons_append, Quoted.escape, ih]
      split <;> rfl

theorem derivesQuoted_escape (cs : List Char) :
    DerivesQuoted (Quoted.escape cs) (String.ofList cs) := by
  induction cs using List.reverseRecOn with
  | nil => exact .nil
  | append_singleton cs c ih =>
      have hp : String.ofList (cs ++ [c]) = (String.ofList cs).push c := by
        simp
      rw [escape_append, hp]
      by_cases hc : Quoted.needsEscape c = true
      · have he : c = '"' ∨ c = '\\' := by simpa [Quoted.needsEscape] using hc
        simp only [Quoted.escape, hc, if_true]
        exact ih.escape he
      · have he : c ≠ '"' ∧ c ≠ '\\' := by simpa [Quoted.needsEscape] using hc
        simp only [Quoted.escape, hc, Bool.false_eq_true, if_false]
        exact ih.plain he.1 he.2

theorem derivesText_write (s : String) : DerivesText (Quoted.write s).toList s := by
  have h := DerivesText.quoted (derivesQuoted_escape s.toList)
  rw [String.ofList_toList] at h
  rwa [Quoted.write, String.toList_ofList]

theorem isBareWord_iff {s : String} :
    isBareWord s = true ↔ s ≠ "" ∧ ∀ c ∈ s.toList, isWordChar c = true ∧ c ≠ '\\' := by
  simp [isBareWord, isWordChar, and_assoc]

theorem derivesText_literal (s : String) :
    DerivesText (Expr.literal s).argumentText.toList s := by
  rw [Expr.argumentText]
  split
  · next h =>
    obtain ⟨hne, hw⟩ := isBareWord_iff.1 h
    have ht := derivesText_word (fun he => hne (String.toList_eq_nil_iff.1 he))
      fun c hc => (hw c hc).1
    rwa [String.ofList_toList] at ht
  · exact derivesText_write s

/-! ### Reading items back -/

/-- The text `src` at `pos` is a juxtaposition with the parts `p`, but for positions. -/
def DerivesOpen (room pos : ℕ) (src : List Char) (p : Parts) : Prop :=
  match p.text with
  | none => EndsGroup src ∧ ∃ done, DerivesParts room pos src done ∧ forgetAll done = p.done
  | some text => ∃ before last done, src = before ++ last ∧ EndsGroup before ∧
      DerivesParts room pos before done ∧ forgetAll done = p.done ∧ DerivesText last text

variable {room pos : ℕ}

theorem DerivesOpen.none (room pos : ℕ) : DerivesOpen room pos [] Parts.none :=
  ⟨EndsGroup.nil, [], .nil, rfl⟩

theorem DerivesOpen.pushText {src src' : List Char} {p : Parts} {text : String}
    (h : DerivesOpen room pos src p) (ht : DerivesText src' text) :
    DerivesOpen room pos (src ++ src') (p.pushText text) := by
  obtain ⟨done, last?⟩ := p
  cases last? with
  | none =>
      obtain ⟨he, done', hd, hf⟩ := h
      refine ⟨src, src', done', rfl, he, hd, hf, ?_⟩
      simpa using ht
  | some last =>
      obtain ⟨before, src₁, done', rfl, he, hd, hf, ht₁⟩ := h
      exact ⟨before, src₁ ++ src', done', List.append_assoc .., he, hd, hf, ht₁.append ht⟩

theorem DerivesOpen.derivesParts {src : List Char} {p : Parts} (h : DerivesOpen room pos src p) :
    ∃ parts, DerivesParts room pos src parts ∧ forgetAll parts = p.all := by
  obtain ⟨done, last?⟩ := p
  cases last? with
  | none => exact h.2
  | some last =>
      obtain ⟨before, src₁, done', rfl, he, hd, hf, ht⟩ := h
      refine ⟨_, hd.text he ht, ?_⟩
      simpa [forgetAll, Parts.all, Expr.forget, Expr.relocate] using hf

theorem DerivesOpen.pushGroup {src src' : List Char} {p : Parts} {e : Expr}
    (h : DerivesOpen room pos src p) (hg : DerivesGroup room (pos + byteLength src) src' e) :
    DerivesOpen room pos (src ++ src') (p.pushGroup e.forget) := by
  obtain ⟨parts, hp, hf⟩ := h.derivesParts
  refine ⟨hg.endsGroup src, parts ++ [e], hp.group hg, ?_⟩
  show forgetAll (parts ++ [e]) = p.all ++ [e.forget]
  rw [← hf]
  simp [forgetAll]

theorem DerivesOpen.derivesItem {src : List Char} {p : Parts} (h : DerivesOpen room pos src p)
    (hne : src ≠ []) :
    ∃ item, DerivesItem room pos src item ∧ item.expr.forget = ofParts p.all := by
  obtain ⟨parts, hp, hf⟩ := h.derivesParts
  refine ⟨_, .parts hp hne, ?_⟩
  rw [← hf, ← forget_ofParts]
  rfl

/-- A word at a position, as an item. -/
theorem derivesItem_word {name : String} (hn : IsName name) (room pos : ℕ) :
    DerivesItem room pos name.toList ⟨pos, name, true, .literal name⟩ := by
  have hne : name.toList ≠ [] := fun he => hn.1 (String.toList_eq_nil_iff.1 he)
  have ht := derivesText_word hne hn.2
  have hi := DerivesItem.parts (DerivesParts.nil.text EndsGroup.nil ht : DerivesParts room pos _ _)
    (by simpa using hne)
  have hw : name.toList.all isWordChar = true := List.all_eq_true.2 hn.2
  simpa [itemOf, ofParts, hw] using hi

theorem argumentText_ne_nil {e : Expr} (h : Printable room e) : e.argumentText.toList ≠ [] := by
  induction h with
  | literal room text => exact (derivesText_literal text).ne_nil
  | argRef h => simp [Expr.argumentText]
  | call hn ha hargs => simp [Expr.argumentText]
  | @concat room parts hne hp ih =>
      cases parts with
      | nil => exact absurd rfl hne
      | cons e es =>
          intro h
          simp only [Expr.argumentText, Expr.joinedTexts, String.toList_append,
            List.append_eq_nil_iff] at h
          exact ih e List.mem_cons_self h.1

theorem derivesGroup_argRef {index : ℕ} (h : index < 2 ^ 64) (room pos : ℕ) :
    DerivesGroup (room + 1) pos (Expr.argRef index).argumentText.toList (.argRef index) := by
  have hi := DerivesItems.first (derivesItem_word (isName_toString index) room (pos + 1))
  have hm : GroupMeans [⟨pos + 1, toString index, true, .literal (toString index)⟩]
      (.argRef (Text.numeralValue (toString index).toList)) :=
    .index rfl (isNumeral_toString index) (by rw [numeralValue_toString]; exact h)
  rw [numeralValue_toString] at hm
  have hg := DerivesGroup.braces Blanks.nil hi Blanks.nil hm
  simpa [Expr.argumentText] using hg

/-- A call whose name and arguments are read back is read back. -/
theorem exists_derivesGroup_call {name : String} {args : List Expr} {items : List Item}
    (hnum : args = [] → Text.isNumeral name.toList = false)
    (hi : DerivesItems room (pos + 1) (name.toList ++ (Expr.spacedTexts args).toList)
      ([⟨pos + 1, name, true, .literal name⟩] ++ items))
    (hf : items.map (fun i => i.expr.forget) = normalAll args) (offset : ℕ) :
    ∃ e, DerivesGroup (room + 1) pos (Expr.call name args offset).argumentText.toList e ∧
      e.forget = .call name (normalAll args) 0 := by
  have hm : GroupMeans ([⟨pos + 1, name, true, .literal name⟩] ++ items)
      (.call name (items.map Item.expr) (pos + 1)) := by
    cases items with
    | nil =>
        cases args with
        | nil => exact .name rfl (hnum rfl)
        | cons e es => simp [normalAll] at hf
    | cons i items => exact .call rfl (List.cons_ne_nil i items)
  have hg := DerivesGroup.braces Blanks.nil hi Blanks.nil hm
  refine ⟨_, by simpa [Expr.argumentText] using hg, ?_⟩
  rw [Expr.forget_call, ← hf]
  simp [forgetAll]

mutual

/-- The text of a tree behind a juxtaposition adds the parts of the tree. -/
theorem derivesOpen_argumentText : ∀ (e : Expr) {room pos : ℕ} {src : List Char} {p : Parts},
    Printable room e → DerivesOpen room pos src p →
    DerivesOpen room pos (src ++ e.argumentText.toList) (e.partsOnto p)
  | .literal text, _, _, _, _, _, hp => hp.pushText (derivesText_literal text)
  | .argRef index, _, _, _, _, .argRef h, hp => hp.pushGroup (derivesGroup_argRef h _ _)
  | .call name args offset, _, _, _, _, .call hn hnum hargs, hp => by
      obtain ⟨items, hi, hf⟩ :=
        derivesItems_spacedTexts args hargs (.first (derivesItem_word hn _ _))
      obtain ⟨e, hg, he⟩ := exists_derivesGroup_call hnum hi hf offset
      rw [Expr.partsOnto, ← he]
      exact hp.pushGroup hg
  | .concat parts, _, _, _, _, .concat _ h, hp => derivesOpen_joinedTexts parts h hp

theorem derivesOpen_joinedTexts : ∀ (es : List Expr) {room pos : ℕ} {src : List Char} {p : Parts},
    (∀ e ∈ es, Printable room e) → DerivesOpen room pos src p →
    DerivesOpen room pos (src ++ (Expr.joinedTexts es).toList) (allPartsOnto es p)
  | [], _, _, _, _, _, hp => by simpa [Expr.joinedTexts, allPartsOnto] using hp
  | e :: es, _, _, _, _, h, hp => by
      have he := derivesOpen_argumentText e (h e List.mem_cons_self) hp
      have hes := derivesOpen_joinedTexts es (fun e' h' => h e' (List.mem_cons_of_mem e h')) he
      simpa [Expr.joinedTexts, allPartsOnto] using hes

/-- The texts of trees behind items are items of their own. -/
theorem derivesItems_spacedTexts : ∀ (es : List Expr) {room pos : ℕ} {src : List Char}
    {items : List Item}, (∀ e ∈ es, Printable room e) → DerivesItems room pos src items →
    ∃ items', DerivesItems room pos (src ++ (Expr.spacedTexts es).toList) (items ++ items') ∧
      items'.map (fun i => i.expr.forget) = normalAll es
  | [], _, _, _, _, _, hi => ⟨[], by simpa [Expr.spacedTexts] using hi, rfl⟩
  | e :: es, room, pos, src, items, h, hi => by
      have he := h e List.mem_cons_self
      have hd := derivesOpen_argumentText e he
        (DerivesOpen.none room (pos + byteLength (src ++ [' '])))
      obtain ⟨item, hitem, hf⟩ := hd.derivesItem (argumentText_ne_nil he)
      have hnext := hi.next (Blanks.singleton (by decide)) (by simp) hitem
      obtain ⟨items', hi', hf'⟩ :=
        derivesItems_spacedTexts es (fun e' h' => h e' (List.mem_cons_of_mem e h')) hnext
      refine ⟨item :: items', by simpa [Expr.spacedTexts] using hi', ?_⟩
      simp [normalAll, hf, hf']

end

/-! ### Reading nodes back -/

/-- A run of literal text, which a template holds as it is. -/
def Expr.isRun : Expr → Bool
  | .literal text => !holdsBrace text
  | _ => false

def Expr.isConcat : Expr → Bool
  | .concat _ => true
  | _ => false

/-- The text of the node can be read in a template where `room` braces may be opened. -/
structure PrintableNode (room : ℕ) (e : Expr) : Prop where
  printable : Printable room e
  noConcat : e.isConcat = false
  opens : e.isRun = false → 1 ≤ room

theorem render_cons (e : Expr) (es : List Expr) : render (e :: es) = e.text ++ render es := by
  simp [render]

theorem render_append (es es' : List Expr) : render (es ++ es') = render es ++ render es' := by
  simp [render, String.join_append]

theorem Expr.isRun_iff {e : Expr} :
    e.isRun = true ↔ ∃ text, e = .literal text ∧ holdsBrace text = false := by
  cases e <;> simp [isRun]

theorem holdsBrace_eq_false_iff {s : String} : holdsBrace s = false ↔ BraceFree s.toList := by
  simp [holdsBrace, BraceFree]

theorem isWordChar_write (s : String) : (Quoted.write s).toList.all isWordChar = false := by
  rw [Quoted.write, String.toList_ofList, List.all_cons]
  simp [isWordChar]

/-- A node that is neither a run of text nor a juxtaposition is written as a group. -/
theorem exists_derivesGroup_text {e : Expr} (h : PrintableNode room e) (hr : e.isRun = false)
    (pos : ℕ) : ∃ e', DerivesGroup room pos e.text.toList e' ∧ e'.forget = e.normal := by
  have hroom := h.opens hr
  have hc := h.noConcat
  cases h.printable with
  | literal _ text =>
      have hb : holdsBrace text = true := by simpa [Expr.isRun] using hr
      obtain ⟨room, rfl⟩ := Nat.exists_eq_add_of_le' hroom
      have ht := derivesText_write text
      have hi := DerivesItem.parts
        (DerivesParts.nil.text EndsGroup.nil ht : DerivesParts room (pos + 1) _ _)
        (by simpa using ht.ne_nil)
      have hm : GroupMeans [itemOf (pos + 1) (Quoted.write text).toList [.literal text]]
          (.literal text) := .whole (by rw [itemOf, isWordChar_write])
      refine ⟨.literal text, ?_, by simp [Expr.normal, Expr.partsOnto, Parts.pushText, Parts.none,
        Parts.all, ofParts, Expr.forget, Expr.relocate]⟩
      have hg := DerivesGroup.braces Blanks.nil (.first hi) Blanks.nil hm
      simpa [Expr.text, hb] using hg
  | argRef hi => exact ⟨_, derivesGroup_argRef hi _ pos, rfl⟩
  | @call room name args offset hn hnum hargs =>
      obtain ⟨items, hi, hf⟩ :=
        derivesItems_spacedTexts args hargs (.first (derivesItem_word hn room (pos + 1)))
      exact exists_derivesGroup_call hnum hi hf offset
  | concat => cases hc

end CacheKeys.Template
