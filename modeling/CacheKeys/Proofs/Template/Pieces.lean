import Mathlib
import CacheKeys.Proofs.Template.Meaning

/-! # Templates in pieces

Every tree that is read can be written (`DerivesGroup.printable`).  The text of its nodes falls
into pieces: a juxtaposition at the top of a template is written without braces of its own, so its
parts become pieces of the template, and a text among them that is no bare word stands in quotes
outside all braces (`Piece.quoted`), where quotes have no meaning.  `Piece.meant` is the node that
a piece stands for and `Piece.shown` the one that is read. -/

namespace CacheKeys.Template

/-! ### What is read can be written -/

theorem Printable.succ {room : ℕ} {e : Expr} (h : Printable room e) : Printable (room + 1) e := by
  induction h with
  | literal room text => exact .literal _ text
  | argRef hi => exact .argRef hi
  | call hn hnum _ ih => exact .call hn hnum ih
  | concat hne _ ih => exact .concat hne ih

theorem printable_ofParts {room : ℕ} {parts : List Expr} (hne : parts ≠ [])
    (h : ∀ e ∈ parts, Printable room e) : Printable room (ofParts parts) := by
  match parts with
  | [] => exact absurd rfl hne
  | [e] => exact h e List.mem_cons_self
  | e :: e' :: es => exact .concat hne h

theorem DerivesParts.parts_ne_nil {room pos : ℕ} {src : List Char} {parts : List Expr}
    (h : DerivesParts room pos src parts) (hne : src ≠ []) : parts ≠ [] := by
  cases h with
  | nil => exact absurd rfl hne
  | text => simp
  | group => simp

mutual

/-- A tree that is read in a group can be written, and so can its items. -/
theorem DerivesGroup.printable : ∀ {room pos : ℕ} {src : List Char} {e : Expr},
    DerivesGroup room pos src e → 1 ≤ room ∧ Printable room e
  | _, _, _, _, .braces _ hi _ hm => by
      have h := hi.printable
      refine ⟨by omega, ?_⟩
      cases hm with
      | index _ _ hv => exact .argRef hv
      | @name head hw hnum =>
          exact .call ((h head List.mem_cons_self).2 hw) (fun _ => hnum) (by simp)
      | @whole head _ => exact (h head List.mem_cons_self).1.succ
      | @call head args hw hne =>
          refine .call ((h head List.mem_cons_self).2 hw) (fun ha => ?_) ?_
          · exact absurd (List.map_eq_nil_iff.1 ha) hne
          · exact List.forall_mem_map.2 fun i hi => (h i (List.mem_cons_of_mem head hi)).1

theorem DerivesItems.printable : ∀ {room pos : ℕ} {src : List Char} {items : List Item},
    DerivesItems room pos src items →
    ∀ i ∈ items, Printable room i.expr ∧ (i.isWord = true → IsName i.source)
  | _, _, _, _, .first h => List.forall_mem_singleton.2 h.printable
  | _, _, _, _, .next h _ _ h' =>
      List.forall_mem_append.2 ⟨h.printable, List.forall_mem_singleton.2 h'.printable⟩

theorem DerivesItem.printable : ∀ {room pos : ℕ} {src : List Char} {item : Item},
    DerivesItem room pos src item →
    Printable room item.expr ∧ (item.isWord = true → IsName item.source)
  | _, _, _, _, .parts h hne => by
      refine ⟨printable_ofParts (h.parts_ne_nil hne) h.printable, fun hw => ⟨fun he => hne ?_, ?_⟩⟩
      · have hl := congrArg String.toList he
        simpa [itemOf] using hl
      · simpa [itemOf] using hw

theorem DerivesParts.printable : ∀ {room pos : ℕ} {src : List Char} {parts : List Expr},
    DerivesParts room pos src parts → ∀ e ∈ parts, Printable room e
  | _, _, _, _, .nil => by simp
  | room, _, _, _, .text h _ _ =>
      List.forall_mem_append.2 ⟨h.printable, List.forall_mem_singleton.2 (.literal room _)⟩
  | _, _, _, _, .group h hg =>
      List.forall_mem_append.2 ⟨h.printable, List.forall_mem_singleton.2 hg.printable.2⟩

end

/-- Nodes that are read can be written. -/
theorem Derives.printable {room : ℕ} {src : List Char} {nodes : List Expr}
    (h : Derives room src nodes) :
    ∀ e ∈ nodes, Printable room e ∧ (e.isRun = false → 1 ≤ room) := by
  have hrun : ∀ text, holdsBrace text = false → Printable room (.literal text) ∧
      ((Expr.literal text).isRun = false → 1 ≤ room) := fun text hb =>
    ⟨.literal room text, fun hr => by simp [Expr.isRun, hb] at hr⟩
  rcases h with ⟨-, rfl⟩ | ⟨-, h⟩
  · exact List.forall_mem_singleton.2 (hrun "" rfl)
  · induction h with
    | nil => simp
    | @run src run nodes _ _ _ hb ih =>
        refine List.forall_mem_append.2 ⟨ih, List.forall_mem_singleton.2 (hrun _ ?_)⟩
        rwa [holdsBrace_eq_false_iff, String.toList_ofList]
    | group _ hg ih =>
        refine List.forall_mem_append.2 ⟨ih, List.forall_mem_singleton.2 ?_⟩
        exact ⟨hg.printable.2, fun _ => hg.printable.1⟩

/-! ### Templates without juxtapositions -/

theorem exists_read_text {room : ℕ} {e : Expr} (h : PrintableNode room e) :
    ∃ ns, read room e.text.toList = .ok ns ∧ ∀ R ctx, keyOf R ctx ns = value R ctx e := by
  cases hr : e.isRun with
  | true =>
      obtain ⟨text, rfl, hb⟩ := Expr.isRun_iff.1 hr
      refine ⟨[.literal text], read_eq_ok_iff.2 ?_, fun R ctx => keyOf_singleton R ctx _⟩
      rw [Expr.text, hb, if_neg Bool.false_ne_true]
      by_cases he : text = ""
      · subst he
        exact .inl ⟨rfl, rfl⟩
      · have hne : text.toList ≠ [] := fun hl => he (String.toList_eq_nil_iff.1 hl)
        have hd : DerivesNodes room ([] ++ text.toList) _ :=
          .run .nil EndsGroup.nil hne (holdsBrace_eq_false_iff.1 hb)
        rw [String.ofList_toList] at hd
        exact .inr ⟨hne, hd⟩
  | false =>
      obtain ⟨e', hg, hf⟩ := exists_derivesGroup_text h hr 0
      have hne : e.text.toList ≠ [] := by
        obtain ⟨body, hb⟩ := hg.exists_body
        simp [hb]
      refine ⟨[e'], read_eq_ok_iff.2 (.inr ⟨hne, .group .nil hg⟩), fun R ctx => ?_⟩
      rw [keyOf_singleton, ← value_relocate R ctx (fun _ => 0) e']
      show value R ctx e'.forget = _
      rw [hf, value_normal]

/-- Nodes without juxtapositions are read back with their meaning. -/
theorem exists_read_render {room : ℕ} : ∀ {nodes : List Expr}, (∀ e ∈ nodes, PrintableNode room e) →
    ∃ ns, read room (render nodes).toList = .ok ns ∧
      ∀ R ctx, keyOf R ctx ns = keyOf R ctx nodes
  | [], _ => ⟨[.literal ""], rfl, fun _ _ => rfl⟩
  | e :: es, h => by
      obtain ⟨ns, hn, hkn⟩ := exists_read_text (h e List.mem_cons_self)
      obtain ⟨ms, hm, hkm⟩ := exists_read_render fun e' he' => h e' (List.mem_cons_of_mem e he')
      have ha : Alike _ _ (read room (render es).toList) _ := read_append hn
      rw [hm] at ha
      obtain ⟨ks, hk, hs⟩ := ha.of_ok
      refine ⟨ks, by rw [render_cons, String.toList_append, hk], fun R ctx => ?_⟩
      rw [hs.keyOf_eq, hkn, hkm, keyOf_cons]

/-! ### Pieces -/

/-- A piece of the text of a template: the text of a node, or a text in quotes outside braces. -/
inductive Piece where
  | node (e : Expr)
  | quoted (text : String)

namespace Piece

def text : Piece → String
  | .node e => e.text
  | .quoted text => Quoted.write text

/-- The node that the piece stands for. -/
def meant : Piece → Expr
  | .node e => e
  | .quoted text => .literal text

/-- The node that is read: quotes outside braces are text. -/
def shown : Piece → Expr
  | .node e => e
  | .quoted text => .literal (Quoted.write text)

def isQuoted : Piece → Bool
  | .node _ => false
  | .quoted _ => true

end Piece

mutual

/-- The pieces of a part of a juxtaposition. -/
def Expr.partPieces : Expr → List Piece
  | .literal text => if isBareWord text then [.node (.literal text)] else [.quoted text]
  | .argRef index => [.node (.argRef index)]
  | .call name args offset => [.node (.call name args offset)]
  | .concat parts => allPartPieces parts

/-- The pieces of parts of a juxtaposition. -/
def allPartPieces : List Expr → List Piece
  | [] => []
  | e :: es => e.partPieces ++ allPartPieces es

end

def Expr.pieces : Expr → List Piece
  | .concat parts => allPartPieces parts
  | e => [.node e]

def piecesOf (nodes : List Expr) : List Piece := nodes.flatMap Expr.pieces

/-- The text of pieces. -/
def Piece.join (ps : List Piece) : String := String.join (ps.map Piece.text)

theorem Piece.join_append (ps qs : List Piece) :
    Piece.join (ps ++ qs) = Piece.join ps ++ Piece.join qs := by
  simp [Piece.join, String.join_append]

theorem Piece.join_cons (p : Piece) (ps : List Piece) :
    Piece.join (p :: ps) = p.text ++ Piece.join ps := by
  simp [Piece.join]

theorem Piece.join_singleton (p : Piece) : Piece.join [p] = p.text := by
  simp [Piece.join]

theorem holdsBrace_of_isBareWord {s : String} (h : isBareWord s = true) :
    holdsBrace s = false := by
  refine holdsBrace_eq_false_iff.2 fun c hc => ?_
  obtain ⟨_, hl, hr, _⟩ := isWordChar_iff.1 ((isBareWord_iff.1 h).2 c hc).1
  exact ⟨hl, hr⟩

mutual

theorem join_partPieces : ∀ e : Expr, Piece.join e.partPieces = e.argumentText
  | .literal text => by
      rw [Expr.partPieces, Expr.argumentText]
      cases hb : isBareWord text with
      | true => simp [Piece.join_singleton, Piece.text, Expr.text, holdsBrace_of_isBareWord hb]
      | false => simp [Piece.join_singleton, Piece.text]
  | .argRef _ => Piece.join_singleton _
  | .call _ _ _ => Piece.join_singleton _
  | .concat parts => join_allPartPieces parts

theorem join_allPartPieces : ∀ es : List Expr,
    Piece.join (allPartPieces es) = Expr.joinedTexts es
  | [] => rfl
  | e :: es => by
      rw [allPartPieces, Piece.join_append, join_partPieces e, join_allPartPieces es,
        Expr.joinedTexts]

end

theorem join_pieces (e : Expr) : Piece.join e.pieces = e.text := by
  cases e with
  | concat parts => exact join_allPartPieces parts
  | literal => exact Piece.join_singleton _
  | argRef => exact Piece.join_singleton _
  | call => exact Piece.join_singleton _

/-- The pieces of a template make up its text. -/
theorem join_piecesOf (nodes : List Expr) : Piece.join (piecesOf nodes) = render nodes := by
  induction nodes with
  | nil => rfl
  | cons e es ih =>
      rw [piecesOf, List.flatMap_cons, Piece.join_append, join_pieces, render_cons, ← ih, piecesOf]

mutual

theorem keyOf_partPieces (R : Registry) (ctx : Context) : ∀ e : Expr,
    keyOf R ctx (e.partPieces.map Piece.meant) = value R ctx e
  | .literal text => by
      rw [Expr.partPieces]
      split <;> exact keyOf_singleton R ctx _
  | .argRef _ => keyOf_singleton R ctx _
  | .call _ _ _ => keyOf_singleton R ctx _
  | .concat parts => by rw [Expr.partPieces, keyOf_allPartPieces R ctx parts, value_concat]

theorem keyOf_allPartPieces (R : Registry) (ctx : Context) : ∀ es : List Expr,
    keyOf R ctx ((allPartPieces es).map Piece.meant) = keyOf R ctx es
  | [] => rfl
  | e :: es => by
      rw [allPartPieces, List.map_append, keyOf_append, keyOf_partPieces R ctx e,
        keyOf_allPartPieces R ctx es, keyOf_cons]

end

/-- The pieces of a template mean what the template means. -/
theorem keyOf_piecesOf (R : Registry) (ctx : Context) (nodes : List Expr) :
    keyOf R ctx ((piecesOf nodes).map Piece.meant) = keyOf R ctx nodes := by
  have he : ∀ e : Expr, keyOf R ctx (e.pieces.map Piece.meant) = value R ctx e := by
    intro e
    cases e with
    | concat parts => rw [Expr.pieces, keyOf_allPartPieces, value_concat]
    | literal => exact keyOf_singleton R ctx _
    | argRef => exact keyOf_singleton R ctx _
    | call => exact keyOf_singleton R ctx _
  induction nodes with
  | nil => rfl
  | cons e es ih =>
      rw [piecesOf, List.flatMap_cons, List.map_append, keyOf_append, he, keyOf_cons, ← ih,
        piecesOf]

/-- The node of a piece can be written, and read where it stands. -/
def Piece.Printable (room : ℕ) : Piece → Prop
  | .node e => PrintableNode room e
  | .quoted _ => True

mutual

theorem Printable.partPieces {room : ℕ} : ∀ {e : Expr}, Printable room e →
    ∀ p ∈ e.partPieces, p.Printable room
  | .literal text, h => by
      rw [Expr.partPieces]
      split
      · next hb =>
        have hr := holdsBrace_of_isBareWord hb
        exact List.forall_mem_singleton.2 ⟨h, rfl, by simp [Expr.isRun, hr]⟩
      · exact List.forall_mem_singleton.2 trivial
  | .argRef index, .argRef h =>
      List.forall_mem_singleton.2 ⟨.argRef h, rfl, fun _ => by omega⟩
  | .call name args offset, .call hn hnum hargs =>
      List.forall_mem_singleton.2 ⟨.call hn hnum hargs, rfl, fun _ => by omega⟩
  | .concat parts, .concat _ h => Printable.allPartPieces h

theorem Printable.allPartPieces {room : ℕ} : ∀ {es : List Expr}, (∀ e ∈ es, Printable room e) →
    ∀ p ∈ allPartPieces es, p.Printable room
  | [], _ => by simp [CacheKeys.Template.allPartPieces]
  | e :: es, h => by
      obtain ⟨he, hes⟩ := List.forall_mem_cons.1 h
      rw [CacheKeys.Template.allPartPieces]
      exact List.forall_mem_append.2 ⟨Printable.partPieces he, Printable.allPartPieces hes⟩

end

/-- The pieces of a template that was read can be written. -/
theorem Derives.pieces_printable {room : ℕ} {src : List Char} {nodes : List Expr}
    (h : Derives room src nodes) : ∀ p ∈ piecesOf nodes, p.Printable room := by
  refine List.forall_mem_flatMap.2 fun e he => ?_
  obtain ⟨hp, hopens⟩ := h.printable e he
  cases e with
  | concat parts =>
      cases hp with
      | concat _ hparts => exact Printable.allPartPieces hparts
  | literal => exact List.forall_mem_singleton.2 ⟨hp, rfl, hopens⟩
  | argRef => exact List.forall_mem_singleton.2 ⟨hp, rfl, hopens⟩
  | call => exact List.forall_mem_singleton.2 ⟨hp, rfl, hopens⟩

end CacheKeys.Template
