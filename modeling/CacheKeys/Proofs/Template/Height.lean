import Mathlib
import CacheKeys.Proofs.Builtin.Functions
import CacheKeys.Proofs.Template.Markers

/-! # Heights

The height of a tree counts its levels.  A group may add two of them, its call and the juxtaposition
that an argument is, so what is read with `room` braces is at most `2 * room` levels high
(`height_le_of_parse`), and towers of calls in juxtapositions reach this (`exists_parse_tower`).
Resolving names keeps the height.  The nesting of a tree counts only its calls and look-ups, so it
is at most `room` (`pieceNesting_le_of_parse`). -/

namespace CacheKeys.Template

/-! ### Heights -/

mutual

def Expr.height : Expr → ℕ
  | .literal _ => 1
  | .argRef _ => 1
  | .call _ args _ => 1 + heightAll args
  | .concat parts => 1 + heightAll parts

/-- The number of levels of the highest tree. -/
def heightAll : List Expr → ℕ
  | [] => 0
  | e :: es => max e.height (heightAll es)

end

mutual

/-- How many calls and look-ups of a tree stand inside each other. -/
def Expr.nesting : Expr → ℕ
  | .literal _ => 0
  | .argRef _ => 1
  | .call _ args _ => 1 + nestingAll args
  | .concat parts => nestingAll parts

/-- The greatest nesting of several trees. -/
def nestingAll : List Expr → ℕ
  | [] => 0
  | e :: es => max e.nesting (nestingAll es)

end

/-- The nesting of a node where it is no argument: text and juxtapositions count, too. -/
def Expr.pieceNesting : Expr → ℕ
  | .literal _ => 1
  | .argRef _ => 1
  | .call _ args _ => 1 + nestingAll args
  | .concat parts => 1 + nestingAll parts

mutual

def Stage.height : Stage → ℕ
  | .literal _ => 1
  | .argRef _ => 1
  | .call _ args => 1 + stageHeightAll args
  | .concat parts => 1 + stageHeightAll parts

def stageHeightAll : List Stage → ℕ
  | [] => 0
  | s :: ss => max s.height (stageHeightAll ss)

end

theorem heightAll_le_iff {es : List Expr} {n : ℕ} :
    heightAll es ≤ n ↔ ∀ e ∈ es, e.height ≤ n := by
  induction es with
  | nil => simp [heightAll]
  | cons e es ih => rw [heightAll, max_le_iff, ih, List.forall_mem_cons]

theorem nestingAll_le_iff {es : List Expr} {n : ℕ} :
    nestingAll es ≤ n ↔ ∀ e ∈ es, e.nesting ≤ n := by
  induction es with
  | nil => simp [nestingAll]
  | cons e es ih => rw [nestingAll, max_le_iff, ih, List.forall_mem_cons]

theorem Expr.pieceNesting_le (e : Expr) : e.pieceNesting ≤ e.nesting + 1 := by
  cases e <;> simp only [pieceNesting, nesting] <;> omega

theorem stageHeightAll_le_iff {ss : List Stage} {n : ℕ} :
    stageHeightAll ss ≤ n ↔ ∀ s ∈ ss, s.height ≤ n := by
  induction ss with
  | nil => simp [stageHeightAll]
  | cons s ss ih => rw [stageHeightAll, max_le_iff, ih, List.forall_mem_cons]

theorem Expr.height_pos (e : Expr) : 0 < e.height := by
  cases e with
  | literal text => exact Nat.one_pos
  | argRef index => exact Nat.one_pos
  | call name args offset => rw [height]; omega
  | concat parts => rw [height]; omega

theorem Stage.height_pos (s : Stage) : 0 < s.height := by
  cases s with
  | literal text => exact Nat.one_pos
  | argRef index => exact Nat.one_pos
  | call f args => rw [height]; omega
  | concat parts => rw [height]; omega

/-! ### The height of what is read -/

/-- Without braces nothing but a run of text makes a part, and no run ends like a group. -/
theorem DerivesParts.eq_nil_of_endsGroup {pos : ℕ} : ∀ {src : List Char} {parts : List Expr},
    DerivesParts 0 pos src parts → EndsGroup src → parts = []
  | _, _, .nil, _ => rfl
  | _, _, .text _ _ ht, he => absurd he (ht.not_endsGroup _)
  | _, _, .group _ hg, _ => by cases hg

theorem DerivesParts.length_le_one {pos : ℕ} : ∀ {src : List Char} {parts : List Expr},
    DerivesParts 0 pos src parts → parts.length ≤ 1
  | _, _, .nil => Nat.zero_le 1
  | _, _, .text h he _ => by
      rw [h.eq_nil_of_endsGroup he]
      exact le_rfl
  | _, _, .group _ hg => by cases hg

theorem height_ofParts_le {parts : List Expr} {n : ℕ} (h : ∀ e ∈ parts, e.height ≤ n) :
    (ofParts parts).height ≤ n + 1 := by
  have hconcat : (Expr.concat parts).height ≤ n + 1 := by
    have hall := heightAll_le_iff.2 h
    rw [Expr.height]
    omega
  match parts with
  | [] => exact hconcat
  | [e] =>
      have he := h e List.mem_cons_self
      show e.height ≤ n + 1
      omega
  | e :: e' :: es => exact hconcat

theorem GroupMeans.height_le {items : List Item} {e : Expr} {n : ℕ} (hm : GroupMeans items e)
    (h : ∀ item ∈ items, item.expr.height ≤ n + 1) : e.height ≤ n + 2 := by
  cases hm with
  | index _ _ _ =>
      rw [Expr.height]
      omega
  | name _ _ =>
      rw [Expr.height, heightAll]
      omega
  | @whole head _ =>
      have hhead := h head List.mem_cons_self
      omega
  | @call head args _ _ =>
      have hargs : heightAll (args.map Item.expr) ≤ n + 1 := by
        rw [heightAll_le_iff]
        intro e he
        obtain ⟨item, hitem, rfl⟩ := List.mem_map.1 he
        exact h item (List.mem_cons_of_mem head hitem)
      rw [Expr.height]
      omega

mutual

/-- A group adds two levels, its own call and the juxtaposition around a group in it. -/
theorem DerivesGroup.height_le : ∀ {room pos : ℕ} {src : List Char} {e : Expr},
    DerivesGroup room pos src e → e.height ≤ 2 * room
  | _, _, _, _, .braces _ hi _ hm => hm.height_le hi.height_le

theorem DerivesItems.height_le : ∀ {room pos : ℕ} {src : List Char} {items : List Item},
    DerivesItems room pos src items → ∀ item ∈ items, item.expr.height ≤ 2 * room + 1
  | _, _, _, _, .first h => List.forall_mem_singleton.2 h.height_le
  | _, _, _, _, .next h _ _ h' => by
      rw [List.forall_mem_append]
      exact ⟨h.height_le, List.forall_mem_singleton.2 h'.height_le⟩

theorem DerivesItem.height_le : ∀ {room pos : ℕ} {src : List Char} {item : Item},
    DerivesItem room pos src item → item.expr.height ≤ 2 * room + 1
  | 0, _, _, _, @DerivesItem.parts _ pos src parts h _ => by
      have hparts : ∀ e ∈ parts, e.height ≤ 1 := h.height_le
      have hlength := h.length_le_one
      show (ofParts parts).height ≤ 1
      match parts with
      | [] => exact le_rfl
      | [e] => exact hparts e List.mem_cons_self
      | e :: e' :: es =>
          simp only [List.length_cons] at hlength
          omega
  | room + 1, _, _, _, @DerivesItem.parts _ pos src parts h _ => by
      have hparts := h.height_le
      rw [max_eq_right (by omega)] at hparts
      exact height_ofParts_le hparts

theorem DerivesParts.height_le : ∀ {room pos : ℕ} {src : List Char} {parts : List Expr},
    DerivesParts room pos src parts → ∀ e ∈ parts, e.height ≤ max 1 (2 * room)
  | _, _, _, _, .nil => by simp
  | _, _, _, _, .text h _ _ => by
      rw [List.forall_mem_append]
      exact ⟨h.height_le, List.forall_mem_singleton.2 (le_max_left 1 _)⟩
  | _, _, _, _, .group h hg => by
      rw [List.forall_mem_append]
      exact ⟨h.height_le, List.forall_mem_singleton.2 (hg.height_le.trans (le_max_right 1 _))⟩

end

theorem DerivesNodes.height_le {room : ℕ} {src : List Char} {nodes : List Expr}
    (h : DerivesNodes room src nodes) : ∀ e ∈ nodes, e.height ≤ max 1 (2 * room) := by
  induction h with
  | nil => simp
  | run _ _ _ _ ih =>
      rw [List.forall_mem_append]
      exact ⟨ih, List.forall_mem_singleton.2 (le_max_left 1 _)⟩
  | group _ hg ih =>
      rw [List.forall_mem_append]
      exact ⟨ih, List.forall_mem_singleton.2 (hg.height_le.trans (le_max_right 1 _))⟩

theorem height_le_of_parse {limits : Limits} {template : String} {nodes : List Expr}
    (h : parse limits template = .ok nodes) :
    ∀ e ∈ nodes, e.height ≤ max 1 (2 * limits.maxDepth) := by
  obtain ⟨-, ⟨-, rfl⟩ | ⟨-, hd⟩⟩ := (parse_eq_ok_iff_derives limits template nodes).1 h
  · exact List.forall_mem_singleton.2 (le_max_left 1 _)
  · exact hd.height_le

/-! ### The nesting of what is read -/

theorem nesting_ofParts_le {parts : List Expr} {n : ℕ} (h : ∀ e ∈ parts, e.nesting ≤ n) :
    (ofParts parts).nesting ≤ n := by
  match parts with
  | [] => exact Nat.zero_le n
  | [e] => exact h e List.mem_cons_self
  | e :: e' :: es => exact nestingAll_le_iff.2 h

theorem GroupMeans.nesting_le {items : List Item} {e : Expr} {n : ℕ} (hm : GroupMeans items e)
    (h : ∀ item ∈ items, item.expr.nesting ≤ n) : e.nesting ≤ n + 1 ∧ e.pieceNesting ≤ n + 1 := by
  cases hm with
  | index _ _ _ => exact ⟨Nat.le_add_left 1 n, Nat.le_add_left 1 n⟩
  | name _ _ => exact ⟨Nat.le_add_left 1 n, Nat.le_add_left 1 n⟩
  | @whole head _ =>
      have hhead := h head List.mem_cons_self
      have hpieces := head.expr.pieceNesting_le
      omega
  | @call head args _ _ =>
      have hargs : nestingAll (args.map Item.expr) ≤ n := by
        rw [nestingAll_le_iff]
        intro e he
        obtain ⟨item, hitem, rfl⟩ := List.mem_map.1 he
        exact h item (List.mem_cons_of_mem head hitem)
      rw [Expr.nesting, Expr.pieceNesting]
      omega

mutual

/-- A group adds one call or look-up. -/
theorem DerivesGroup.nesting_le : ∀ {room pos : ℕ} {src : List Char} {e : Expr},
    DerivesGroup room pos src e → e.nesting ≤ room ∧ e.pieceNesting ≤ room
  | _, _, _, _, .braces _ hi _ hm => hm.nesting_le hi.nesting_le

theorem DerivesItems.nesting_le : ∀ {room pos : ℕ} {src : List Char} {items : List Item},
    DerivesItems room pos src items → ∀ item ∈ items, item.expr.nesting ≤ room
  | _, _, _, _, .first h => List.forall_mem_singleton.2 h.nesting_le
  | _, _, _, _, .next h _ _ h' => by
      rw [List.forall_mem_append]
      exact ⟨h.nesting_le, List.forall_mem_singleton.2 h'.nesting_le⟩

theorem DerivesItem.nesting_le : ∀ {room pos : ℕ} {src : List Char} {item : Item},
    DerivesItem room pos src item → item.expr.nesting ≤ room
  | _, _, _, _, .parts h _ => nesting_ofParts_le h.nesting_le

theorem DerivesParts.nesting_le : ∀ {room pos : ℕ} {src : List Char} {parts : List Expr},
    DerivesParts room pos src parts → ∀ e ∈ parts, e.nesting ≤ room
  | _, _, _, _, .nil => by simp
  | _, _, _, _, .text h _ _ => by
      rw [List.forall_mem_append]
      exact ⟨h.nesting_le, List.forall_mem_singleton.2 (Nat.zero_le _)⟩
  | _, _, _, _, .group h hg => by
      rw [List.forall_mem_append]
      exact ⟨h.nesting_le, List.forall_mem_singleton.2 hg.nesting_le.1⟩

end

theorem DerivesNodes.pieceNesting_le {room : ℕ} {src : List Char} {nodes : List Expr}
    (h : DerivesNodes room src nodes) : ∀ e ∈ nodes, e.pieceNesting ≤ max 1 room := by
  induction h with
  | nil => simp
  | run _ _ _ _ ih =>
      rw [List.forall_mem_append]
      exact ⟨ih, List.forall_mem_singleton.2 (le_max_left 1 _)⟩
  | group _ hg ih =>
      rw [List.forall_mem_append]
      exact ⟨ih, List.forall_mem_singleton.2 (hg.nesting_le.2.trans (le_max_right 1 _))⟩

theorem pieceNesting_le_of_parse {limits : Limits} {template : String} {nodes : List Expr}
    (h : parse limits template = .ok nodes) :
    ∀ e ∈ nodes, e.pieceNesting ≤ max 1 limits.maxDepth := by
  obtain ⟨-, ⟨-, rfl⟩ | ⟨-, hd⟩⟩ := (parse_eq_ok_iff_derives limits template nodes).1 h
  · exact List.forall_mem_singleton.2 (le_max_left 1 _)
  · exact hd.pieceNesting_le

/-! ### Templates of the greatest height -/

/-- `n` calls around the call `{f x}`, each with the next one in a juxtaposition. -/
def tower : ℕ → List Char
  | 0 => ['{', 'f', ' ', 'x', '}']
  | n + 1 => '{' :: 'f' :: ' ' :: 'x' :: (tower n ++ ['}'])

theorem derivesGroup_call {room pos : ℕ} {src : List Char} {item : Item}
    (h : DerivesItem room (pos + 3) src item) :
    DerivesGroup (room + 1) pos ('{' :: 'f' :: ' ' :: (src ++ ['}']))
      (.call "f" [item.expr] (pos + 1)) := by
  have hname : IsName "f" := ⟨by decide, by simp [isWordChar, Text.isBlank]⟩
  have hf := DerivesItems.first (derivesItem_word hname room (pos + 1))
  have hitems := hf.next (Blanks.singleton (c := ' ') rfl) (List.cons_ne_nil _ _)
    (show DerivesItem room (pos + 1 + 2) src item from h)
  have hmeans : GroupMeans [⟨pos + 1, "f", true, .literal "f"⟩, item]
      (.call "f" [item.expr] (pos + 1)) := .call rfl (List.cons_ne_nil item [])
  have hg := @DerivesGroup.braces room pos [] _ [] _ _ Blanks.nil hitems Blanks.nil hmeans
  simpa using hg

theorem exists_derivesGroup_tower : ∀ n pos : ℕ,
    ∃ e, DerivesGroup (n + 1) pos (tower n) e ∧ e.height = 2 * (n + 1)
  | 0, pos => by
      have hname : IsName "x" := ⟨by decide, by simp [isWordChar, Text.isBlank]⟩
      exact ⟨_, derivesGroup_call (derivesItem_word hname 0 (pos + 3)), rfl⟩
  | n + 1, pos => by
      obtain ⟨e, hg, he⟩ := exists_derivesGroup_tower n (pos + 4)
      have hx : DerivesText ['x'] "x" := .char rfl
      have hparts := (DerivesParts.nil.text EndsGroup.nil hx).group
        (show DerivesGroup (n + 1) (pos + 3 + 1) (tower n) e from hg)
      have hitem := DerivesItem.parts hparts (by simp)
      refine ⟨_, derivesGroup_call hitem, ?_⟩
      simp only [itemOf, ofParts, List.nil_append, List.singleton_append, Expr.height, heightAll,
        he]
      omega

theorem exists_parse_tower (n length : ℕ) (h : byteLength (tower n) ≤ length) :
    ∃ e, parse ⟨n + 1, length⟩ (String.ofList (tower n)) = .ok [e] ∧ e.height = 2 * (n + 1) := by
  obtain ⟨e, hg, he⟩ := exists_derivesGroup_tower n 0
  have hne : tower n ≠ [] := by
    obtain ⟨body, hb⟩ := hg.exists_body
    rw [hb]
    exact List.cons_ne_nil _ _
  refine ⟨e, (parse_eq_ok_iff_derives _ _ _).2 ⟨?_, ?_⟩, he⟩
  · rw [utf8ByteSize_ofList]
    exact h
  · rw [String.toList_ofList]
    exact .inr ⟨hne, DerivesNodes.nil.group hg⟩

/-! ### The height of stages -/

mutual

theorem height_of_lower {R : Registry} : ∀ (e : Expr) {r : Stage × List Diagnostic},
    lower R e = .ok r → r.1.height = e.height
  | .literal text, r, h => by
      cases h
      rfl
  | .argRef index, r, h => by
      cases h
      rfl
  | .call name args offset, r, h => by
      obtain ⟨f, rs, -, hrs, rfl⟩ := lower_call_eq_ok_iff.1 h
      rw [Stage.height, Expr.height, (heights_of_lowerAll args hrs).1]
  | .concat parts, r, h => by
      obtain ⟨rs, hrs, rfl⟩ := lower_concat_eq_ok_iff.1 h
      rw [Stage.height, Expr.height, (heights_of_lowerAll parts hrs).1]

theorem heights_of_lowerAll {R : Registry} : ∀ (es : List Expr) {r : List Stage × List Diagnostic},
    lowerAll R es = .ok r →
    stageHeightAll r.1 = heightAll es ∧ r.1.map Stage.height = es.map Expr.height
  | [], r, h => by
      cases h
      exact ⟨rfl, rfl⟩
  | e :: es, r, h => by
      obtain ⟨s, rs, hs, hrs, rfl⟩ := lowerAll_cons_eq_ok_iff.1 h
      have he := height_of_lower e hs
      obtain ⟨hall, hmap⟩ := heights_of_lowerAll es hrs
      exact ⟨by rw [stageHeightAll, heightAll, he, hall], by rw [List.map_cons, he, hmap]; rfl⟩

end

end CacheKeys.Template
