import Mathlib
import CacheKeys.Proofs.Template.Descent.Basic
import CacheKeys.Proofs.Template.ErrorPositions

/-! # Checks of the descent

What the checks of the descent mean: characters are looked at and slices taken on boundaries of
characters (`peek_eq_misplaced_iff`, `slice_eq_misplaced_iff`), every pass of a loop that ends
regularly moves ahead (`moves_of_reaches`), and an item takes at least one character (`lt_of_item`).
`yields_loop` reduces what a loop does, before what is left of the text (`At`), to what one pass of
it does. -/

namespace CacheKeys.Template.Descent

variable {σ ρ : Type}

/-! ### What stands at a position -/

theorem dropBytes?_append (before rest : List Char) :
    Text.dropBytes? (byteLength before) (before ++ rest) = some rest := by
  induction before with
  | nil => simp [Text.dropBytes?]
  | cons c before ih =>
      have hc : 0 < c.utf8Size := c.utf8Size_pos
      obtain ⟨n, hn⟩ : ∃ n, byteLength (c :: before) = n + 1 :=
        ⟨byteLength (c :: before) - 1, by rw [byteLength_cons]; omega⟩
      rw [byteLength_cons] at hn
      have hle : c.utf8Size ≤ n + 1 := by omega
      have hsub : n + 1 - c.utf8Size = byteLength before := by omega
      rw [byteLength_cons, hn, List.cons_append, Text.dropBytes?, if_pos hle, hsub, ih]

theorem takeBytes?_append (front rest : List Char) :
    Text.takeBytes? (byteLength front) (front ++ rest) = some front := by
  induction front with
  | nil => simp [Text.takeBytes?]
  | cons c front ih =>
      have hc : 0 < c.utf8Size := c.utf8Size_pos
      obtain ⟨n, hn⟩ : ∃ n, byteLength (c :: front) = n + 1 :=
        ⟨byteLength (c :: front) - 1, by rw [byteLength_cons]; omega⟩
      rw [byteLength_cons] at hn
      have hle : c.utf8Size ≤ n + 1 := by omega
      have hsub : n + 1 - c.utf8Size = byteLength front := by omega
      rw [byteLength_cons, hn, List.cons_append, Text.takeBytes?, if_pos hle, hsub, ih]
      rfl

theorem exists_append_of_dropBytes? {n : ℕ} {cs rest : List Char}
    (h : Text.dropBytes? n cs = some rest) :
    ∃ before, cs = before ++ rest ∧ byteLength before = n := by
  fun_induction Text.dropBytes? n cs with
  | case1 cs =>
      cases h
      exact ⟨[], rfl, rfl⟩
  | case2 => cases h
  | case3 n c cs hle ih =>
      obtain ⟨before, rfl, hn⟩ := ih h
      refine ⟨c :: before, rfl, ?_⟩
      rw [byteLength_cons]
      omega
  | case4 => cases h

theorem exists_append_of_takeBytes? {n : ℕ} {cs front : List Char}
    (h : Text.takeBytes? n cs = some front) :
    ∃ rest, cs = front ++ rest ∧ byteLength front = n := by
  fun_induction Text.takeBytes? n cs generalizing front with
  | case1 cs =>
      cases h
      exact ⟨cs, rfl, rfl⟩
  | case2 => cases h
  | case3 n c cs hle ih =>
      obtain ⟨front', hfront, rfl⟩ := Option.map_eq_some_iff.1 h
      obtain ⟨rest, rfl, hn⟩ := ih hfront
      refine ⟨rest, rfl, ?_⟩
      rw [byteLength_cons]
      omega
  | case4 => cases h

/-- The text has `rest` from the position on. -/
def At (t : String) (pos : ℕ) (rest : List Char) : Prop :=
  ∃ before, t.toList = before ++ rest ∧ byteLength before = pos

variable {t : String} {pos : ℕ} {rest : List Char}

theorem at_start (t : String) : At t 0 t.toList := ⟨[], rfl, rfl⟩

theorem at_utf8ByteSize (before after : String) :
    At (before ++ after) before.utf8ByteSize after.toList :=
  ⟨before.toList, String.toList_append, byteLength_toList before⟩

theorem At.append {piece : List Char} (h : At t pos (piece ++ rest)) :
    At t (pos + byteLength piece) rest := by
  obtain ⟨before, ht, hpos⟩ := h
  refine ⟨before ++ piece, ?_, ?_⟩
  · rw [ht, List.append_assoc]
  · rw [byteLength_append, hpos]

theorem At.cons {c : Char} (h : At t pos (c :: rest)) : At t (pos + c.utf8Size) rest := by
  have happ := @At.append t pos rest [c] h
  rwa [byteLength_cons, byteLength_nil, Nat.add_zero] at happ

theorem At.size_eq (h : At t pos rest) : t.utf8ByteSize = pos + byteLength rest := by
  obtain ⟨before, ht, hpos⟩ := h
  rw [← byteLength_toList, ht, byteLength_append, hpos]

/-- A piece of the text stands between two positions in order. -/
theorem At.exists_piece {last : ℕ} {rest' : List Char} (h : At t pos rest) (h' : At t last rest')
    (hle : pos ≤ last) : ∃ piece, rest = piece ++ rest' ∧ last = pos + byteLength piece := by
  obtain ⟨before, ht, hpos⟩ := h
  obtain ⟨before', ht', hlast⟩ := h'
  have heq := ht.symm.trans ht'
  rcases List.append_eq_append_iff.1 heq with ⟨piece, rfl, hrest⟩ | ⟨more, rfl, hrest⟩
  · rw [byteLength_append] at hlast
    exact ⟨piece, hrest, by omega⟩
  · rw [byteLength_append] at hpos
    have hmore : more = [] := by
      by_contra hne
      have := byteLength_pos hne
      omega
    subst hmore
    exact ⟨[], by rw [hrest]; rfl, by rw [byteLength_nil] at hpos ⊢; omega⟩

theorem At.dropBytes? (h : At t pos rest) : Text.dropBytes? pos t.toList = some rest := by
  obtain ⟨before, ht, hpos⟩ := h
  rw [ht, ← hpos]
  exact dropBytes?_append before rest

theorem exists_at_iff_isValid : (∃ rest, At t pos rest) ↔ String.Pos.Raw.IsValid t ⟨pos⟩ := by
  rw [String.Pos.Raw.isValid_iff_exists_append]
  constructor
  · rintro ⟨rest, before, ht, hpos⟩
    refine ⟨String.ofList before, String.ofList rest, ?_, ?_⟩
    · rw [← String.ofList_append, ← ht, String.ofList_toList]
    · rw [← hpos, ← utf8ByteSize_ofList]
      rfl
  · rintro ⟨before, rest, rfl, hpos⟩
    refine ⟨rest.toList, before.toList, String.toList_append .., ?_⟩
    rw [byteLength_toList]
    exact (congrArg String.Pos.Raw.byteIdx hpos).symm

/-! ### Reading at a position -/

theorem peek_of_at (h : At t pos rest) : peek t pos = .ok rest.head? := by
  rw [peek, h.dropBytes?]

theorem bump_of_at {c : Char} (h : At t pos (c :: rest)) :
    bump t pos = .ok (some c, pos + c.utf8Size) := by
  rw [bump, peek_of_at h]
  rfl

theorem slice_of_at {piece : List Char} (h : At t pos (piece ++ rest)) :
    slice t pos (pos + byteLength piece) = .ok (String.ofList piece) := by
  have hle : ¬pos + byteLength piece < pos := by omega
  have hpiece : Text.bytesBetween? pos (pos + byteLength piece) t = some (String.ofList piece) := by
    rw [Text.bytesBetween?, h.dropBytes?, Option.bind_some, Nat.add_sub_cancel_left,
      takeBytes?_append]
    rfl
  rw [slice, if_neg hle, hpiece]

/-- A character is looked at exactly on the boundaries of characters, the end of the text included.
-/
theorem peek_eq_misplaced_iff (t : String) (pos : ℕ) :
    peek t pos = .error .misplaced ↔ ¬String.Pos.Raw.IsValid t ⟨pos⟩ := by
  rw [← exists_at_iff_isValid]
  constructor
  · rintro h ⟨rest, hat⟩
    rw [peek_of_at hat] at h
    cases h
  · intro h
    cases hd : Text.dropBytes? pos t.toList with
    | none => rw [peek, hd]
    | some rest => exact absurd ⟨rest, exists_append_of_dropBytes? hd⟩ h

/-- A slice is taken exactly between two boundaries of characters in the right order. -/
theorem slice_eq_misplaced_iff (t : String) (first last : ℕ) :
    slice t first last = .error .misplaced ↔
      ¬(first ≤ last ∧ String.Pos.Raw.IsValid t ⟨first⟩ ∧ String.Pos.Raw.IsValid t ⟨last⟩) := by
  rw [← exists_at_iff_isValid, ← exists_at_iff_isValid]
  constructor
  · rintro h ⟨hle, ⟨rest, hat⟩, ⟨rest', hat'⟩⟩
    obtain ⟨piece, rfl, rfl⟩ := hat.exists_piece hat' hle
    rw [slice_of_at hat] at h
    cases h
  · intro h
    by_cases hlt : last < first
    · rw [slice, if_pos hlt]
    · rw [slice, if_neg hlt]
      cases hb : Text.bytesBetween? first last t with
      | none => rfl
      | some text =>
          obtain ⟨rest, hd, hm⟩ := Option.bind_eq_some_iff.1 hb
          obtain ⟨front, hf, -⟩ := Option.map_eq_some_iff.1 hm
          obtain ⟨rest', rfl, hlast⟩ := exists_append_of_takeBytes? hf
          have hat : At t first (front ++ rest') := exists_append_of_dropBytes? hd
          have hat' : At t last rest' := by
            have happ := hat.append
            rwa [hlast, Nat.add_sub_cancel' (Nat.not_lt.1 hlt)] at happ
          exact absurd ⟨Nat.not_lt.1 hlt, ⟨_, hat⟩, ⟨_, hat'⟩⟩ h

/-! ### What the checks of loops and items mean -/

/-- The result is no failed check. -/
def IsRegular {α : Type} (x : Except Stop α) : Prop :=
  ∀ stop, x = .error stop → ∃ err, stop = .refused err

/-- The passes that a loop makes from a position and a state lead to others. -/
inductive Reaches (pass : ℕ → σ → Except Stop (Pass σ ρ)) (pos : ℕ) (state : σ) : ℕ → σ → Prop
  | start : Reaches pass pos state pos state
  | pass {pos₁ pos₂ : ℕ} {state₁ state₂ : σ} :
      Reaches pass pos state pos₁ state₁ → pass pos₁ state₁ = .ok (.again pos₂ state₂) →
      Reaches pass pos state pos₂ state₂

theorem loop_of_again {pass : ℕ → σ → Except Stop (Pass σ ρ)} {pos' : ℕ} {state state' : σ}
    (hreg : IsRegular (loop t pass pos state)) (hp : pass pos state = .ok (.again pos' state')) :
    pos < pos' ∧ pos' ≤ t.utf8ByteSize ∧ loop t pass pos state = loop t pass pos' state' := by
  rw [loop, hp] at hreg ⊢
  dsimp only at hreg ⊢
  by_cases hin : t.utf8ByteSize < pos'
  · rw [if_pos hin] at hreg
    obtain ⟨err, herr⟩ := hreg _ rfl
    cases herr
  rw [if_neg hin] at hreg ⊢
  by_cases hmoved : pos' ≤ pos
  · rw [if_pos hmoved] at hreg
    obtain ⟨err, herr⟩ := hreg _ rfl
    cases herr
  rw [if_neg hmoved]
  exact ⟨Nat.not_le.1 hmoved, Nat.not_lt.1 hin, rfl⟩

theorem loop_of_reaches {pass : ℕ → σ → Except Stop (Pass σ ρ)} {pos₁ : ℕ} {state state₁ : σ}
    (hreg : IsRegular (loop t pass pos state)) (h : Reaches pass pos state pos₁ state₁) :
    loop t pass pos state = loop t pass pos₁ state₁ := by
  induction h with
  | start => rfl
  | pass _ hp ih =>
      obtain ⟨-, -, hloop⟩ := loop_of_again (ih ▸ hreg) hp
      exact ih.trans hloop

/-- Every pass of a loop that ends regularly leaves the loop or moves ahead within the text. -/
theorem moves_of_reaches {pass : ℕ → σ → Except Stop (Pass σ ρ)} {pos₁ pos₂ : ℕ}
    {state state₁ state₂ : σ} (hreg : IsRegular (loop t pass pos state))
    (h : Reaches pass pos state pos₁ state₁) (hp : pass pos₁ state₁ = .ok (.again pos₂ state₂)) :
    pos₁ < pos₂ ∧ pos₂ ≤ t.utf8ByteSize := by
  obtain ⟨hlt, hle, -⟩ := loop_of_again (loop_of_reaches hreg h ▸ hreg) hp
  exact ⟨hlt, hle⟩

theorem ne_empty_of_kind {parts : List Expr} {bare : Bool} {text : String}
    (h : kind parts bare = .ok (.word text)) : text ≠ "" := by
  unfold kind at h
  cases bare with
  | false => cases h
  | true =>
      simp only [if_true] at h
      split at h
      · next text' _ =>
        cases he : text'.isEmpty with
        | true =>
            rw [he, if_pos rfl] at h
            cases h
        | false =>
            rw [he, if_neg Bool.false_ne_true] at h
            cases h
            rintro rfl
            cases he
      · cases h

/-- An item that is read takes at least one character, and its text is not empty if it is a word. -/
theorem lt_of_item {group : ℕ → Except Stop (ℕ × Expr)} {offset last : ℕ} {span : Span}
    (h : item t group offset = .ok (last, span)) :
    offset < last ∧ ∀ text, span.kind = .word text → text ≠ "" := by
  unfold item at h
  cases hl : loop t (itemPass t group) offset (Parts.none, true) with
  | error stop =>
      rw [hl] at h
      cases h
  | ok r =>
      obtain ⟨last', parts, bare⟩ := r
      rw [hl] at h
      dsimp only [bind, Except.bind] at h
      by_cases hle : last' ≤ offset
      · rw [if_pos hle] at h
        cases h
      rw [if_neg hle] at h
      cases hk : kind parts.all bare with
      | error stop =>
          rw [hk] at h
          cases h
      | ok k =>
          rw [hk] at h
          cases h
          refine ⟨Nat.not_le.1 hle, ?_⟩
          rintro text rfl
          exact ne_empty_of_kind hk

/-! ### What a loop does -/

/-- What a part of the descent does before `rest`: it passes a piece of it, of which `Found` holds
with what follows and the result, or it refuses the template. -/
inductive Yields (pos : ℕ) (rest : List Char) (Found : List Char → List Char → ρ → Prop)
    (Refused : CompileError → Prop) : Except Stop (ℕ × ρ) → Prop
  | passed {piece rest' : List Char} {result : ρ} :
      rest = piece ++ rest' → Found piece rest' result →
      Yields pos rest Found Refused (.ok (pos + byteLength piece, result))
  | refused {err : CompileError} :
      Refused err → Yields pos rest Found Refused (.error (.refused err))

/-- What a pass does before `rest`, where the loop has passed `done`: it goes on behind a piece that
is not empty, where `Inv` holds of all that is passed, what follows and the state; or it leaves the
loop behind a piece; or it refuses the template. -/
inductive Steps (pos : ℕ) (done rest : List Char) (Inv : List Char → List Char → σ → Prop)
    (Found : List Char → List Char → ρ → Prop) (Refused : CompileError → Prop) :
    Except Stop (Pass σ ρ) → Prop
  | again {piece rest' : List Char} {state : σ} :
      rest = piece ++ rest' → piece ≠ [] → Inv (done ++ piece) rest' state →
      Steps pos done rest Inv Found Refused (.ok (.again (pos + byteLength piece) state))
  | leave {piece rest' : List Char} {result : ρ} :
      rest = piece ++ rest' → Found (done ++ piece) rest' result →
      Steps pos done rest Inv Found Refused (.ok (.leave (pos + byteLength piece) result))
  | refused {err : CompileError} :
      Refused err → Steps pos done rest Inv Found Refused (.error (.refused err))

variable {Inv : List Char → List Char → σ → Prop} {Found : List Char → List Char → ρ → Prop}
  {Refused : CompileError → Prop} {done : List Char}

/-- What holds of all that may follow a part of the descent holds of the part with what follows. -/
theorem Yields.bind {α : Type} {x : Except Stop (ℕ × ρ)} {f : ℕ × ρ → Except Stop α}
    {P : Except Stop α → Prop} (h : Yields pos rest Found Refused x)
    (hfound : ∀ {piece rest' : List Char} {result : ρ}, rest = piece ++ rest' →
      Found piece rest' result → P (f (pos + byteLength piece, result)))
    (hrefused : ∀ {err : CompileError}, Refused err → P (.error (.refused err))) :
    P (x >>= f) := by
  cases h with
  | passed hrest hresult => exact hfound hrest hresult
  | refused herr => exact hrefused herr

/-- A part that begins behind a character is one that begins at it. -/
theorem Yields.behind {c : Char} {x : Except Stop (ℕ × ρ)}
    {Found' : List Char → List Char → ρ → Prop}
    (h : Yields (pos + c.utf8Size) rest Found' Refused x)
    (hfound : ∀ {piece rest' : List Char} {result : ρ}, Found' piece rest' result →
      Found (c :: piece) rest' result) : Yields pos (c :: rest) Found Refused x := by
  cases h with
  | refused herr => exact .refused herr
  | @passed piece rest' result hrest hresult =>
      rw [Nat.add_assoc, ← byteLength_cons]
      refine .passed ?_ (hfound hresult)
      rw [hrest, List.cons_append]

theorem Steps.leave_here {result : ρ} (h : Found done rest result) :
    Steps pos done rest Inv Found Refused (.ok (.leave pos result)) := by
  have hfound : Found (done ++ []) rest result := by rwa [List.append_nil]
  exact .leave (List.nil_append rest).symm hfound

theorem Steps.again_behind {c : Char} {state : σ} (h : Inv (done ++ [c]) rest state) :
    Steps pos done (c :: rest) Inv Found Refused (.ok (.again (pos + c.utf8Size) state)) := by
  have hagain : Steps pos done (c :: rest) Inv Found Refused
      (.ok (.again (pos + byteLength [c]) state)) :=
    .again rfl (List.cons_ne_nil c []) h
  rwa [byteLength_cons, byteLength_nil, Nat.add_zero] at hagain

theorem Steps.leave_behind {c : Char} {result : ρ} (h : Found (done ++ [c]) rest result) :
    Steps pos done (c :: rest) Inv Found Refused (.ok (.leave (pos + c.utf8Size) result)) := by
  have hleave : Steps pos done (c :: rest) Inv Found Refused
      (.ok (.leave (pos + byteLength [c]) result)) :=
    .leave rfl h
  rwa [byteLength_cons, byteLength_nil, Nat.add_zero] at hleave

/-- A pass may begin with a piece of its own. -/
theorem Steps.behind_piece {piece : List Char} {x : Except Stop (Pass σ ρ)}
    (h : Steps (pos + byteLength piece) (done ++ piece) rest Inv Found Refused x) :
    Steps pos done (piece ++ rest) Inv Found Refused x := by
  cases h with
  | refused herr => exact .refused herr
  | @leave piece' rest' result hrest hfound =>
      rw [Nat.add_assoc, ← byteLength_append]
      rw [List.append_assoc] at hfound
      refine .leave ?_ hfound
      rw [hrest, List.append_assoc]
  | @again piece' rest' state hrest hne hinv =>
      rw [Nat.add_assoc, ← byteLength_append]
      rw [List.append_assoc] at hinv
      refine .again ?_ (List.append_ne_nil_of_right_ne_nil piece hne) hinv
      rw [hrest, List.append_assoc]

/-- A loop does what its passes do. -/
theorem yields_loop {pass : ℕ → σ → Except Stop (Pass σ ρ)} {whole : List Char}
    (hpass : ∀ {done rest : List Char} {state : σ}, whole = done ++ rest →
      At t (pos + byteLength done) rest → Inv done rest state →
      Steps (pos + byteLength done) done rest Inv Found Refused
        (pass (pos + byteLength done) state))
    (hat : At t pos whole) {state : σ} (hinv : Inv [] whole state) :
    Yields pos whole Found Refused (loop t pass pos state) := by
  suffices hrest : ∀ {done rest : List Char} {state : σ}, whole = done ++ rest →
      At t (pos + byteLength done) rest → Inv done rest state →
      Yields pos whole Found Refused (loop t pass (pos + byteLength done) state) from
    @hrest [] whole state rfl hat hinv
  intro done rest
  -- what is left gets shorter with every pass that goes on
  induction hn : rest.length using Nat.strong_induction_on generalizing done rest with
  | _ n ih =>
    subst hn
    intro state hwhole hat hinv
    have hsteps := hpass hwhole hat hinv
    have hpos : ∀ piece,
        pos + byteLength done + byteLength piece = pos + byteLength (done ++ piece) := by
      intro piece
      rw [byteLength_append, Nat.add_assoc]
    rw [loop]
    generalize pass (pos + byteLength done) state = p at hsteps
    cases hsteps with
    | refused h => exact .refused h
    | @leave piece rest' result hrest hfound =>
        dsimp only
        rw [hpos]
        refine .passed ?_ hfound
        rw [hwhole, hrest, List.append_assoc]
    | @again piece rest' state' hrest hne hinv' =>
        subst hrest
        have hahead := hat.append
        have hsize := hahead.size_eq
        have hpiece := byteLength_pos hne
        have hlength : 0 < piece.length := List.length_pos_iff.2 hne
        have hin : ¬t.utf8ByteSize < pos + byteLength done + byteLength piece := by omega
        have hmoved : ¬pos + byteLength done + byteLength piece ≤ pos + byteLength done := by omega
        dsimp only
        rw [if_neg hin, if_neg hmoved, hpos]
        rw [hpos] at hahead
        refine ih rest'.length ?_ rfl ?_ hahead hinv'
        · rw [List.length_append]
          omega
        · rw [hwhole, List.append_assoc]

end CacheKeys.Template.Descent
