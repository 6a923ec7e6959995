import Mathlib
import CacheKeys.Proofs.Template.Faults

/-! # Markers that pass through calls

The marker of a fault is ordinary text for the calls around it.  `Visibility` says what is left of
it: the marker itself, the marker in other letters, which an uppercase function restores, or nothing
to rely on.  `Passage.carry` is what a builtin function leaves of a marker in one of its arguments.
A call leaves at least that (`Visibility.Holds.invokeWith`), and so do all calls around a fault
(`FaultAt.holds_renderWith`). -/

namespace CacheKeys

/-! ### Markers in texts -/

theorem Text.occursIn_iff {needle cs : List Char} : occursIn needle cs = true ↔ needle <:+: cs := by
  induction cs with
  | nil => simp [occursIn]
  | cons c cs ih => simp [occursIn, ih, List.infix_cons_iff]

theorem Sentinel.isPresentIn_iff {key : String} :
    isPresentIn key = true ↔ ∃ s : Sentinel, s.marker.toList <:+: key.toList := by
  have hall : ∀ s : Sentinel, s ∈ all := by
    intro s
    cases s <;> decide
  simp [isPresentIn, Text.holds, Text.occursIn_iff, hall]

namespace Template

/-- What is left of a marker: all of it, the marker with some letters in lowercase, or nothing to
rely on. -/
inductive Visibility where
  | plain
  | folded
  | lost
  deriving DecidableEq

namespace Visibility

/-- A text holds what is left of a marker. -/
def Holds : Visibility → String → Prop
  | plain, text => ∃ s : Sentinel, s.marker.toList <:+: text.toList
  | folded, text => ∃ (s : Sentinel) (cs : List Char), cs <:+: text.toList ∧
      cs.map Char.toLower = s.marker.toList.map Char.toLower
  | lost, _ => True

/-- What is left in uppercase letters. -/
def raised : Visibility → Visibility
  | plain => plain
  | folded => plain
  | lost => lost

/-- What is left in lowercase letters. -/
def lowered : Visibility → Visibility
  | plain => folded
  | folded => folded
  | lost => lost

theorem holds_of_plain {text : String} (h : plain.Holds text) (v : Visibility) : v.Holds text := by
  obtain ⟨s, hs⟩ := h
  cases v with
  | plain => exact ⟨s, hs⟩
  | folded => exact ⟨s, _, hs, rfl⟩
  | lost => trivial

theorem holds_marker (s : Sentinel) (v : Visibility) : v.Holds s.marker :=
  holds_of_plain ⟨s, List.infix_rfl⟩ v

/-- A longer text holds the same. -/
theorem Holds.of_infix {v : Visibility} {text text' : String} (h : v.Holds text)
    (hi : text.toList <:+: text'.toList) : v.Holds text' := by
  cases v with
  | plain =>
      obtain ⟨s, hs⟩ := h
      exact ⟨s, hs.trans hi⟩
  | folded =>
      obtain ⟨s, cs, hs, hm⟩ := h
      exact ⟨s, cs, hs.trans hi, hm⟩
  | lost => trivial

theorem Holds.join {v : Visibility} {text : String} {texts : List String} (h : v.Holds text)
    (hm : text ∈ texts) : v.Holds (String.join texts) := by
  obtain ⟨before, after, rfl⟩ := List.append_of_mem hm
  refine h.of_infix ⟨(String.join before).toList, (String.join after).toList, ?_⟩
  simp

/-- Letters that are folded are letters of the marker, up to their case. -/
theorem Holds.exists_folded {v : Visibility} {text : String} (h : v.Holds text) (hv : v ≠ lost) :
    ∃ (s : Sentinel) (cs : List Char), cs <:+: text.toList ∧
      cs.map Char.toLower = s.marker.toList.map Char.toLower := by
  cases v with
  | plain => exact holds_of_plain h folded
  | folded => exact h
  | lost => exact absurd rfl hv

end Visibility

/-! ### Letters of other case -/

theorem toLower_of_le {c : Char} (h : 128 ≤ c.toNat) : c.toLower = c := by
  refine dif_neg fun hc => ?_
  have hz : c.toNat ≤ 'Z'.toNat := hc.2
  have hn : 'Z'.toNat = 90 := rfl
  omega

section folded

variable {s : Sentinel} {cs : List Char}
  (h : cs.map Char.toLower = s.marker.toList.map Char.toLower)
include h

/-- Markers have no lowercase letters, so uppercase letters restore them. -/
theorem map_toUpper_of_folded : cs.map Char.toUpper = s.marker.toList := by
  have hu : cs.map Char.toUpper = (cs.map Char.toLower).map Char.toUpper := by
    simp
  rw [hu, h]
  cases s <;> decide

theorem toNat_lt_of_folded : ∀ c ∈ cs, c.toNat < 128 := by
  intro c hc
  have hm : c.toLower ∈ s.marker.toList.map Char.toLower := h ▸ List.mem_map_of_mem hc
  have hl : c.toLower.toNat < 128 := by
    have hs : ∀ d ∈ s.marker.toList.map Char.toLower, d.toNat < 128 := by
      cases s <;> simp [Sentinel.marker]
    exact hs _ hm
  by_contra hn
  rw [toLower_of_le (not_lt.1 hn)] at hl
  exact hn hl

theorem mem_of_folded : '<' ∈ cs := by
  have hm : '<' ∈ cs.map Char.toUpper := by
    rw [map_toUpper_of_folded h]
    cases s <;> simp [Sentinel.marker]
  obtain ⟨c, hc, hu⟩ := List.mem_map.1 hm
  have hlt : ∀ n < 128, (Char.ofNat n).toUpper = '<' → Char.ofNat n = '<' := by decide
  have hc' := hlt c.toNat (toNat_lt_of_folded h c hc)
  rw [Char.ofNat_toNat] at hc'
  exact hc' hu ▸ hc

end folded

/-! ### Lowercase and uppercase texts -/

theorem flatMap_upperChar {cs : List Char} (h : ∀ c ∈ cs, c.toNat < 128) :
    cs.flatMap Text.upperChar = cs.map Char.toUpper := by
  induction cs with
  | nil => rfl
  | cons c cs ih =>
      obtain ⟨hc, hcs⟩ := List.forall_mem_cons.1 h
      rw [List.flatMap_cons, ih hcs, Text.upperChar, if_pos hc]
      rfl

/-- What stands behind some characters is lowered as text behind them, whatever becomes of them. -/
theorem exists_lowerAfter_append (before cs rest : List Char) :
    ∃ ds, Text.lowerAfter before (cs ++ rest) =
      ds ++ Text.lowerAfter (cs.reverse ++ before) rest := by
  induction cs generalizing before with
  | nil => exact ⟨[], rfl⟩
  | cons c cs ih =>
      obtain ⟨ds, hd⟩ := ih (c :: before)
      rw [List.cons_append, Text.lowerAfter, hd, List.reverse_cons, List.append_assoc,
        List.singleton_append]
      exact ⟨_ ++ ds, (List.append_assoc ..).symm⟩

/-- ASCII characters are lowered one by one; only a sigma looks at its neighbours. -/
theorem lowerAfter_append (before : List Char) {cs : List Char} (h : ∀ c ∈ cs, c.toNat < 128)
    (rest : List Char) :
    Text.lowerAfter before (cs ++ rest) =
      cs.map Char.toLower ++ Text.lowerAfter (cs.reverse ++ before) rest := by
  induction cs generalizing before with
  | nil => rfl
  | cons c cs ih =>
      obtain ⟨hc, hcs⟩ := List.forall_mem_cons.1 h
      have hs : (c == '\u03a3') = false := by
        rw [beq_eq_false_iff_ne]
        rintro rfl
        exact absurd hc (by decide)
      rw [List.cons_append, Text.lowerAfter, hs, if_neg Bool.false_ne_true, Text.lowerChar,
        if_pos hc, ih _ hcs]
      simp

namespace Visibility

theorem Holds.upper {v : Visibility} {text : String} (h : v.Holds text) :
    v.raised.Holds (Text.upper text) := by
  by_cases hv : v = lost
  · subst hv
    trivial
  · obtain ⟨s, cs, ⟨before, after, hc⟩, hm⟩ := h.exists_folded hv
    have hp : plain.Holds (Text.upper text) := by
      refine ⟨s, before.flatMap Text.upperChar, after.flatMap Text.upperChar, ?_⟩
      rw [Text.upper, String.toList_ofList, ← hc, List.flatMap_append, List.flatMap_append,
        flatMap_upperChar (toNat_lt_of_folded hm), map_toUpper_of_folded hm]
    exact holds_of_plain hp _

theorem Holds.lower {v : Visibility} {text : String} (h : v.Holds text) :
    v.lowered.Holds (Text.lower text) := by
  by_cases hv : v = lost
  · subst hv
    trivial
  · obtain ⟨s, cs, ⟨before, after, hc⟩, hm⟩ := h.exists_folded hv
    obtain ⟨ds, hd⟩ := exists_lowerAfter_append [] before (cs ++ after)
    have hf : folded.Holds (Text.lower text) := by
      refine ⟨s, cs.map Char.toLower,
        ⟨ds, Text.lowerAfter (cs.reverse ++ (before.reverse ++ [])) after, ?_⟩, ?_⟩
      · rw [Text.lower, String.toList_ofList, ← hc, List.append_assoc before, hd,
          lowerAfter_append _ (toNat_lt_of_folded hm), List.append_assoc ds]
      · rw [← hm]
        simp
    cases v with
    | plain => exact hf
    | folded => exact hf
    | lost => exact absurd rfl hv

end Visibility

/-! ### Markers in place of integers -/

theorem mem_dropWhile {p : Char → Bool} {c : Char} (hc : p c = false) {cs : List Char}
    (h : c ∈ cs) : c ∈ cs.dropWhile p := by
  rw [← List.takeWhile_append_dropWhile (p := p) (l := cs), List.mem_append] at h
  refine h.resolve_left fun ht => ?_
  simp [List.mem_takeWhile_imp ht] at hc

theorem mem_trimChars {p : Char → Bool} {c : Char} (hc : p c = false) {cs : List Char}
    (h : c ∈ cs) : c ∈ Text.trimChars p cs := by
  rw [Text.trimChars, List.mem_reverse]
  exact mem_dropWhile hc (List.mem_reverse.2 (mem_dropWhile hc h))

theorem natBelow?_eq_none {c : Char} (hc : c.isDigit = false) {cs : List Char} (h : c ∈ cs)
    (bound : ℕ) : Text.natBelow? bound cs = none := by
  refine if_neg fun hn => ?_
  have hall := (Bool.and_eq_true _ _ ▸ hn.1 : _ ∧ _).2
  rw [List.all_eq_true.1 hall c h] at hc
  cases hc

theorem readInteger?_eq_none {s : String} (h : '<' ∈ s.toList) : Text.readInteger? s = none := by
  have hd : '<'.isDigit = false := by decide
  unfold Text.readInteger?
  split
  · next cs hs =>
    rw [hs, List.mem_cons] at h
    rw [natBelow?_eq_none hd (h.resolve_left (by decide))]
    rfl
  · next cs hs =>
    rw [hs, List.mem_cons] at h
    rw [natBelow?_eq_none hd (h.resolve_left (by decide))]
    rfl
  · rw [natBelow?_eq_none hd h]
    rfl

theorem readInt_eq_badType {s : String} (h : '<' ∈ s.toList) :
    Arguments.readInt s = .error .badType := by
  have ht : '<' ∈ (Text.trimBlanks s).toList := by
    rw [Text.trimBlanks, String.toList_ofList]
    exact mem_trimChars (by decide) h
  rw [Arguments.readInt, readInteger?_eq_none ht]

theorem Visibility.Holds.readInt {v : Visibility} {text : String} (h : v.Holds text)
    (hv : v ≠ .lost) : Arguments.readInt text = .error .badType := by
  obtain ⟨s, cs, hc, hm⟩ := h.exists_folded hv
  exact readInt_eq_badType (hc.subset (mem_of_folded hm))

/-! ### Markers in calls -/

/-- What a builtin function leaves of a marker in one of its arguments.  A marker that stands for an
integer is answered with another marker, and an argument that the function does not take makes the
call a fault itself. -/
def Passage.carry (p : Passage) (v : Visibility) : Visibility :=
  match p.function, p.position with
  | "upper", 0 => v.raised
  | "lower", 0 => v.lowered
  | "substr", 1 => v.raised
  | "substr", 2 => v.raised
  | "select", 1 => v.raised
  | "substr", 0 => .lost
  | "select", 0 => .lost
  | "len", 0 => .lost
  | "path_base", 0 => .lost
  | "path_dir", 0 => .lost
  | "path_ext", 0 => .lost
  | _, _ => .plain

section invoke

variable {v : Visibility} {text : String} (h : v.Holds text)

theorem Visibility.holds_invokeWith_refused {f : TextFunction} {args : Arguments}
    (ha : f.arity.accepts args.size = false) (v : Visibility) :
    v.Holds (f.invokeWith Sentinel.marker args) := by
  rw [TextFunction.invokeWith, ha, if_neg Bool.false_ne_true]
  exact holds_marker .argCount v

theorem Visibility.holds_invokeWith_error {f : TextFunction} {args : Arguments} {s : Sentinel}
    (hm : f.meaning args = .error s) (v : Visibility) :
    v.Holds (f.invokeWith Sentinel.marker args) := by
  rw [TextFunction.invokeWith]
  split
  · rw [hm]
    exact holds_marker s v
  · exact holds_marker .argCount v

include h

/-- A function that does not read a marker as an integer answers with a marker. -/
theorem Visibility.Holds.raised_of_error {f : TextFunction} {args : Arguments}
    (hm : Arguments.readInt text = .error .badType → ∃ s, f.meaning args = .error s) :
    v.raised.Holds (f.invokeWith Sentinel.marker args) := by
  by_cases hv : v = .lost
  · subst hv
    trivial
  · obtain ⟨s, hs⟩ := hm (h.readInt hv)
    exact holds_invokeWith_error hs _

variable {vs : List String} {i : ℕ} (hi : vs[i]? = some text)
include hi

theorem Visibility.Holds.substr : (Passage.carry ⟨"substr", i⟩ v).Holds
    (Builtin.substr.invokeWith Sentinel.marker ⟨vs⟩) := by
  match i with
  | 0 => trivial
  | 1 =>
      refine h.raised_of_error fun he => ⟨.badType, ?_⟩
      simp [Builtin.substr, Arguments.int, Arguments.text, Arguments.get?, hi, he, bind,
        Except.bind]
  | 2 =>
      refine h.raised_of_error fun he => ?_
      cases hs : Arguments.int ⟨vs⟩ 1 with
      | error s => exact ⟨s, by simp [Builtin.substr, hs, bind, Except.bind]⟩
      | ok start =>
          refine ⟨.badType, ?_⟩
          simp [Builtin.substr, hs, Arguments.int?, Arguments.get?, hi, he, bind, Except.bind,
            Except.map]
  | i + 3 =>
      have hn : Builtin.substr.arity.accepts vs.length = false := by
        have hlt := (List.getElem?_eq_some_iff.1 hi).1
        simp [Builtin.substr, Arity.between, Arity.accepts]
        omega
      exact holds_invokeWith_refused hn _

theorem Visibility.Holds.select : (Passage.carry ⟨"select", i⟩ v).Holds
    (Builtin.select.invokeWith Sentinel.marker ⟨vs⟩) := by
  match i with
  | 0 => trivial
  | 1 =>
      refine h.raised_of_error fun he => ⟨.badType, ?_⟩
      simp [Builtin.select, Arguments.int, Arguments.text, Arguments.get?, hi, he, bind,
        Except.bind]
  | i + 2 =>
      have hn : Builtin.select.arity.accepts vs.length = false := by
        have hlt := (List.getElem?_eq_some_iff.1 hi).1
        simp [Builtin.select, Arity.exactly, Arity.accepts]
        omega
      exact holds_invokeWith_refused hn _

/-- What a function of one text makes of a marker in it. -/
theorem Visibility.Holds.unary {f : TextFunction} (hf : f.arity = .exactly 1) {w : Visibility}
    (hw : w.Holds (f.invokeWith Sentinel.marker ⟨[text]⟩))
    (hp : Passage.carry ⟨f.name, 0⟩ v = w) :
    (Passage.carry ⟨f.name, i⟩ v).Holds (f.invokeWith Sentinel.marker ⟨vs⟩) := by
  cases ha : f.arity.accepts vs.length with
  | false => exact holds_invokeWith_refused ha _
  | true =>
      obtain ⟨x, rfl⟩ : ∃ x, vs = [x] := by
        simp only [hf, Arity.exactly, Arity.accepts, Bool.and_eq_true, decide_eq_true_eq] at ha
        exact List.length_eq_one_iff.1 (by omega)
      obtain ⟨rfl, rfl⟩ : i = 0 ∧ x = text := by
        have hlt := (List.getElem?_eq_some_iff.1 hi).1
        have hz : i = 0 := by simpa using hlt
        subst hz
        exact ⟨rfl, by simpa using hi⟩
      rw [hp]
      exact hw

end invoke

/-- A builtin function leaves at least what `Passage.carry` tells. -/
theorem Visibility.Holds.invokeWith {v : Visibility} {text : String} (h : v.Holds text)
    {f : TextFunction} (hf : f ∈ Builtin.functions) {vs : List String} {i : ℕ}
    (hi : vs[i]? = some text) :
    (Passage.carry ⟨f.name, i⟩ v).Holds (f.invokeWith Sentinel.marker ⟨vs⟩) := by
  simp only [Builtin.functions, List.mem_cons, List.not_mem_nil, or_false] at hf
  rcases hf with rfl | rfl | rfl | rfl | rfl | rfl | rfl | rfl
  · exact h.substr hi
  · exact h.select hi
  · exact h.unary hi rfl h.lower rfl
  · exact h.unary hi rfl h.upper rfl
  · exact h.unary hi rfl (w := .lost) trivial rfl
  · exact h.unary hi rfl (w := .lost) trivial rfl
  · exact h.unary hi rfl (w := .lost) trivial rfl
  · exact h.unary hi rfl (w := .lost) trivial rfl

/-! ### Markers in templates -/

theorem Stage.renderAllWith_eq_map (marker : Sentinel → String) (ctx : Context) (ss : List Stage) :
    renderAllWith marker ctx ss = ss.map (renderWith marker ctx) := by
  induction ss with
  | nil => rfl
  | cons s ss ih => rw [renderAllWith, ih, List.map_cons]

/-- What the calls around a fault leave of its marker. -/
def visibility (path : List Passage) : Visibility := path.foldr Passage.carry .plain

/-- The text of a stage holds what the calls around a fault in it leave of the marker. -/
theorem FaultAt.holds_renderWith {path : List Passage} {s : Stage} {ctx : Context}
    (h : FaultAt ctx.size path s) (hs : s.Calls (· ∈ Builtin.functions)) :
    (visibility path).Holds (s.renderWith Sentinel.marker ctx) := by
  induction h with
  | lookup hn =>
      have hg : ctx.get? _ = none := List.getElem?_eq_none hn
      rw [Stage.renderWith, hg]
      exact Visibility.holds_marker .argCount _
  | count hc =>
      rw [Stage.renderWith, hc, if_neg Bool.false_ne_true]
      exact Visibility.holds_marker .argCount _
  | @argument f args s i path hi _ ih =>
      cases hs with
      | call hf hargs =>
          rw [Stage.renderWith]
          split
          · refine (ih (hargs s (List.mem_of_getElem? hi))).invokeWith hf ?_
            rw [Stage.renderAllWith_eq_map, List.getElem?_map, hi, Option.map_some]
          · exact Visibility.holds_marker .argCount _
  | @part parts s path hm _ ih =>
      cases hs with
      | concat hparts =>
          rw [Stage.renderWith, Stage.renderAllWith_eq_map]
          exact (ih (hparts s hm)).join (List.mem_map_of_mem hm)

end Template

end CacheKeys
