import Mathlib
import CacheKeys.Proofs.Rule.Warnings
import CacheKeys.Proofs.Template.Specimens

/-! # Which warnings show in the keys of a rule

A rule with warnings has a fault in its template.  The marker of the fault is in all keys of the
rule if `visibility` says that the calls around the fault leave it there, and for every other list
of calls there are rules that show it in no key (`hasSentinel_of_visible`). -/

namespace CacheKeys.Rule

open Template

/-- The key for a request holds what the calls around a fault leave of its marker. -/
theorem holds_derive {r : Rule} (h : r.OfBuiltins) {path : List Passage} (hp : r.FaultAt path)
    (request : Request) : (visibility path).Holds (r.derive request).key := by
  obtain ⟨s, hs, hf⟩ := hp
  rw [← size_context r request] at hf
  show (visibility path).Holds (String.join (Stage.renderAllWith _ _ _))
  rw [Stage.renderAllWith_eq_map]
  exact (hf.holds_renderWith (h.calls (fun _ hm => hm) s hs)).join (List.mem_map_of_mem hs)

/-- Every fault gives a warning. -/
theorem warnings_ne_nil_iff {r : Rule} (h : r.OfBuiltins) :
    r.warnings ≠ [] ↔ ∃ path, r.FaultAt path := by
  rw [ne_eq, warnings_eq_nil_iff h, not_forall_not]

theorem exists_rule_of_visibility_ne {path : List Passage} (hp : AreBuiltin path)
    (hv : visibility path ≠ .plain) :
    ∃ r : Rule, r.OfBuiltins ∧ r.FaultAt path ∧
      ∀ request, (r.derive request).hasSentinel = false := by
  obtain ⟨limits, template, k, hk, hf, hkey⟩ := exists_compile_specimen ⟨[]⟩ hp
  have hr : ofConfig ⟨Registry.builtin, limits⟩ ⟨"r", template, []⟩ = .ok ⟨"r", k, []⟩ :=
    ofConfig_eq_ok_iff.2 ⟨[], rfl, make_eq_ok_iff.2 ⟨k, hk, rfl⟩⟩
  exact ⟨⟨"r", k, []⟩, .configured hr, hf, fun _ => Visibility.isPresentIn_sample hv hkey⟩

/-- The warnings of a rule tell that its template has faults.  A fault shows in all keys of the
rule if the calls around it leave its marker, and otherwise there is a rule with a fault inside the
same calls that shows it in no key. -/
theorem hasSentinel_of_visible {r : Rule} (h : r.OfBuiltins) :
    (r.warnings ≠ [] ↔ ∃ path, r.FaultAt path) ∧
    ∀ path, r.FaultAt path →
      (visibility path = .plain → ∀ request, (r.derive request).hasSentinel = true) ∧
      (visibility path ≠ .plain → ∃ r' : Rule, r'.OfBuiltins ∧ r'.warnings ≠ [] ∧
        r'.FaultAt path ∧ ∀ request, (r'.derive request).hasSentinel = false) := by
  refine ⟨warnings_ne_nil_iff h, fun path hp => ⟨fun hv request => ?_, fun hv => ?_⟩⟩
  · have hk := holds_derive h hp request
    rw [hv] at hk
    exact Sentinel.isPresentIn_iff.2 hk
  · obtain ⟨s, hs, hf⟩ := hp
    have hb := hf.areBuiltin (h.calls (fun _ hm => hm) s hs)
    obtain ⟨r', hr', hf', hk⟩ := exists_rule_of_visibility_ne hb hv
    exact ⟨r', hr', (warnings_ne_nil_iff hr').2 ⟨path, hf'⟩, hf', hk⟩

theorem hasSentinel_of_visible_upper :
    ∃ r : Rule, r.OfBuiltins ∧ r.warnings ≠ [] ∧ r.FaultAt [⟨"upper", 0⟩, ⟨"lower", 0⟩] ∧
      visibility [⟨"upper", 0⟩, ⟨"lower", 0⟩] = .plain ∧
      ∀ request, (r.derive request).hasSentinel = true := by
  have hp : parse Limits.standard "\x7bupper \x7blower \x7bsubstr \x7b0\x7d\x7d\x7d\x7d" =
      .ok [.call "upper" [.call "lower" [.call "substr" [.argRef 0] 15] 8] 1] := by
    decide +kernel
  have hu : Registry.builtin.get? "upper" = some Builtin.upper := Registry.get?_builtin "upper"
  have hl : Registry.builtin.get? "lower" = some Builtin.lower := Registry.get?_builtin "lower"
  have hs : Registry.builtin.get? "substr" = some Builtin.substr := Registry.get?_builtin "substr"
  have hc : lowerAll Registry.builtin
      [.call "upper" [.call "lower" [.call "substr" [.argRef 0] 15] 8] 1] =
      .ok ([.call Builtin.upper [.call Builtin.lower [.call Builtin.substr [.argRef 0]]]],
        [⟨15, "substr", .between 2 3, 1⟩]) := by
    simp [lowerAll, lower, hu, hl, hs, Builtin.upper, Builtin.lower, Builtin.substr,
      Arity.accepts, Arity.exactly, Arity.between]
  have hr := OfBuiltins.of_lowerAll hp hc "r" [.path]
  have hf : Template.FaultAt 1 [⟨"upper", 0⟩, ⟨"lower", 0⟩]
      (.call Builtin.upper [.call Builtin.lower [.call Builtin.substr [.argRef 0]]]) :=
    .argument (f := Builtin.upper) (i := 0) rfl
      (.argument (f := Builtin.lower) (i := 0) rfl (.count rfl))
  obtain ⟨hw, hv⟩ := hasSentinel_of_visible hr
  exact ⟨_, hr, hw.2 ⟨_, _, List.mem_singleton_self _, hf⟩, ⟨_, List.mem_singleton_self _, hf⟩, rfl,
    (hv _ ⟨_, List.mem_singleton_self _, hf⟩).1 rfl⟩

/-- A rule with a warning that shows in no key: lowercase letters are no marker. -/
theorem not_hasSentinel_lower_select :
    ∃ r : Rule, ofConfig Compiler.standard ⟨"r", "{lower {select {0}}}", ["path"]⟩ =
        .ok r ∧
      r.OfBuiltins ∧ r.warnings = [.arity ⟨8, "select", .exactly 2, 1⟩] ∧
      ∀ request, (r.derive request).key = "<argn>" ∧ (r.derive request).hasSentinel = false := by
  have hp : parse Limits.standard "{lower {select {0}}}" =
      .ok [.call "lower" [.call "select" [.argRef 0] 8] 1] := by
    decide +kernel
  have hl : Registry.builtin.get? "lower" = some Builtin.lower := Registry.get?_builtin "lower"
  have hs : Registry.builtin.get? "select" = some Builtin.select := Registry.get?_builtin "select"
  have hc : lowerAll Registry.builtin [.call "lower" [.call "select" [.argRef 0] 8] 1] =
      .ok ([.call Builtin.lower [.call Builtin.select [.argRef 0]]],
        [⟨8, "select", .exactly 2, 1⟩]) := by
    simp [lowerAll, lower, hl, hs, Builtin.lower, Builtin.select, Arity.accepts, Arity.exactly]
  have hi : ["path"].mapM Field.parse = .ok [.path] := by decide +kernel
  have hr : ofConfig Compiler.standard
      ⟨"r", "\x7blower \x7bselect \x7b0\x7d\x7d\x7d", ["path"]⟩ =
      .ok ⟨"r", ⟨"\x7blower \x7bselect \x7b0\x7d\x7d\x7d",
        [.call Builtin.lower [.call Builtin.select [.argRef 0]]],
        [⟨8, "select", .exactly 2, 1⟩]⟩, [.path]⟩ :=
    ofConfig_eq_ok_iff.2 ⟨_, hi, make_eq_ok_iff.2
      ⟨_, compile_eq_ok_iff.2 ⟨_, _, hp, hc, rfl⟩, rfl⟩⟩
  have hk : String.join [Text.lower "<ARGN>"] = "<argn>" ∧
      Sentinel.isPresentIn (String.join [Text.lower "<ARGN>"]) = false := by
    decide +kernel
  exact ⟨_, hr, .configured hr, rfl, fun _ => hk⟩

end CacheKeys.Rule
