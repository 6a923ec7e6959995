import Mathlib
import CacheKeys.Proofs.Template.Behaviour

/-! # Templates side by side

After a text that is a template by itself, the reader stands outside all groups, and what follows
is read as it is read alone.  `Seam` relates the two readers: up to the first brace the second one
has a longer run of literal text, and afterwards it is the first one moved, with other nodes in
front.  One character keeps this (`Seam.step`), so a whole text does (`Seam.run`), and the two
readers end alike (`Seam.finish`). -/

namespace CacheKeys.Template

/-! ### Results side by side -/

/-- Two results are alike: the same error moved by `k` bytes, or related values. -/
inductive Alike {α β : Type} (k : ℕ) (P : α → β → Prop) :
    Except CompileError α → Except CompileError β → Prop
  | error (e : CompileError) : Alike k P (.error e) (.error (e.relocate (k + ·)))
  | ok {a : α} {b : β} (h : P a b) : Alike k P (.ok a) (.ok b)

theorem Alike.of_error {α β : Type} {k : ℕ} {P : α → β → Prop} {e : CompileError}
    {y : Except CompileError β} (h : Alike k P (.error e) y) :
    y = .error (e.relocate (k + ·)) := by
  cases h
  rfl

theorem Alike.of_ok {α β : Type} {k : ℕ} {P : α → β → Prop} {a : α}
    {y : Except CompileError β} (h : Alike k P (.ok a) y) : ∃ b, y = .ok b ∧ P a b := by
  cases h with
  | ok h => exact ⟨_, rfl, h⟩

theorem Alike.ok_of_ok {α β : Type} {k : ℕ} {P : α → β → Prop} {x : Except CompileError α}
    {b : β} (h : Alike k P x (.ok b)) : ∃ a, x = .ok a ∧ P a b := by
  cases h with
  | ok h => exact ⟨_, rfl, h⟩

/-- A fault of a reader that has been moved by no bytes. -/
theorem Alike.error_zero {α β : Type} {k : ℕ} {P : α → β → Prop} (e : CompileError) :
    Alike k P (.error (e.relocate (0 + ·))) (.error (e.relocate (k + ·))) := by
  rw [← e.relocate_zero_relocate (k + ·)]
  exact .error _

/-- The nodes `ks` show what the nodes `ns` and, moved by `k` bytes, the nodes `ms` show. -/
def ShowsBoth (k : ℕ) (ns ms ks : List Expr) : Prop :=
  ∀ R b, Behaves R ks b ↔
    ∃ b₁ b₂, Behaves R ns b₁ ∧ Behaves R ms b₂ ∧ b₁.append (b₂.relocate (k + ·)) = b

namespace Reader

variable {depth k : ℕ} {done : List Expr} {run₀ : String}

/-! ### The seam -/

/-- A reader and the one that has read `k` bytes before, where it found the nodes `done` and the
literal text `run₀`. -/
inductive Seam (k : ℕ) (done : List Expr) (run₀ : String) : Reader → Reader → Prop
  | unbraced (offset : ℕ) (run : String) :
      Seam k done run₀ ⟨offset, [], .outside run⟩ ⟨k + offset, done, .outside (run₀ ++ run)⟩
  | moved (run : String) (r : Reader) :
      Seam k done run₀ (r.after 0 (withRun [] run)) (r.after k (withRun done (run₀ ++ run)))

/-- The two readers do the same with a character. -/
theorem Seam.step {r r' : Reader} (h : Seam k done run₀ r r') (c : Char) :
    Alike k (Seam k done run₀) (r.step depth c) (r'.step depth c) := by
  cases h with
  | unbraced offset run =>
      simp only [Reader.step, advance]
      split
      · unfold openGroup
        split
        · exact .error (.nestingTooDeep depth)
        · refine .ok ?_
          have hs : Seam k done run₀ _ _ :=
            .moved run ⟨offset + c.utf8Size, [], .between (Group.start offset) []⟩
          simpa [after, relocateAll, Place.relocate, Group.relocate, Group.start, Nat.add_assoc]
            using hs
      · split
        · exact .error (.unbalancedBraces offset)
        · refine .ok ?_
          have hs : Seam k done run₀ _ _ := .unbraced (offset + c.utf8Size) (run.push c)
          have hr : run₀ ++ run.push c = (run₀ ++ run).push c := by simp [← String.toList_inj]
          simpa [hr, Nat.add_assoc] using hs
  | moved run r =>
      rw [step_after, step_after]
      cases r.step depth c with
      | error e => exact .error_zero e
      | ok r' => exact .ok (.moved run r')

theorem Seam.run {r r' : Reader} (h : Seam k done run₀ r r') (depth : ℕ) (cs : List Char) :
    Alike k (Seam k done run₀) (r.run depth cs) (r'.run depth cs) := by
  induction cs generalizing r r' with
  | nil => exact .ok h
  | cons c cs ih =>
      have hs : Alike k (Seam k done run₀) (r.step depth c) (r'.step depth c) := h.step c
      rw [run_cons, run_cons]
      generalize r.step depth c = x, r'.step depth c = x' at hs ⊢
      cases hs with
      | error e => exact .error e
      | ok h' => exact ih h'

/-- Where both readers end well, the second shows what lies before the seam and what the first
shows. -/
theorem Seam.finish {r r' : Reader} {ns : List Expr} (h : Seam k done run₀ r r')
    (hns : ∀ R b, Behaves R ns b ↔ Behaves R (done ++ [.literal run₀]) b) :
    Alike k (ShowsBoth k ns) r.finish r'.finish := by
  cases h with
  | unbraced offset run =>
      obtain ⟨ms, hms, hm⟩ := exists_finish_outside offset [] run
      obtain ⟨ks, hks, hk⟩ := exists_finish_outside (k + offset) done (run₀ ++ run)
      rw [hms, hks]
      refine .ok fun R b => ?_
      simp only [hns, hm, hk, behaves_append, behaves_literal, List.nil_append]
      constructor
      · rintro ⟨d, _, hd, rfl, rfl⟩
        refine ⟨_, _, ⟨d, _, hd, rfl, rfl⟩, rfl, ?_⟩
        rw [Behaviour.relocate_literal, Behaviour.append_assoc, Behaviour.literal_append]
      · rintro ⟨_, _, ⟨d, _, hd, rfl, rfl⟩, rfl, rfl⟩
        refine ⟨d, _, hd, rfl, ?_⟩
        rw [Behaviour.relocate_literal, Behaviour.append_assoc, Behaviour.literal_append]
  | moved run r =>
      obtain ⟨offset, nodes, place⟩ := r
      cases place with
      | outside last =>
          obtain ⟨ms, hms, hm⟩ := exists_finish_outside (0 + offset)
            (withRun [] run ++ relocateAll (0 + ·) nodes) last
          obtain ⟨ks, hks, hk⟩ := exists_finish_outside (k + offset)
            (withRun done (run₀ ++ run) ++ relocateAll (k + ·) nodes) last
          simp only [after, Place.relocate_outside]
          rw [hms, hks]
          refine .ok fun R b => ?_
          simp only [hns, hm, hk, behaves_append, behaves_literal, behaves_withRun,
            behaves_relocateAll, List.nil_append]
          have hb : ∀ d n : Behaviour,
              ((d.append (.literal run₀)).append
                ((((Behaviour.literal run).append (n.relocate (0 + ·))).append
                  (.literal last)).relocate (k + ·))) =
              ((d.append (.literal (run₀ ++ run))).append (n.relocate (k + ·))).append
                (.literal last) := by
            intro d n
            simp only [Behaviour.relocate_append, Behaviour.relocate_literal,
              Behaviour.relocate_zero_relocate, Behaviour.append_assoc,
              ← Behaviour.literal_append]
          constructor
          · rintro ⟨_, _, ⟨_, _, ⟨d, _, hd, rfl, rfl⟩, ⟨n, hn, rfl⟩, rfl⟩, rfl, rfl⟩
            exact ⟨_, _, ⟨d, _, hd, rfl, rfl⟩,
              ⟨_, _, ⟨_, _, rfl, ⟨n, hn, rfl⟩, rfl⟩, rfl, rfl⟩, hb d n⟩
          · rintro ⟨_, _, ⟨d, _, hd, rfl, rfl⟩,
              ⟨_, _, ⟨_, _, rfl, ⟨n, hn, rfl⟩, rfl⟩, rfl, rfl⟩, rfl⟩
            exact ⟨_, _, ⟨_, _, ⟨d, _, hd, rfl, rfl⟩, ⟨n, hn, rfl⟩, rfl⟩, rfl, (hb d n).symm⟩
      | between g outer => exact .error_zero (.unbalancedBraces g.opened)
      | inside g d outer => exact .error_zero (.unbalancedBraces g.opened)
      | quoted g d opened q outer => exact .error_zero (.unterminatedQuote opened)

end Reader

/-- What follows a template is read as it is read alone. -/
theorem read_append {depth : ℕ} {cs ds : List Char} {ns : List Expr}
    (hc : read depth cs = .ok ns) :
    Alike (byteLength cs) (ShowsBoth (byteLength cs) ns) (read depth ds)
      (read depth (cs ++ ds)) := by
  unfold read at hc ⊢
  cases hr : Reader.start.run depth cs with
  | error e => simp [hr] at hc
  | ok r =>
      obtain ⟨offset, done, place⟩ := r
      obtain rfl : offset = byteLength cs := ((Reader.Reads.start _).run hr).1
      rw [hr] at hc
      cases place with
      | outside run₀ =>
          obtain ⟨ns', hns', hb⟩ := exists_finish_outside (byteLength cs) done run₀
          obtain rfl : ns' = ns := Except.ok.inj (hns'.symm.trans hc)
          have h₀ : Reader.Seam (byteLength cs) done run₀ Reader.start
              ⟨byteLength cs, done, .outside run₀⟩ := by
            have h : Reader.Seam (byteLength cs) done run₀ _ _ := .unbraced 0 ""
            simpa [Reader.start] using h
          have hs := h₀.run depth ds
          rw [Reader.run_append_of_ok hr]
          generalize Reader.start.run depth ds = x,
            Reader.run depth ⟨byteLength cs, done, .outside run₀⟩ ds = x' at hs ⊢
          cases hs with
          | error e => exact .error e
          | ok h => exact h.finish hb
      | between g outer => cases hc
      | inside g d outer => cases hc
      | quoted g d opened q outer => cases hc

theorem parse_append {limits : Limits} {t u : String} {ns : List Expr}
    (hl : t.utf8ByteSize + u.utf8ByteSize ≤ limits.maxLength) (ht : parse limits t = .ok ns) :
    Alike t.utf8ByteSize (ShowsBoth t.utf8ByteSize ns) (parse limits u)
      (parse limits (t ++ u)) := by
  have hu : u.utf8ByteSize ≤ limits.maxLength := by omega
  have htu : (t ++ u).utf8ByteSize ≤ limits.maxLength := by
    rw [String.utf8ByteSize_append]
    exact hl
  rw [parse_eq_read (le_maxLength_of_parse ht)] at ht
  rw [parse_eq_read hu, parse_eq_read htu, String.toList_append, ← byteLength_toList]
  exact read_append ht

/-- After a template, a fault of what follows is the same fault further to the right, and a template
that follows shows what it shows alone, after what the first one shows. -/
theorem compile_append (limits : Limits) (t u : String) (ns : List Expr)
    (hl : t.utf8ByteSize + u.utf8ByteSize ≤ limits.maxLength) (ht : parse limits t = .ok ns) :
    (∀ e, parse limits u = .error e →
      parse limits (t ++ u) = .error (e.relocate (t.utf8ByteSize + ·))) ∧
    (∀ ms, parse limits u = .ok ms →
      (∃ ks, parse limits (t ++ u) = .ok ks) ∧
      ∀ (R : Registry) (k k' : Compiled), Compiler.compile ⟨R, limits⟩ t = .ok k →
        Compiler.compile ⟨R, limits⟩ u = .ok k' →
        ∃ m, Compiler.compile ⟨R, limits⟩ (t ++ u) = .ok m ∧
          (∀ ctx, m.evaluate ctx = k.evaluate ctx ++ k'.evaluate ctx) ∧
          m.diagnostics = k.diagnostics ++
            k'.diagnostics.map (Diagnostic.relocate (t.utf8ByteSize + ·)) ∧
          m.maxArgIndex = max k.maxArgIndex k'.maxArgIndex ∧
          (m.isConstant = true ↔ k.isConstant = true ∧ k'.isConstant = true)) := by
  have h := parse_append hl ht
  refine ⟨fun e hu => ?_, fun ms hu => ?_⟩
  · rw [hu] at h
    exact h.of_error
  · rw [hu] at h
    obtain ⟨ks, hks, hk⟩ := h.of_ok
    refine ⟨⟨ks, hks⟩, fun R k k' hkt hku => ?_⟩
    obtain ⟨ns', hns', hbt⟩ := exists_compile_iff.1 ⟨k, hkt, rfl⟩
    obtain ⟨ms', hms', hbu⟩ := exists_compile_iff.1 ⟨k', hku, rfl⟩
    obtain rfl : ns' = ns := Except.ok.inj (hns'.symm.trans ht)
    obtain rfl : ms' = ms := Except.ok.inj (hms'.symm.trans hu)
    obtain ⟨m, hm, hb⟩ := exists_compile_iff.2 ⟨ks, hks, (hk R _).2 ⟨_, _, hbt, hbu, rfl⟩⟩
    have hkey := congrArg Behaviour.key hb
    have hdiag := congrArg Behaviour.diagnostics hb
    have hmax := congrArg Behaviour.maxArgIndex hb
    have hconst := congrArg Behaviour.isConstant hb
    refine ⟨m, hm, fun ctx => congrFun hkey ctx, hdiag, ?_, ?_⟩
    · exact hmax.trans (Stage.maxIndex_eq_max _ _)
    · exact (Bool.eq_iff_iff.1 hconst).trans (Bool.and_eq_true _ _).to_iff

theorem compile_append_at_brace :
    parse Limits.standard ("a\x7b0\x7d" ++ "b\x7d") = .error (.unbalancedBraces 5) ∧
    ∃ m, Compiler.standard.compile ("a\x7b0\x7d" ++ "b\x7b1\x7d") = .ok m ∧
      m.maxArgIndex = some 1 := by
  have h : parse Limits.standard "a\x7b0\x7d" = .ok [.literal "a", .argRef 0] := by rfl
  constructor
  · exact (compile_append Limits.standard "a\x7b0\x7d" "b\x7d" _ (by decide) h).1
      (.unbalancedBraces 1) (by rfl)
  · obtain ⟨m, hm, -, -, hi, -⟩ := ((compile_append Limits.standard "a\x7b0\x7d" "b\x7b1\x7d" _
      (by decide) h).2 [.literal "b", .argRef 1] (by rfl)).2 Registry.builtin
      ⟨"a\x7b0\x7d", [.literal "a", .argRef 0], []⟩ ⟨"b\x7b1\x7d", [.literal "b", .argRef 1], []⟩
      (by rfl) (by rfl)
    exact ⟨m, hm, hi⟩

end CacheKeys.Template
