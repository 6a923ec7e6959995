import Mathlib
import CacheKeys.Proofs.Template.Descent.Items

/-! # Descent stays in place

The descent over positions and the reader of characters do the same (`descend_eq_parse`), so no
check of the descent ever fails (`descent_stays_in_place`).  Groups are passed or refused by
induction on the number of braces that may still be opened (`yieldsGroups_group`), and templates by
what one pass over them does. -/

namespace CacheKeys.Template.Descent

open Reader

variable {t : String} {depth room pos : ℕ} {rest : List Char}

/-! ### Groups -/

theorem map_expr_of_shows {spans : List Span} {items : List Item}
    (h : List.Forall₂ (Span.Shows t) spans items) :
    spans.map Span.expr = items.map Item.expr := by
  induction h with
  | nil => rfl
  | cons hshows _ ih => rw [List.map_cons, List.map_cons, hshows.expr_eq, ih]

/-- The value of a group is that of its items. -/
theorem build_eq {spans : List Span} {items : List Item}
    (h : List.Forall₂ (Span.Shows t) spans items) (opened : ℕ) (source : String) :
    build t opened spans = (Group.value ⟨opened, source, items⟩).mapError .refused := by
  cases h with
  | nil => rfl
  | @cons head item args items hhead hargs =>
      have hexprs := map_expr_of_shows hargs
      have hempty : args.isEmpty = items.isEmpty := by
        cases hargs <;> rfl
      rw [build, hhead.kind, hempty, hexprs]
      cases hw : item.isWord with
      | false =>
          cases items with
          | nil => simp [Group.value, hw, Except.mapError]
          | cons arg items =>
              simp only [Bool.false_eq_true, if_false, List.isEmpty_cons, hhead.source, ok_bind]
              simp [Group.value, hw, Except.mapError, hhead.offset]
      | true =>
          have hnumeral :
              Text.isNumeral item.source.toList = item.source.toList.all Char.isDigit := by
            have hne : item.source.toList ≠ [] := mt String.toList_eq_nil_iff.1 (hhead.word hw).1
            simp [Text.isNumeral, hne]
          cases items with
          | nil =>
              simp only [if_true, List.isEmpty_nil, Bool.true_and, ← hnumeral]
              cases hn : Text.isNumeral item.source.toList with
              | false => simp [Group.value, hw, hn, Except.mapError, hhead.offset]
              | true =>
                  cases hb : Text.natBelow? Text.indexBound item.source.toList with
                  | none => simp [Group.value, hw, hn, hb, Except.mapError, hhead.offset]
                  | some index => simp [Group.value, hw, hn, hb, Except.mapError]
          | cons arg items => simp [Group.value, hw, Except.mapError, hhead.offset]

/-- The inside of a group at `opened` up to some place between its items or right behind one. -/
inductive ItemsRead (room opened : ℕ) : List Char → List Item → Prop
  | mayBegin {body : List Char} {items : List Item} :
      ItemMayBegin room opened body items → ItemsRead room opened body items
  | behind {lead src : List Char} {items : List Item} :
      Blanks lead → DerivesItems room (opened + 1 + byteLength lead) src items →
      ItemsRead room opened (lead ++ src) items

/-- A group is refused for what stands behind its brace. -/
def InsideRefused (depth room opened : ℕ) (cs : List Char) (err : CompileError) : Prop :=
  ∀ (nodes : List Expr) (outer : List Level), outer.length + 1 + room = depth →
    conclude depth ⟨opened + 1, nodes, .between (Group.start opened) outer⟩ cs = .error err

variable {opened : ℕ} {body : List Char} {items : List Item}

theorem InsideRefused.groupRefused {cs : List Char} {err : CompileError}
    (h : InsideRefused depth room opened cs err) :
    GroupRefused depth (room + 1) opened ('{' :: cs) err := by
  intro nodes nodes' place outer hd ha
  have hopen : openGroup depth opened outer = .ok (.between (Group.start opened) outer) := by
    rw [openGroup, if_neg]
    omega
  rw [hopen] at ha
  have hrun := run_singleton_of_advance (show advance depth opened nodes place '{' = .ok _ from ha)
  rw [← List.singleton_append, conclude_append_of_ok hrun]
  refine h nodes' outer ?_
  omega

theorem run_mayBegin (h : ItemMayBegin room opened body items) {outer : List Level}
    (hd : outer.length + 1 + room = depth) (nodes : List Expr) :
    run depth ⟨opened + 1, nodes, .between (Group.start opened) outer⟩ body =
      .ok ⟨opened + 1 + byteLength body, nodes,
        .between ⟨opened, String.ofList ('{' :: body), items⟩ outer⟩ := by
  cases h with
  | lead hl =>
      rw [run_blanks hl]
      simp [Group.extend, Group.start]
  | @gap lead src gap items hl hi hg hne =>
      obtain ⟨g, d, hr, hp⟩ := run_items hi hd.le nodes ((Group.start opened).extend lead)
      rw [List.append_assoc, run_append_of_ok (run_blanks hl), run_append_of_ok hr, run_gap hg hne,
        hp]
      simp [Group.extend, Group.start, ← String.toList_inj, Nat.add_assoc]

/-- The reader comes to a place where the group may end. -/
theorem ItemsRead.exists_run (h : ItemsRead room opened body items) {outer : List Level}
    (hd : outer.length + 1 + room = depth) (nodes : List Expr) :
    ∃ place, run depth ⟨opened + 1, nodes, .between (Group.start opened) outer⟩ body =
        .ok ⟨opened + 1 + byteLength body, nodes, place⟩ ∧
      advance depth (opened + 1 + byteLength body) nodes place '}' =
        closeGroup nodes ⟨opened, String.ofList ('{' :: body), items⟩ outer ∧
      finish ⟨opened + 1 + byteLength body, nodes, place⟩ = .error (.unbalancedBraces opened) := by
  cases h with
  | mayBegin h =>
      refine ⟨_, run_mayBegin h hd nodes, ?_, rfl⟩
      simp [advance, Text.isBlank]
  | @behind lead src items hl hi =>
      obtain ⟨g, d, hr, hp⟩ := run_items hi hd.le nodes ((Group.start opened).extend lead)
      refine ⟨.inside g d outer, ?_, ?_, ?_⟩
      · rw [run_append_of_ok (run_blanks hl), hr, byteLength_append, Nat.add_assoc (opened + 1)]
      · have hgroup : g.pushItem d = ⟨opened, String.ofList ('{' :: (lead ++ src)), items⟩ := by
          rw [hp]
          simp [Group.extend, Group.start, ← String.toList_inj]
        rw [← hgroup]
        simp [advance, Text.isBlank]
      · have hopened := congrArg Group.opened hp
        exact congrArg (fun n => Except.error (CompileError.unbalancedBraces n)) hopened

/-- The group has no closing brace. -/
theorem ItemsRead.refused_of_end (h : ItemsRead room opened body items) :
    InsideRefused depth room opened body (.unbalancedBraces opened) := by
  intro nodes outer hd
  obtain ⟨place, hrun, -, hfinish⟩ := h.exists_run hd nodes
  rw [conclude_of_ok hrun, hfinish]

/-- The closing brace is there, but the items stand for no node. -/
theorem ItemsRead.refused_of_value {err : CompileError} (h : ItemsRead room opened body items)
    (hv : Group.value ⟨opened, String.ofList ('{' :: body), items⟩ = .error err) :
    InsideRefused depth room opened (body ++ '}' :: rest) err := by
  intro nodes outer hd
  obtain ⟨place, hrun, hclose, -⟩ := h.exists_run hd nodes
  rw [closeGroup, hv] at hclose
  rw [conclude_append_of_ok hrun]
  exact conclude_cons_of_error hclose

/-- An item of the group is refused. -/
theorem refused_of_item {c : Char} {err : CompileError} (h : ItemMayBegin room opened body items)
    (hblank : Text.isBlank c = false) (hclose : c ≠ '}')
    (herr : ItemRefused depth room (opened + 1 + byteLength body) (c :: rest) err) :
    InsideRefused depth room opened (body ++ c :: rest) err := by
  intro nodes outer hd
  have hinto := @run_between_eq_run_inside depth (opened + 1 + byteLength body) nodes
    ⟨opened, String.ofList ('{' :: body), items⟩ outer (c :: rest) (List.cons_ne_nil c rest)
    (by simp [hblank, hclose])
  rw [conclude_append_of_ok (run_mayBegin h hd nodes), conclude, hinto]
  exact herr nodes _ outer hd

theorem mayBegin_append {blanks : List Char} (h : ItemMayBegin room opened body items)
    (hb : Blanks blanks) : ItemMayBegin room opened (body ++ blanks) items := by
  cases h with
  | lead hl => exact .lead (hl.append hb)
  | gap hl hi hg hne =>
      rw [List.append_assoc]
      exact .gap hl hi (hg.append hb) (List.append_ne_nil_of_left_ne_nil hne _)

/-- Behind blanks another item may begin. -/
theorem ItemsRead.mayBegin_append {blanks : List Char} (h : ItemsRead room opened body items)
    (hb : Blanks blanks) (hne : blanks ≠ []) :
    ItemMayBegin room opened (body ++ blanks) items := by
  cases h with
  | mayBegin h => exact Descent.mayBegin_append h hb
  | behind hl hi => exact .gap hl hi hb hne

theorem ItemsRead.derivesGroup {e : Expr} (h : ItemsRead room opened body items)
    (hm : GroupMeans items e) : DerivesGroup (room + 1) opened ('{' :: (body ++ ['}'])) e := by
  cases h with
  | mayBegin h =>
      cases h with
      | lead hl => cases hm
      | gap hl hi hg hne => exact .braces hl hi hg hm
  | @behind lead src items hl hi =>
      have hbraces := DerivesGroup.braces hl hi Blanks.nil hm
      rwa [List.append_nil] at hbraces

/-- Between two passes over a group whose finished items are `spans`. -/
def GroupBetween (t : String) (room opened : ℕ) (body rest : List Char) (spans : List Span) :
    Prop :=
  ∃ items, List.Forall₂ (Span.Shows t) spans items ∧ ItemsRead room opened body items ∧
    (ItemMayBegin room opened body items ∨ EndsItem rest)

theorem GroupBetween.append_blanks {blanks : List Char} {spans : List Span}
    (h : GroupBetween t room opened body (blanks ++ rest) spans) (hb : Blanks blanks) :
    GroupBetween t room opened (body ++ blanks) rest spans := by
  obtain ⟨items, hshows, hread, hnext⟩ := h
  refine ⟨items, hshows, ?_⟩
  by_cases hne : blanks = []
  · subst hne
    rw [List.append_nil]
    exact ⟨hread, hnext⟩
  · have hbegin := hread.mayBegin_append hb hne
    exact ⟨.mayBegin hbegin, .inl hbegin⟩

/-- A group with the items `spans` is passed up to its closing brace. -/
def GroupPassed (t : String) (room opened : ℕ) (src : List Char) (spans : List Span) : Prop :=
  ∃ body items, src = body ++ ['}'] ∧ List.Forall₂ (Span.Shows t) spans items ∧
    ItemsRead room opened body items

/-- One pass over a group, behind the blanks. -/
theorem steps_itemOrClose {group : ℕ → Except Stop (ℕ × Expr)}
    (hgroup : YieldsGroups t depth room group) {inside : List Char} {spans : List Span}
    (hinside : inside = body ++ rest) (hat : At t (opened + 1 + byteLength body) rest)
    (hhead : ∀ c ∈ rest.head?, Text.isBlank c = false)
    (h : GroupBetween t room opened body rest spans) :
    Steps (opened + 1 + byteLength body) body rest (GroupBetween t room opened)
      (fun src _ spans => GroupPassed t room opened src spans)
      (InsideRefused depth room opened inside)
      (itemOrClose t group opened (opened + 1 + byteLength body) spans) := by
  subst hinside
  obtain ⟨items, hshows, hread, hnext⟩ := h
  unfold itemOrClose
  rw [peek_of_at hat, ok_bind]
  cases rest with
  | nil =>
      rw [List.append_nil]
      exact .refused hread.refused_of_end
  | cons c rest =>
      simp only [List.head?_cons]
      by_cases hclose : c = '}'
      · subst hclose
        simp only [beq_self_eq_true, if_true]
        rw [bump_of_at hat, ok_bind]
        exact .leave_behind ⟨body, items, rfl, hshows, hread⟩
      · have hblank : Text.isBlank c = false := hhead c rfl
        have hbegins : ¬EndsItem (c :: rest) := by
          intro hends
          rcases hends c rfl with hb | hr
          · rw [hblank] at hb
            cases hb
          · exact hclose hr
        have hbegin := hnext.resolve_right hbegins
        simp only [beq_iff_eq, hclose, if_false]
        refine (yields_item hgroup hat hbegins).bind ?_ ?_
        · rintro src rest' span hrest ⟨hends, it, hitem, hspan⟩
          obtain ⟨lead, src', hbody, hl, hitems⟩ := hbegin.item hitem
          have hne : src ≠ [] := by
            cases hitem with
            | parts _ hne => exact hne
          refine .again hrest hne ⟨items ++ [it], ?_, ?_, .inr hends⟩
          · exact List.rel_append hshows (.cons hspan .nil)
          · rw [hbody]
            exact .behind hl hitems
        · intro err herr
          exact .refused (refused_of_item hbegin hblank hclose herr)

/-- One pass over a group. -/
theorem steps_groupPass {group : ℕ → Except Stop (ℕ × Expr)}
    (hgroup : YieldsGroups t depth room group) {inside : List Char} {spans : List Span}
    (hinside : inside = body ++ rest) (hat : At t (opened + 1 + byteLength body) rest)
    (h : GroupBetween t room opened body rest spans) :
    Steps (opened + 1 + byteLength body) body rest (GroupBetween t room opened)
      (fun src _ spans => GroupPassed t room opened src spans)
      (InsideRefused depth room opened inside)
      (groupPass t group opened (opened + 1 + byteLength body) spans) := by
  obtain ⟨blanks, rest', rfl, hblanks, hhead, hskip⟩ := skipBlanks_of_at hat
  have hpos : opened + 1 + byteLength body + byteLength blanks =
      opened + 1 + byteLength (body ++ blanks) := by
    rw [byteLength_append, Nat.add_assoc (opened + 1)]
  have hbehind := hat.append
  rw [← List.append_assoc] at hinside
  rw [hpos] at hskip hbehind
  unfold groupPass
  rw [hskip, ok_bind]
  apply Steps.behind_piece
  rw [hpos]
  exact steps_itemOrClose hgroup hinside hbehind hhead (h.append_blanks hblanks)

/-- Groups are passed or refused, whatever number of braces may still be opened. -/
theorem yieldsGroups_group (t : String) (depth room : ℕ) :
    YieldsGroups t depth room (group t depth room) := by
  induction room with
  | zero =>
      intro pos rest hat
      rw [group, bump_of_at hat, ok_bind]
      refine .refused ?_
      intro nodes nodes' place outer hd ha
      have hdeep : openGroup depth pos outer = .error (.nestingTooDeep depth) := by
        rw [openGroup, if_pos]
        omega
      rw [hdeep] at ha
      exact conclude_cons_of_error ha
  | succ room ih =>
      intro pos rest hat
      have hbetween : GroupBetween t room pos [] rest [] :=
        ⟨[], .nil, .mayBegin (.lead Blanks.nil), .inl (.lead Blanks.nil)⟩
      have hloop := yields_loop (steps_groupPass ih) hat.cons hbetween
      rw [group, bump_of_at hat, ok_bind]
      refine hloop.bind ?_ ?_
      · rintro src rest' spans hrest ⟨body, items, rfl, hshows, hread⟩
        have hbuild := build_eq hshows pos (String.ofList ('{' :: body))
        dsimp only
        rw [hbuild]
        cases hv : Group.value ⟨pos, String.ofList ('{' :: body), items⟩ with
        | ok e =>
            have hg := hread.derivesGroup (value_eq_ok_iff.1 hv)
            have hpos : pos + 1 + byteLength (body ++ ['}']) =
                pos + byteLength ('{' :: (body ++ ['}'])) := by
              rw [byteLength_cons, utf8Size_brace.1, Nat.add_assoc]
            have hpiece : '{' :: rest = '{' :: (body ++ ['}']) ++ rest' := by
              rw [hrest, List.cons_append]
            rw [hpos]
            exact .passed hpiece hg
        | error err =>
            have hinside : rest = body ++ '}' :: rest' := by
              rw [hrest, List.append_assoc, List.singleton_append]
            rw [hinside]
            exact .refused (hread.refused_of_value hv).groupRefused
      · intro err herr
        exact .refused herr.groupRefused

/-! ### Templates -/

/-- Between two passes over a template: behind the last group there is text without braces. -/
def TemplateBetween (depth : ℕ) (done : List Char) (p : Progress) : Prop :=
  ∃ before run, done = before ++ run ∧ p.start = byteLength before ∧ EndsGroup before ∧
    BraceFree run ∧ DerivesNodes depth before p.nodes

variable {done : List Char} {p : Progress}

theorem TemplateBetween.push {c : Char} (h : TemplateBetween depth done p) (hl : c ≠ '{')
    (hr : c ≠ '}') : TemplateBetween depth (done ++ [c]) p := by
  obtain ⟨before, run, rfl, hstart, hends, hfree, hnodes⟩ := h
  refine ⟨before, run ++ [c], List.append_assoc .., hstart, hends, hfree.append ?_, hnodes⟩
  intro d hd
  rw [List.mem_singleton.1 hd]
  exact ⟨hl, hr⟩

/-- The text behind the last group is the rest of what derives nodes. -/
theorem TemplateBetween.flush (h : TemplateBetween depth done p) (ht : t.toList = done ++ rest) :
    ∃ nodes, p.flush t (byteLength done) = .ok nodes ∧ DerivesNodes depth done nodes := by
  obtain ⟨before, run, rfl, hstart, hends, hfree, hnodes⟩ := h
  by_cases hne : run = []
  · subst hne
    rw [List.append_nil]
    refine ⟨p.nodes, ?_, hnodes⟩
    rw [Progress.flush, hstart, if_neg (lt_irrefl _)]
  · have hat : At t (byteLength before) (run ++ rest) :=
      ⟨before, by rw [ht, List.append_assoc], rfl⟩
    have hpos := byteLength_pos hne
    have hlt : byteLength before < byteLength (before ++ run) := by
      rw [byteLength_append]
      omega
    refine ⟨_, ?_, hnodes.run hends hne hfree⟩
    rw [Progress.flush, hstart, if_pos hlt, byteLength_append, slice_of_at hat]
    rfl

/-- One pass over a template. -/
theorem steps_templatePass {group : ℕ → Except Stop (ℕ × Expr)}
    (hgroup : YieldsGroups t depth depth group) (ht : t.toList = done ++ rest)
    (hat : At t (0 + byteLength done) rest) (h : TemplateBetween depth done p) :
    Steps (0 + byteLength done) done rest (fun done _ p => TemplateBetween depth done p)
      (fun src rest' p => rest' = [] ∧ TemplateBetween depth src p)
      (fun err => read depth t.toList = .error err)
      (templatePass t group (0 + byteLength done) p) := by
  obtain ⟨nodes, hflush, hnodes⟩ := h.flush ht
  obtain ⟨nodes', run, hrun, -, -⟩ := run_nodes hnodes
  rw [Nat.zero_add] at hat ⊢
  unfold templatePass
  rw [peek_of_at hat, ok_bind]
  cases rest with
  | nil => exact .leave_here ⟨rfl, h⟩
  | cons c rest =>
      simp only [List.head?_cons]
      by_cases hopen : c = '{'
      · subst hopen
        simp only [beq_self_eq_true, if_true, hflush, ok_bind]
        refine (hgroup hat).bind ?_ ?_
        · intro src rest' e hrest hg
          obtain ⟨body, hbody⟩ := hg.exists_body
          have hgroups := hnodes.group hg
          refine .again hrest (by simp [hbody])
            ⟨done ++ src, [], ?_, ?_, ?_, BraceFree.nil, hgroups⟩
          · rw [List.append_nil]
          · rw [byteLength_append]
          · exact hg.endsGroup done
        · intro err herr
          refine .refused ?_
          rw [← conclude_start, ht, conclude_append_of_ok hrun]
          refine herr nodes' (withRun nodes' run) (.outside run) [] (Nat.zero_add depth) ?_
          simp [advance]
      by_cases hclose : c = '}'
      · subst hclose
        simp only [beq_iff_eq, hopen, if_false, if_true]
        refine .refused ?_
        rw [← conclude_start, ht, conclude_append_of_ok hrun]
        apply conclude_cons_of_error
        simp [advance]
      · simp only [beq_iff_eq, hopen, hclose, if_false]
        rw [bump_of_at hat, ok_bind]
        exact .again_behind (h.push hopen hclose)

/-- The text behind the last group ends the template. -/
theorem TemplateBetween.close (h : TemplateBetween depth t.toList p) :
    ∃ nodes, close t p = .ok nodes ∧ Derives depth t.toList nodes := by
  obtain ⟨nodes, hflush, hnodes⟩ := h.flush (List.append_nil t.toList).symm
  rw [byteLength_toList] at hflush
  unfold Descent.close
  by_cases hlt : p.start < t.utf8ByteSize
  · rw [Progress.flush, if_pos hlt] at hflush
    have hne : t.toList ≠ [] := by
      intro hnil
      rw [← byteLength_toList, hnil, byteLength_nil] at hlt
      exact absurd hlt (Nat.not_lt_zero _)
    refine ⟨nodes, ?_, .inr ⟨hne, hnodes⟩⟩
    simpa [hlt] using hflush
  rw [Progress.flush, if_neg hlt] at hflush
  obtain rfl := Except.ok.inj hflush
  cases hempty : p.nodes.isEmpty with
  | false =>
      have hne : t.toList ≠ [] := by
        intro hnil
        rw [List.isEmpty_eq_false_iff] at hempty
        exact hempty (hnodes.src_eq_nil_iff.1 hnil)
      exact ⟨p.nodes, by simp [hlt], .inr ⟨hne, hnodes⟩⟩
  | true =>
      have hnil : t.toList = [] := hnodes.src_eq_nil_iff.2 (List.isEmpty_iff.1 hempty)
      have hsize : t.utf8ByteSize = 0 := by rw [← byteLength_toList, hnil, byteLength_nil]
      obtain ⟨before, run, hdone, hstart, -⟩ := h
      obtain ⟨rfl, -⟩ := List.append_eq_nil_iff.1 (hdone.symm.trans hnil)
      have hslice : slice t 0 0 = .ok "" := @slice_of_at t 0 t.toList [] (at_start t)
      refine ⟨[.literal ""], ?_, .inl ⟨hnil, rfl⟩⟩
      rw [hstart, hsize, byteLength_nil, hslice, List.isEmpty_iff.1 hempty]
      rfl

/-- The descent gives what the reader gives. -/
theorem descend_eq_parse (limits : Limits) (t : String) :
    descend limits t = (parse limits t).mapError .refused := by
  unfold descend
  by_cases hlong : limits.maxLength < t.utf8ByteSize
  · rw [if_pos hlong, parse, if_pos hlong]
    rfl
  rw [if_neg hlong]
  have hshort : t.utf8ByteSize ≤ limits.maxLength := Nat.not_lt.1 hlong
  have hbetween : TemplateBetween limits.maxDepth [] ⟨[], 0⟩ :=
    ⟨[], [], rfl, rfl, EndsGroup.nil, BraceFree.nil, .nil⟩
  have hloop := yields_loop (steps_templatePass
    (yieldsGroups_group t limits.maxDepth limits.maxDepth)) (at_start t) hbetween
  refine Yields.bind (P := fun x => x = (parse limits t).mapError .refused) hloop ?_ ?_
  · rintro src rest' p hsrc ⟨rfl, hp⟩
    rw [List.append_nil] at hsrc
    subst hsrc
    obtain ⟨nodes, hclose, hderives⟩ := hp.close
    have hparse : parse limits t = .ok nodes :=
      (parse_eq_ok_iff_derives limits t nodes).2 ⟨hshort, hderives⟩
    dsimp only
    rw [hclose, hparse]
    rfl
  · intro err herr
    rw [parse_eq_read hshort, herr]
    rfl

theorem isRegular_descend (limits : Limits) (t : String) : IsRegular (descend limits t) := by
  intro stop hstop
  rw [descend_eq_parse] at hstop
  cases hp : parse limits t with
  | ok nodes =>
      rw [hp] at hstop
      cases hstop
  | error err =>
      rw [hp] at hstop
      exact ⟨err, (Except.error.inj hstop).symm⟩

/-- Whatever the template and the limits, no check of the descent fails, and it gives what the
reader gives.  Its checks are these: it looks at characters and slices the text on boundaries of
characters, with the bounds of a slice in order; every pass of a loop leaves it or moves ahead
within the text; and an item takes at least one character, so that no word is empty. -/
theorem descent_stays_in_place (limits : Limits) (t : String) :
    IsRegular (descend limits t) ∧
    descend limits t = (parse limits t).mapError .refused ∧
    (∀ pos, peek t pos = .error .misplaced ↔ ¬String.Pos.Raw.IsValid t ⟨pos⟩) ∧
    (∀ first last, slice t first last = .error .misplaced ↔
      ¬(first ≤ last ∧ String.Pos.Raw.IsValid t ⟨first⟩ ∧ String.Pos.Raw.IsValid t ⟨last⟩)) ∧
    (∀ (σ ρ : Type) (pass : ℕ → σ → Except Stop (Pass σ ρ)) (pos : ℕ) (state : σ),
      IsRegular (loop t pass pos state) → ∀ pos₁ state₁ pos₂ state₂,
        Reaches pass pos state pos₁ state₁ → pass pos₁ state₁ = .ok (.again pos₂ state₂) →
        pos₁ < pos₂ ∧ pos₂ ≤ t.utf8ByteSize) ∧
    ∀ (group : ℕ → Except Stop (ℕ × Expr)) (offset last : ℕ) (span : Span),
      item t group offset = .ok (last, span) →
        offset < last ∧ ∀ text, span.kind = .word text → text ≠ "" := by
  refine ⟨isRegular_descend limits t, descend_eq_parse limits t, peek_eq_misplaced_iff t,
    slice_eq_misplaced_iff t, ?_, ?_⟩
  · intro σ ρ pass pos state hreg pos₁ state₁ pos₂ state₂ hreach hp
    exact moves_of_reaches hreg hreach hp
  · intro group offset last span h
    exact lt_of_item h

/-- The second byte of a letter is no position of the descent, which passes it nevertheless. -/
theorem descent_stays_in_place_across_accents :
    descend Limits.standard "\x7blower é\"\\\"ü\"\x7d" = .ok [.call "lower" [.literal "é\"ü"] 1] ∧
    peek "\x7blower é\"\\\"ü\"\x7d" 8 = .error .misplaced := by
  have hp : parse Limits.standard "\x7blower é\"\\\"ü\"\x7d" =
      .ok [.call "lower" [.literal "é\"ü"] 1] := by
    decide +kernel
  obtain ⟨-, hdescend, hpeek, -⟩ :=
    descent_stays_in_place Limits.standard "\x7blower é\"\\\"ü\"\x7d"
  rw [hp] at hdescend
  exact ⟨hdescend, (hpeek 8).2 (by decide)⟩

end CacheKeys.Template.Descent
