import Mathlib
import CacheKeys.Proofs.Template.Reference

/-! # Where calls stand

Every call keeps the byte position of its name.  `SitesIn pos src sites` says that the names of
calls stand in the text `src` at `pos`, each at its own position and one behind the other.  It is
kept when texts are put side by side (`SitesIn.append`), so each relation of the grammar has it for
the calls of its trees, in the order in which `Expr.calls` lists them.  Names are resolved in this
order too: diagnostics are reported from left to right, and the call that is refused is the leftmost
one whose name is not registered (`calls_stand_at_offsets`). -/

namespace CacheKeys.Template

/-! ### Calls in a text -/

/-- The names of the calls stand in the text `src` at `pos`, from left to right. -/
structure SitesIn (pos : ℕ) (src : List Char) (sites : List Expr.CallSite) : Prop where
  named : ∀ s ∈ sites, s.name ≠ "" ∧
    ∃ before after, src = before ++ s.name.toList ++ after ∧ s.offset = pos + byteLength before
  ordered : sites.Pairwise fun s s' => s.offset < s'.offset

theorem byteLength_pos {cs : List Char} (h : cs ≠ []) : 0 < byteLength cs := by
  cases cs with
  | nil => exact absurd rfl h
  | cons c cs =>
      have hc : 0 < c.utf8Size := c.utf8Size_pos
      rw [byteLength_cons]
      omega

namespace SitesIn

variable {pos : ℕ} {src src' : List Char} {sites sites' : List Expr.CallSite}

theorem nil (pos : ℕ) (src : List Char) : SitesIn pos src [] :=
  ⟨fun _ hs => absurd hs List.not_mem_nil, .nil⟩

/-- A call stands inside the text. -/
theorem offset_bounds (h : SitesIn pos src sites) {s : Expr.CallSite} (hs : s ∈ sites) :
    pos ≤ s.offset ∧ s.offset < pos + byteLength src := by
  obtain ⟨hne, before, after, rfl, ho⟩ := h.named s hs
  have hname : 0 < byteLength s.name.toList := byteLength_pos (mt String.toList_eq_nil_iff.1 hne)
  rw [byteLength_append, byteLength_append]
  omega

/-- Calls in the second of two texts stand behind those in the first. -/
theorem append (h : SitesIn pos src sites) (h' : SitesIn (pos + byteLength src) src' sites') :
    SitesIn pos (src ++ src') (sites ++ sites') := by
  constructor
  · intro s hs
    rcases List.mem_append.1 hs with hs | hs
    · obtain ⟨hne, before, after, rfl, ho⟩ := h.named s hs
      exact ⟨hne, before, after ++ src', by simp, ho⟩
    · obtain ⟨hne, before, after, rfl, ho⟩ := h'.named s hs
      refine ⟨hne, src ++ before, after, by simp, ?_⟩
      rw [ho, byteLength_append, Nat.add_assoc]
  · refine List.pairwise_append.2 ⟨h.ordered, h'.ordered, ?_⟩
    intro s hs s' hs'
    have hb := h.offset_bounds hs
    have hb' := h'.offset_bounds hs'
    omega

/-- Texts without calls around a text. -/
theorem surround {lead : List Char} (h : SitesIn (pos + byteLength lead) src sites)
    (trail : List Char) : SitesIn pos (lead ++ src ++ trail) sites := by
  have hs := ((nil pos lead).append h).append (nil _ trail)
  rwa [List.nil_append, List.append_nil] at hs

theorem name {name : String} (hne : name ≠ "") (pos argCount : ℕ) :
    SitesIn pos name.toList [⟨name, pos, argCount⟩] := by
  constructor
  · intro s hs
    rw [List.mem_singleton.1 hs]
    exact ⟨hne, [], [], by simp, rfl⟩
  · exact List.pairwise_singleton _ _

end SitesIn

/-! ### Calls in derivations -/

theorem callsAll_append (es es' : List Expr) :
    Expr.callsAll (es ++ es') = Expr.callsAll es ++ Expr.callsAll es' := by
  induction es with
  | nil => rfl
  | cons e es ih => rw [List.cons_append, Expr.callsAll, ih, Expr.callsAll, List.append_assoc]

theorem callsAll_singleton (e : Expr) : Expr.callsAll [e] = e.calls := by
  rw [Expr.callsAll, Expr.callsAll, List.append_nil]

theorem calls_ofParts (parts : List Expr) : (ofParts parts).calls = Expr.callsAll parts := by
  match parts with
  | [] => rfl
  | [e] => exact (callsAll_singleton e).symm
  | e :: e' :: es => rfl

/-- The items stand in the text `src` at `pos`: first the head, which may be the name of a call, and
behind it the calls in the other items. -/
def ItemsIn (pos : ℕ) (src : List Char) : List Item → Prop
  | [] => False
  | head :: args => ∃ first rest, src = first ++ rest ∧ first ≠ [] ∧
      head.source = String.ofList first ∧ head.offset = pos ∧
      SitesIn pos first head.expr.calls ∧
      SitesIn (pos + byteLength first) rest (Expr.callsAll (args.map Item.expr))

/-- The node of a group has its calls where its items have them; its own name is the first. -/
theorem GroupMeans.sitesIn {pos : ℕ} {src : List Char} {items : List Item} {e : Expr}
    (hm : GroupMeans items e) (hi : ItemsIn pos src items) : SitesIn pos src e.calls := by
  have hcall : ∀ head args, ItemsIn pos src (head :: args) →
      SitesIn pos src (Expr.call head.source (args.map Item.expr) head.offset).calls := by
    intro head args hi
    obtain ⟨first, rest, rfl, hne, hs, ho, -, hargs⟩ := hi
    have hname : String.ofList first ≠ "" := by
      intro he
      exact hne (by simpa using congrArg String.toList he)
    have hn := SitesIn.name hname pos (args.map Item.expr).length
    rw [String.toList_ofList] at hn
    rw [hs, ho, Expr.calls]
    exact hn.append hargs
  cases hm with
  | index _ _ _ => exact .nil pos src
  | @name head _ _ => exact hcall head [] hi
  | whole _ =>
      obtain ⟨first, rest, rfl, -, -, -, hhead, -⟩ := hi
      have hs := hhead.append (.nil _ rest)
      rwa [List.append_nil] at hs
  | @call head args _ _ => exact hcall head args hi

mutual

theorem DerivesGroup.sitesIn : ∀ {room pos : ℕ} {src : List Char} {e : Expr},
    DerivesGroup room pos src e → SitesIn pos src e.calls
  | _, pos, _, e, @DerivesGroup.braces _ _ lead src trail items _ _ hi _ hm => by
      have hs : SitesIn (pos + 1 + byteLength lead) src e.calls := hm.sitesIn hi.itemsIn
      have hpos : pos + 1 + byteLength lead = pos + byteLength ('{' :: lead) := by
        rw [byteLength_cons, utf8Size_brace.1, Nat.add_assoc]
      rw [hpos] at hs
      have hg := hs.surround (trail ++ ['}'])
      simpa using hg

theorem DerivesItems.itemsIn : ∀ {room pos : ℕ} {src : List Char} {items : List Item},
    DerivesItems room pos src items → ItemsIn pos src items
  | _, pos, src, _, .first h => by
      obtain ⟨hne, hs, ho, hsites⟩ := h.sitesIn
      exact ⟨src, [], by simp, hne, hs, ho, hsites, .nil _ _⟩
  | _, pos, _, _, @DerivesItems.next _ _ src gap src' items item h _ _ h' => by
      have hi := h.itemsIn
      obtain ⟨-, -, -, hsites⟩ := h'.sitesIn
      cases items with
      | nil => exact absurd hi id
      | cons head args =>
          obtain ⟨first, rest, rfl, hne, hs, ho, hhead, hargs⟩ := hi
          refine ⟨first, rest ++ gap ++ src', by simp, hne, hs, ho, hhead, ?_⟩
          have hgap := hargs.append (.nil _ gap)
          rw [List.append_nil] at hgap
          have hpos : pos + byteLength (first ++ rest ++ gap) =
              pos + byteLength first + byteLength (rest ++ gap) := by
            simp only [byteLength_append]
            omega
          rw [hpos] at hsites
          show SitesIn _ _ (Expr.callsAll ((args ++ [item]).map Item.expr))
          rw [List.map_append, callsAll_append, List.map_singleton, callsAll_singleton]
          exact hgap.append hsites

theorem DerivesItem.sitesIn : ∀ {room pos : ℕ} {src : List Char} {item : Item},
    DerivesItem room pos src item → src ≠ [] ∧ item.source = String.ofList src ∧
      item.offset = pos ∧ SitesIn pos src item.expr.calls
  | _, _, _, _, @DerivesItem.parts _ _ src parts h hne => by
      have hs := h.sitesIn
      rw [← calls_ofParts] at hs
      exact ⟨hne, rfl, rfl, hs⟩

theorem DerivesParts.sitesIn : ∀ {room pos : ℕ} {src : List Char} {parts : List Expr},
    DerivesParts room pos src parts → SitesIn pos src (Expr.callsAll parts)
  | _, _, _, _, .nil => .nil _ _
  | _, _, _, _, @DerivesParts.text _ _ src src' parts text h _ _ => by
      rw [callsAll_append, callsAll_singleton]
      exact h.sitesIn.append (.nil _ src')
  | _, _, _, _, .group h hg => by
      rw [callsAll_append, callsAll_singleton]
      exact h.sitesIn.append hg.sitesIn

end

/-- The calls of a template stand in it where their offsets say. -/
theorem DerivesNodes.sitesIn {room : ℕ} {src : List Char} {nodes : List Expr}
    (h : DerivesNodes room src nodes) : SitesIn 0 src (Expr.callsAll nodes) := by
  induction h with
  | nil => exact .nil 0 []
  | run _ _ _ _ ih =>
      rw [callsAll_append, callsAll_singleton]
      exact ih.append (.nil _ _)
  | group _ hg ih =>
      rw [callsAll_append, callsAll_singleton]
      have hs := hg.sitesIn
      rw [← Nat.zero_add (byteLength _)] at hs
      exact ih.append hs

theorem sitesIn_of_parse {limits : Limits} {template : String} {nodes : List Expr}
    (h : parse limits template = .ok nodes) :
    SitesIn 0 template.toList (Expr.callsAll nodes) := by
  obtain ⟨-, ⟨-, rfl⟩ | ⟨-, hd⟩⟩ := (parse_eq_ok_iff_derives limits template nodes).1 h
  · exact .nil 0 _
  · exact hd.sitesIn

/-! ### Names that are resolved from left to right -/

variable {R : Registry}

/-- The diagnostic of a call has the position of the call. -/
theorem offset_of_diagnostic? {site : Expr.CallSite} {d : Diagnostic}
    (h : diagnostic? R site = some d) : d.offset = site.offset := by
  unfold diagnostic? at h
  obtain ⟨f, -, hf⟩ := Option.bind_eq_some_iff.1 h
  split at hf
  · cases hf
  · obtain rfl := Option.some.inj hf
    rfl

theorem pairwise_diagnostics {sites : List Expr.CallSite}
    (h : sites.Pairwise fun s s' => s.offset < s'.offset) :
    (sites.filterMap (diagnostic? R)).Pairwise fun d d' => d.offset < d'.offset := by
  refine h.filterMap (diagnostic? R) ?_
  intro s s' hlt d hd d' hd'
  rwa [offset_of_diagnostic? hd, offset_of_diagnostic? hd']

/-- Among calls from left to right, the first that is not registered is the leftmost one. -/
theorem exists_firstUnknown? {sites : List Expr.CallSite}
    (h : sites.Pairwise fun s s' => s.offset < s'.offset)
    (hu : ∃ site ∈ sites, R.contains site.name = false) :
    ∃ site, firstUnknown? R sites = some site ∧ site ∈ sites ∧ R.contains site.name = false ∧
      ∀ site' ∈ sites, R.contains site'.name = false →
        site' = site ∨ site.offset < site'.offset := by
  cases hf : firstUnknown? R sites with
  | none =>
      obtain ⟨site, hs, hr⟩ := hu
      rw [firstUnknown?_eq_none_iff.1 hf site hs] at hr
      cases hr
  | some site =>
      obtain ⟨hsite, before, after, rfl, hbefore⟩ := List.find?_eq_some_iff_append.1 hf
      have hr : R.contains site.name = false := by simpa using hsite
      refine ⟨site, rfl, by simp, hr, ?_⟩
      intro site' hs' hr'
      obtain ⟨-, hafter, -⟩ := List.pairwise_append.1 h
      rcases List.mem_append.1 hs' with hs' | hs'
      · have hk := hbefore site' hs'
        rw [hr'] at hk
        cases hk
      · rcases List.mem_cons.1 hs' with rfl | hs'
        · exact .inl rfl
        · exact .inr ((List.pairwise_cons.1 hafter).1 site' hs')

/-- Every call of a template has the position at which its name stands, and the positions increase
from a call to those in its arguments and from left to right.  So the diagnostics are those of the
calls in this order, and a name that is not registered is refused at the leftmost call that has
one. -/
theorem calls_stand_at_offsets {limits : Limits} {template : String} {nodes : List Expr}
    (hp : parse limits template = .ok nodes) :
    (∀ site ∈ Expr.callsAll nodes, ∃ before after,
      template.toList = before ++ site.name.toList ++ after ∧ byteLength before = site.offset) ∧
    (Expr.callsAll nodes).Pairwise (fun site site' => site.offset < site'.offset) ∧
    ∀ R : Registry,
      (∀ k, Compiler.compile ⟨R, limits⟩ template = .ok k →
        k.diagnostics = (Expr.callsAll nodes).filterMap (diagnostic? R) ∧
        k.diagnostics.Pairwise fun d d' => d.offset < d'.offset) ∧
      ((∃ site ∈ Expr.callsAll nodes, R.contains site.name = false) →
        ∃ site ∈ Expr.callsAll nodes, R.contains site.name = false ∧
          (∀ site' ∈ Expr.callsAll nodes, R.contains site'.name = false →
            site' = site ∨ site.offset < site'.offset) ∧
          Compiler.compile ⟨R, limits⟩ template =
            .error (.unknownFunction site.name site.offset)) := by
  have hs := sitesIn_of_parse hp
  refine ⟨?_, hs.ordered, fun R => ⟨?_, ?_⟩⟩
  · intro site hsite
    obtain ⟨-, before, after, ht, ho⟩ := hs.named site hsite
    exact ⟨before, after, ht, by omega⟩
  · intro k hk
    have hd := diagnostics_of_compile hp hk
    exact ⟨hd, hd ▸ pairwise_diagnostics hs.ordered⟩
  · intro hu
    obtain ⟨site, hf, hsite, hr, hleast⟩ := exists_firstUnknown? hs.ordered hu
    refine ⟨site, hsite, hr, hleast, (compile_eq_error_iff hp).2 ?_⟩
    rw [hf, Option.map_some]
    rfl

theorem calls_stand_at_offsets_behind_accents :
    parse Limits.standard "é\x7blower a\"ü\"\x7bselect \x7b0\x7d\x7d \x7bnope\x7d\x7d" =
      .ok [.literal "é", .call "lower"
        [.concat [.literal "aü", .call "select" [.argRef 0] 15], .call "nope" [] 28] 3] ∧
    (∃ before after, "é\x7blower a\"ü\"\x7bselect \x7b0\x7d\x7d \x7bnope\x7d\x7d".toList =
      before ++ "nope".toList ++ after ∧ byteLength before = 28) ∧
    (∃ k, Compiler.compile
        ⟨Registry.builtin.register ⟨"nope", .exactly 0, "", fun _ => .ok ""⟩, Limits.standard⟩
        "é\x7blower a\"ü\"\x7bselect \x7b0\x7d\x7d \x7bnope\x7d\x7d" = .ok k ∧
      k.diagnostics = [⟨3, "lower", .exactly 1, 2⟩, ⟨15, "select", .exactly 2, 1⟩] ∧
      k.diagnostics.Pairwise fun d d' => d.offset < d'.offset) ∧
    Compiler.compile ⟨Registry.builtin, Limits.standard⟩
        "é\x7blower a\"ü\"\x7bselect \x7b0\x7d\x7d \x7bnope\x7d\x7d" =
      .error (.unknownFunction "nope" 28) := by
  have hp : parse Limits.standard
      "é\x7blower a\"ü\"\x7bselect \x7b0\x7d\x7d \x7bnope\x7d\x7d" =
      .ok [.literal "é", .call "lower"
        [.concat [.literal "aü", .call "select" [.argRef 0] 15], .call "nope" [] 28] 3] := by
    decide +kernel
  have hl : Registry.builtin.get? "lower" = some Builtin.lower := Registry.get?_builtin "lower"
  have hs : Registry.builtin.get? "select" = some Builtin.select := Registry.get?_builtin "select"
  have hn : Registry.builtin.get? "nope" = none := Registry.get?_builtin "nope"
  obtain ⟨hstand, -, hR⟩ := calls_stand_at_offsets hp
  have hmem : (⟨"nope", 28, 0⟩ : Expr.CallSite) ∈ Expr.callsAll [.literal "é", .call "lower"
      [.concat [.literal "aü", .call "select" [.argRef 0] 15], .call "nope" [] 28] 3] := by
    simp [Expr.callsAll, Expr.calls]
  refine ⟨hp, hstand ⟨"nope", 28, 0⟩ hmem, ?_, ?_⟩
  · obtain ⟨k, hk⟩ := (exists_compile_iff_registered
      (R := Registry.builtin.register ⟨"nope", .exactly 0, "", fun _ => .ok ""⟩) hp).2 (by
        simp [Expr.callsAll, Expr.calls, contains_eq_isSome, Registry.get?_register, hl, hs])
    obtain ⟨hd, hinc⟩ := (hR _).1 k hk
    refine ⟨k, hk, ?_, hinc⟩
    rw [hd]
    simp [Expr.callsAll, Expr.calls, diagnostic?, Registry.get?_register, hl, hs, Builtin.lower,
      Builtin.select, Arity.accepts, Arity.exactly]
  · obtain ⟨site, hsite, hr, -, herr⟩ := (hR Registry.builtin).2
      ⟨⟨"nope", 28, 0⟩, hmem, by simp [contains_eq_isSome, hn]⟩
    simp only [Expr.callsAll, Expr.calls, List.mem_append, List.mem_cons, List.not_mem_nil,
      List.append_nil, List.nil_append, or_false] at hsite
    rcases hsite with rfl | rfl | rfl
    · simp [contains_eq_isSome, hl] at hr
    · simp [contains_eq_isSome, hs] at hr
    · exact herr

end CacheKeys.Template
