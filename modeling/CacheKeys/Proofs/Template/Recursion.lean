import Mathlib
import CacheKeys.Proofs.Builtin.Functions
import CacheKeys.Proofs.Template.Height

/-! # Recursions

A `Recursion` computes a value from the values of the calls that it makes.  Unfolding it as often as
a tree is high gives the value, whatever would be done at a greater depth
(`Recursion.endsWithin`).  Counting, resolving, evaluating and the greatest index are recursions
over trees, so the depth limit of the reader bounds them all.

Writing goes by two functions that call each other, one for pieces of a template and one for
arguments.  `Writing.calls` are the calls that a call makes.  Each of the two is inside itself at
most as often as the tree is high (`Writing.IsStack.countP_isPiece_le`,
`Writing.IsStack.countP_isArgument_le`), but both together more often. -/

namespace CacheKeys.Template

/-! ### Recursions -/

/-- A value that `node` makes of the values of the children, which a call asks for, and of nothing
else. -/
structure Recursion {α : Type} (children : α → List α) (β : Type) where
  value : α → β
  node : α → List β → β
  value_eq : ∀ a, value a = node a ((children a).map value)

namespace Recursion

variable {α β : Type} {children : α → List α}

/-- `n` calls inside each other; further calls are replaced by another function. -/
def unfold (r : Recursion children β) (below : α → β) : ℕ → α → β
  | 0 => below
  | n + 1 => fun a => r.node a ((children a).map (r.unfold below n))

/-- No more than `n` calls are ever inside each other: what would be done below does not matter. -/
def EndsWithin (r : Recursion children β) (n : ℕ) (a : α) : Prop :=
  ∀ below, r.unfold below n a = r.value a

/-- The calls inside each other are at most as many as the tree has levels. -/
theorem endsWithin (r : Recursion children β) {height : α → ℕ} (hpos : ∀ a, 0 < height a)
    (hlt : ∀ a, ∀ c ∈ children a, height c < height a) :
    ∀ (n : ℕ) (a : α), height a ≤ n → r.EndsWithin n a
  | 0, a, h => by
      have ha := hpos a
      omega
  | n + 1, a, h => by
      intro below
      have hchildren : ∀ c ∈ children a, r.unfold below n c = r.value c := by
        intro c hc
        have hcn := hlt a c hc
        exact r.endsWithin hpos hlt n c (by omega) below
      show r.node a ((children a).map (r.unfold below n)) = r.value a
      rw [List.map_congr_left hchildren, r.value_eq a]

end Recursion

/-- The nodes right below the root. -/
def Expr.children : Expr → List Expr
  | .literal _ => []
  | .argRef _ => []
  | .call _ args _ => args
  | .concat parts => parts

/-- The stages right below the root. -/
def Stage.children : Stage → List Stage
  | .literal _ => []
  | .argRef _ => []
  | .call _ args => args
  | .concat parts => parts

theorem Expr.height_lt_of_mem_children (e : Expr) : ∀ c ∈ e.children, c.height < e.height := by
  have hbelow : ∀ es : List Expr, ∀ c ∈ es, c.height < 1 + heightAll es := by
    intro es c hc
    have hle := heightAll_le_iff.1 le_rfl c hc
    omega
  cases e with
  | literal text => simp [children]
  | argRef index => simp [children]
  | call name args offset => exact hbelow args
  | concat parts => exact hbelow parts

theorem Stage.height_lt_of_mem_children (s : Stage) : ∀ c ∈ s.children, c.height < s.height := by
  have hbelow : ∀ ss : List Stage, ∀ c ∈ ss, c.height < 1 + stageHeightAll ss := by
    intro ss c hc
    have hle := stageHeightAll_le_iff.1 le_rfl c hc
    omega
  cases s with
  | literal text => simp [children]
  | argRef index => simp [children]
  | call f args => exact hbelow args
  | concat parts => exact hbelow parts

theorem Expr.endsWithin {β : Type} (r : Recursion children β) {e : Expr} {n : ℕ}
    (h : e.height ≤ n) : r.EndsWithin n e :=
  r.endsWithin height_pos height_lt_of_mem_children n e h

theorem Stage.endsWithin {β : Type} (r : Recursion children β) {s : Stage} {n : ℕ}
    (h : s.height ≤ n) : r.EndsWithin n s :=
  r.endsWithin height_pos height_lt_of_mem_children n s h

/-! ### The recursions over trees -/

theorem nodeCountAll_eq (es : List Expr) :
    Expr.nodeCountAll es = (es.map Expr.nodeCount).sum := by
  induction es with
  | nil => rfl
  | cons e es ih => rw [Expr.nodeCountAll, ih, List.map_cons, List.sum_cons]

def Expr.counting : Recursion children ℕ where
  value := nodeCount
  node _ counts := 1 + counts.sum
  value_eq e := by
    cases e with
    | literal text => rfl
    | argRef index => rfl
    | call name args offset => rw [nodeCount, nodeCountAll_eq, children]
    | concat parts => rw [nodeCount, nodeCountAll_eq, children]

/-- Puts the results of resolving several nodes together, up to the first error. -/
def gather : List (Except CompileError (Stage × List Diagnostic)) →
    Except CompileError (List Stage × List Diagnostic)
  | [] => .ok ([], [])
  | .error err :: _ => .error err
  | .ok (stage, own) :: rest => (gather rest).map fun r => (stage :: r.1, own ++ r.2)

theorem lowerAll_eq_gather (R : Registry) (es : List Expr) :
    lowerAll R es = gather (es.map (lower R)) := by
  induction es with
  | nil => rfl
  | cons e es ih =>
      rw [lowerAll, List.map_cons, ih]
      cases lower R e with
      | error err => rfl
      | ok r =>
          rw [gather]
          cases gather (es.map (lower R)) <;> rfl

def Expr.resolving (R : Registry) :
    Recursion children (Except CompileError (Stage × List Diagnostic)) where
  value := lower R
  node
    | .literal text, _ => .ok (.literal text, [])
    | .argRef index, _ => .ok (.argRef index, [])
    | .call name args offset, results =>
      match R.get? name with
      | none => .error (.unknownFunction name offset)
      | some f =>
        (gather results).map fun r => (.call f r.1,
          (if f.arity.accepts args.length then [] else [⟨offset, name, f.arity, args.length⟩]) ++
            r.2)
    | .concat _, results => (gather results).map fun r => (.concat r.1, r.2)
  value_eq e := by
    cases e with
    | literal text => rw [lower]
    | argRef index => rw [lower]
    | call name args offset =>
        rw [lower, lowerAll_eq_gather]
        simp only [children]
        cases R.get? name with
        | none => rfl
        | some f => cases gather (args.map (lower R)) <;> rfl
    | concat parts =>
        rw [lower, lowerAll_eq_gather]
        simp only [children]
        cases gather (parts.map (lower R)) <;> rfl

theorem maxArgIndexAll_eq (ss : List Stage) :
    Stage.maxArgIndexAll ss = (ss.map Stage.maxArgIndex).foldr Stage.maxIndex none := by
  induction ss with
  | nil => rfl
  | cons s ss ih => rw [Stage.maxArgIndexAll, ih, List.map_cons, List.foldr_cons]

/-- Finding the greatest index that a stage reads. -/
def Stage.indexing : Recursion children (Option ℕ) where
  value := maxArgIndex
  node
    | .argRef index, _ => some index
    | _, indices => indices.foldr maxIndex none
  value_eq s := by
    cases s with
    | literal text => rw [maxArgIndex]; rfl
    | argRef index => rw [maxArgIndex]
    | call f args => rw [maxArgIndex, maxArgIndexAll_eq]; rfl
    | concat parts => rw [maxArgIndex, maxArgIndexAll_eq]; rfl

def Stage.evaluating (marker : Sentinel → String) (ctx : Context) : Recursion children String where
  value := renderWith marker ctx
  node
    | .literal text, _ => text
    | .argRef index, _ => (ctx.get? index).getD (marker .argCount)
    | .call f args, values =>
      if f.arity.accepts args.length then f.invokeWith marker ⟨values⟩ else marker .argCount
    | .concat _, values => String.join values
  value_eq s := by
    cases s with
    | literal text => rw [renderWith]
    | argRef index => rw [renderWith]
    | call f args => rw [renderWith, renderAllWith_eq_map]; rfl
    | concat parts => rw [renderWith, renderAllWith_eq_map]; rfl

/-! ### Writing -/

/-- A call that writes a node, as a piece of a template or as an argument. -/
inductive Writing where
  | piece (e : Expr)
  | argument (e : Expr)

namespace Writing

/-- The calls that a call makes, in order.  An argument that is a look-up or a call is written as a
piece. -/
def calls : Writing → List Writing
  | piece (.literal _) => []
  | piece (.argRef _) => []
  | piece (.call _ args _) => args.map argument
  | piece (.concat parts) => parts.map argument
  | argument (.literal _) => []
  | argument (.concat parts) => parts.map argument
  | argument e => [piece e]

/-- The text that a call writes. -/
def text : Writing → String
  | piece e => e.text
  | argument e => e.argumentText

theorem spacedTexts_eq (es : List Expr) :
    Expr.spacedTexts es = String.join (((es.map argument).map text).map (" " ++ ·)) := by
  induction es with
  | nil => rfl
  | cons e es ih =>
      rw [Expr.spacedTexts, ih, List.map_cons, List.map_cons, List.map_cons, String.join_cons]
      rfl

theorem joinedTexts_eq (es : List Expr) :
    Expr.joinedTexts es = String.join ((es.map argument).map text) := by
  induction es with
  | nil => rfl
  | cons e es ih =>
      rw [Expr.joinedTexts, ih, List.map_cons, List.map_cons, String.join_cons]
      rfl

/-- Writing a node. -/
def recursion : Recursion calls String where
  value := text
  node
    | piece (.call name _ _), ts => "\x7b" ++ name ++ String.join (ts.map (" " ++ ·)) ++ "\x7d"
    | piece (.concat _), ts => String.join ts
    | piece e, _ => e.text
    | argument (.literal text), _ => (Expr.literal text).argumentText
    | argument _, ts => String.join ts
  value_eq
    | piece (.literal _) => rfl
    | piece (.argRef _) => rfl
    | piece (.call name args offset) => by
        have hargs := spacedTexts_eq args
        simp only [text, Expr.text, Expr.argumentText, calls, hargs]
    | piece (.concat parts) => joinedTexts_eq parts
    | argument (.literal _) => rfl
    | argument (.argRef _) => String.empty_append.symm
    | argument (.call _ _ _) => String.empty_append.symm
    | argument (.concat parts) => joinedTexts_eq parts

def isPiece : Writing → Bool
  | piece _ => true
  | argument _ => false

def isArgument : Writing → Bool
  | piece _ => false
  | argument _ => true

/-- The calls that are not finished at one time, the outermost first. -/
def IsStack (ws : List Writing) : Prop := ws.IsChain fun w v => v ∈ w.calls

/-- Calls of one kind in a stack are at most as many as a bound that each of them lowers, and that
no call raises. -/
theorem IsStack.countP_le {isKind : Writing → Bool} {bound : Writing → ℕ}
    (hself : ∀ w, (if isKind w then 1 else 0) ≤ bound w)
    (hcalls : ∀ w, ∀ v ∈ w.calls, bound v + (if isKind w then 1 else 0) ≤ bound w) :
    ∀ {ws : List Writing} {w : Writing}, IsStack (w :: ws) → (w :: ws).countP isKind ≤ bound w
  | [], w, _ => by
      rw [List.countP_singleton]
      exact hself w
  | v :: ws, w, h => by
      obtain ⟨hv, hstack⟩ := List.isChain_cons_cons.1 h
      have hrest := IsStack.countP_le hself hcalls (show IsStack (v :: ws) from hstack)
      rw [List.countP_cons]
      exact (Nat.add_le_add_right hrest _).trans (hcalls w v hv)

/-- How many pieces are written inside each other. -/
def pieces : Writing → ℕ
  | piece e => e.pieceNesting
  | argument e => e.nesting

/-- How many arguments are written inside each other. -/
def arguments : Writing → ℕ
  | piece e => e.height - 1
  | argument e => e.height

theorem pieces_of_mem_calls (w : Writing) :
    ∀ v ∈ w.calls, v.pieces + (if w.isPiece then 1 else 0) ≤ w.pieces := by
  have hbelow : ∀ es : List Expr, ∀ v ∈ es.map argument, v.pieces ≤ nestingAll es := by
    intro es v hv
    obtain ⟨e, he, rfl⟩ := List.mem_map.1 hv
    exact nestingAll_le_iff.1 le_rfl e he
  match w with
  | piece (.literal _) => simp [calls]
  | piece (.argRef _) => simp [calls]
  | piece (.call _ args _) =>
      intro v hv
      have hle := hbelow args v hv
      show v.pieces + 1 ≤ 1 + nestingAll args
      omega
  | piece (.concat parts) =>
      intro v hv
      have hle := hbelow parts v hv
      show v.pieces + 1 ≤ 1 + nestingAll parts
      omega
  | argument (.literal _) => simp [calls]
  | argument (.concat parts) => exact hbelow parts
  | argument (.argRef _) => exact List.forall_mem_singleton.2 le_rfl
  | argument (.call _ _ _) => exact List.forall_mem_singleton.2 le_rfl

theorem arguments_of_mem_calls (w : Writing) :
    ∀ v ∈ w.calls, v.arguments + (if w.isArgument then 1 else 0) ≤ w.arguments := by
  have hbelow : ∀ e : Expr, ∀ v ∈ e.children.map argument, v.arguments + 1 ≤ e.height := by
    intro e v hv
    obtain ⟨c, hc, rfl⟩ := List.mem_map.1 hv
    exact e.height_lt_of_mem_children c hc
  match w with
  | piece (.literal _) => simp [calls]
  | piece (.argRef _) => simp [calls]
  | piece (.call name args offset) =>
      exact fun v hv => Nat.le_sub_one_of_lt (hbelow (.call name args offset) v hv)
  | piece (.concat parts) => exact fun v hv => Nat.le_sub_one_of_lt (hbelow (.concat parts) v hv)
  | argument (.literal _) => simp [calls]
  | argument (.concat parts) => exact hbelow (.concat parts)
  | argument (.argRef index) => exact List.forall_mem_singleton.2 le_rfl
  | argument (.call name args offset) =>
      have hpos := (Expr.call name args offset).height_pos
      refine List.forall_mem_singleton.2 ?_
      simp only [isArgument, arguments, if_true]
      omega

theorem pieceNesting_pos (e : Expr) : 0 < e.pieceNesting := by
  cases e <;> simp only [Expr.pieceNesting] <;> omega

section Stacks
variable {ws : List Writing} {e : Expr} (h : IsStack (piece e :: ws))
include h

theorem IsStack.countP_isPiece_le : (piece e :: ws).countP isPiece ≤ e.pieceNesting := by
  refine h.countP_le (fun w => ?_) pieces_of_mem_calls
  cases w with
  | piece e => exact pieceNesting_pos e
  | argument e => exact Nat.zero_le _

theorem IsStack.countP_isArgument_le : (piece e :: ws).countP isArgument ≤ e.height - 1 := by
  refine h.countP_le (fun w => ?_) arguments_of_mem_calls
  cases w with
  | piece e => exact Nat.zero_le _
  | argument e => exact e.height_pos

end Stacks

/-- Both kinds of calls together. -/
theorem endsWithin {e : Expr} {n : ℕ} (h : e.pieceNesting + (e.height - 1) ≤ n) :
    recursion.EndsWithin n (piece e) := by
  have hpos : ∀ w : Writing, 0 < w.pieces + w.arguments
    | piece e => Nat.add_pos_left (pieceNesting_pos e) _
    | argument e => Nat.add_pos_right _ e.height_pos
  have hlt : ∀ w : Writing, ∀ v ∈ w.calls, v.pieces + v.arguments < w.pieces + w.arguments := by
    intro w v hv
    have hpieces := pieces_of_mem_calls w v hv
    have harguments := arguments_of_mem_calls w v hv
    cases w with
    | piece e =>
        simp only [isPiece, isArgument, if_true] at hpieces harguments
        omega
    | argument e =>
        simp only [isPiece, isArgument, if_true] at hpieces harguments
        omega
  exact recursion.endsWithin hpos hlt n (piece e) h

end Writing

/-! ### The depth limit -/

/-- The depth limit of the reader bounds the height of nodes and of the stages that they are
resolved to, and with it the depth of all recursions over them.  No smaller bound holds.  Writing
goes down one level of the tree with every argument and stays on its level with a piece, so it goes
through no more levels, and neither of its two functions is inside itself more often.  Only the
calls of both together can be more, where arguments are calls, and have a bound of their own. -/
theorem depth_limit_bounds_recursions :
    (∀ (limits : Limits) (template : String) (nodes : List Expr),
      parse limits template = .ok nodes →
      (∀ e ∈ nodes, e.height ≤ max 1 (2 * limits.maxDepth) ∧
        (∀ ws, Writing.IsStack (.piece e :: ws) →
          (Writing.piece e :: ws).countP Writing.isPiece ≤ max 1 limits.maxDepth ∧
          (Writing.piece e :: ws).countP Writing.isArgument ≤ max 1 (2 * limits.maxDepth) - 1) ∧
        Writing.recursion.EndsWithin (max 1 (3 * limits.maxDepth - 1)) (.piece e) ∧
        Expr.counting.EndsWithin (max 1 (2 * limits.maxDepth)) e ∧
        ∀ R, (Expr.resolving R).EndsWithin (max 1 (2 * limits.maxDepth)) e) ∧
      ∀ R k, Compiler.compile ⟨R, limits⟩ template = .ok k →
        k.stages.map Stage.height = nodes.map Expr.height ∧
        ∀ s ∈ k.stages, Stage.indexing.EndsWithin (max 1 (2 * limits.maxDepth)) s ∧
          ∀ marker ctx,
            (Stage.evaluating marker ctx).EndsWithin (max 1 (2 * limits.maxDepth)) s) ∧
    ∀ depth, 1 ≤ depth → ∃ template, ∀ length, template.utf8ByteSize ≤ length →
      ∃ e, parse ⟨depth, length⟩ template = .ok [e] ∧ e.height = 2 * depth := by
  constructor
  · intro limits template nodes hp
    have hheight := height_le_of_parse hp
    have hpieces := pieceNesting_le_of_parse hp
    constructor
    · intro e he
      have hle := hheight e he
      have hpieces := hpieces e he
      refine ⟨hle, fun ws hws => ⟨?_, ?_⟩, Writing.endsWithin (by omega), Expr.endsWithin _ hle,
        fun R => Expr.endsWithin _ hle⟩
      · exact hws.countP_isPiece_le.trans hpieces
      · exact hws.countP_isArgument_le.trans (Nat.sub_le_sub_right hle 1)
    · intro R k hk
      obtain ⟨nodes', r, hp', hr, rfl⟩ := compile_eq_ok_iff.1 hk
      obtain rfl : nodes = nodes' := Except.ok.inj (hp.symm.trans hp')
      have hmap := (heights_of_lowerAll nodes hr).2
      refine ⟨hmap, fun s hs => ?_⟩
      have hmem : s.height ∈ nodes.map Expr.height := hmap ▸ List.mem_map_of_mem hs
      obtain ⟨e, he, heq⟩ := List.mem_map.1 hmem
      have hle : s.height ≤ max 1 (2 * limits.maxDepth) := heq ▸ hheight e he
      exact ⟨Stage.endsWithin _ hle, fun marker ctx => Stage.endsWithin _ hle⟩
  · intro depth hdepth
    obtain ⟨n, rfl⟩ : ∃ n, depth = n + 1 := ⟨depth - 1, by omega⟩
    refine ⟨String.ofList (tower n), fun length hl => ?_⟩
    rw [utf8ByteSize_ofList] at hl
    exact exists_parse_tower n length hl

/-- Two calls, of which the inner one is in a juxtaposition.  When the innermost text is written,
two pieces and three arguments are not finished. -/
theorem depth_limit_bounds_recursions_two_calls :
    let inner : Expr := .call "upper" [.literal "y"] 9
    let word : Expr := .concat [.literal "x", inner]
    let e : Expr := .call "lower" [word] 1
    let stack : List Writing := [.piece e, .argument word, .argument inner, .piece inner,
      .argument (.literal "y")]
    parse ⟨2, 20⟩ "\x7blower x\x7bupper y\x7d\x7d" = .ok [e] ∧
    Writing.IsStack stack ∧ stack.countP Writing.isPiece = 2 ∧
    stack.countP Writing.isArgument = 3 ∧
    (∀ ws, Writing.IsStack (.piece e :: ws) →
      (Writing.piece e :: ws).countP Writing.isPiece ≤ 2 ∧
      (Writing.piece e :: ws).countP Writing.isArgument ≤ 3) ∧
    Writing.recursion.EndsWithin 5 (.piece e) ∧
    (∃ k, Compiler.compile ⟨Registry.builtin, ⟨2, 20⟩⟩ "\x7blower x\x7bupper y\x7d\x7d" = .ok k ∧
      k.stages.map Stage.height = [4] ∧
      ∀ s ∈ k.stages, (Stage.evaluating Sentinel.marker ⟨[]⟩).EndsWithin 4 s) ∧
    ∃ template, ∃ e, parse ⟨2, template.utf8ByteSize⟩ template = .ok [e] ∧ e.height = 4 := by
  intro inner word e stack
  have hp : parse ⟨2, 20⟩ "\x7blower x\x7bupper y\x7d\x7d" = .ok [e] := by decide +kernel
  have hl : Registry.builtin.get? "lower" = some Builtin.lower := Registry.get?_builtin "lower"
  have hu : Registry.builtin.get? "upper" = some Builtin.upper := Registry.get?_builtin "upper"
  have hs : lowerAll Registry.builtin [e] =
      .ok ([.call Builtin.lower [.concat [.literal "x", .call Builtin.upper [.literal "y"]]]],
        []) := by
    simp [e, word, inner, lowerAll, lower, hl, hu, Builtin.lower, Builtin.upper, Arity.accepts,
      Arity.exactly]
  have hk : Compiler.compile ⟨Registry.builtin, ⟨2, 20⟩⟩ "\x7blower x\x7bupper y\x7d\x7d" = .ok _ :=
    compile_eq_ok_iff.2 ⟨_, _, hp, hs, rfl⟩
  have hstack : Writing.IsStack stack := by
    simp [stack, e, word, inner, Writing.IsStack, Writing.calls]
  obtain ⟨hnodes, hstages⟩ := depth_limit_bounds_recursions.1 ⟨2, 20⟩ _ _ hp
  obtain ⟨-, hcounts, hwriting, -⟩ := hnodes e (List.mem_singleton_self e)
  obtain ⟨hheight, hends⟩ := hstages Registry.builtin _ hk
  obtain ⟨template, htemplate⟩ := depth_limit_bounds_recursions.2 2 (by decide)
  refine ⟨hp, hstack, rfl, rfl, hcounts, hwriting, ⟨_, hk, hheight.trans ?_, ?_⟩, template,
    htemplate _ le_rfl⟩
  · simp [e, word, inner, Expr.height, heightAll]
  · exact fun s hs => (hends s hs).2 Sentinel.marker ⟨[]⟩

end CacheKeys.Template
