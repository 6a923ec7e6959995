import Mathlib
import CacheKeys.Proofs.Template.Rendering

/-! # Descent over positions

A template can be read without copying it, by functions that call each other and share one position
in bytes: `skipBlanks`, `quote`, `item`, `group` and `descend`, each with a loop of its own.  Here
every one of them checks what it relies on.

* `peek` and `slice` refuse a position that lies inside a character or behind the end, and `slice`
  refuses bounds in the wrong order;
* `loop` refuses a pass that goes on without having moved ahead within the text;
* `item` refuses an item that takes no character, and `kind` a word without one.

A failed check is a `Stop` of its own, apart from the errors of a template. -/

namespace CacheKeys.Template

/-- Why a descent ends without a result: the template is refused, a position or a slice is out of
place in the text, a pass or an item ends where it began, or a word has no characters. -/
inductive Stop where
  | refused (err : CompileError)
  | misplaced
  | idle
  | emptyWord

namespace Descent

variable {σ ρ : Type}

/-! ### Positions -/

/-- The character at a position, none at the end. -/
def peek (t : String) (pos : ℕ) : Except Stop (Option Char) :=
  match Text.dropBytes? pos t.toList with
  | none => .error .misplaced
  | some rest => .ok rest.head?

/-- The character at a position, and the position behind it. -/
def bump (t : String) (pos : ℕ) : Except Stop (Option Char × ℕ) :=
  (peek t pos).map fun
    | none => (none, pos)
    | some c => (some c, pos + c.utf8Size)

/-- The text between two positions. -/
def slice (t : String) (first last : ℕ) : Except Stop String :=
  if last < first then .error .misplaced
  else
    match Text.bytesBetween? first last t with
    | none => .error .misplaced
    | some text => .ok text

/-! ### Loops -/

/-- How a pass of a loop ends: with another pass from a position and a state, or at a position with
a result. -/
inductive Pass (σ ρ : Type) where
  | again (pos : ℕ) (state : σ)
  | leave (pos : ℕ) (result : ρ)

/-- Makes passes until one leaves the loop. -/
def loop (t : String) (pass : ℕ → σ → Except Stop (Pass σ ρ)) (pos : ℕ) (state : σ) :
    Except Stop (ℕ × ρ) :=
  match pass pos state with
  | .error stop => .error stop
  | .ok (.leave pos' result) => .ok (pos', result)
  | .ok (.again pos' state') =>
    if t.utf8ByteSize < pos' then .error .misplaced
    else if pos' ≤ pos then .error .idle
    else loop t pass pos' state'
termination_by t.utf8ByteSize - pos

/-! ### Blanks and quotes -/

/-- A blank takes one byte. -/
def blankPass (t : String) (pos : ℕ) (_ : Unit) : Except Stop (Pass Unit Unit) := do
  match ← peek t pos with
  | none => .ok (.leave pos ())
  | some c => if Text.isBlank c then .ok (.again (pos + 1) ()) else .ok (.leave pos ())

/-- The position behind the blanks at a position. -/
def skipBlanks (t : String) (pos : ℕ) : Except Stop ℕ :=
  (loop t (blankPass t) pos ()).map Prod.fst

/-- Behind a backslash, a quote or a backslash is text in the same pass. -/
def quotePass (t : String) (opened pos : ℕ) (text : String) :
    Except Stop (Pass String String) := do
  match ← bump t pos with
  | (none, _) => .error (.refused (.unterminatedQuote opened))
  | (some c, pos) =>
    if c == '"' then .ok (.leave pos text)
    else if c == '\\' then
      match ← peek t pos with
      | none => .ok (.again pos (text.push '\\'))
      | some c' =>
        if Quoted.needsEscape c' then do
          let (_, pos) ← bump t pos
          .ok (.again pos (text.push c'))
        else .ok (.again pos (text.push '\\'))
    else .ok (.again pos (text.push c))

/-- The text of the quote whose mark is at a position. -/
def quote (t : String) (opened : ℕ) : Except Stop (ℕ × String) := do
  let (_, pos) ← bump t opened
  loop t (quotePass t opened) pos ""

/-! ### Items -/

/-- What an item is: word characters only, or anything else. -/
inductive Kind where
  | word (text : String)
  | expr (e : Expr)

/-- An item between two positions, that of its first character and the one behind its last. -/
structure Span where
  offset : ℕ
  last : ℕ
  kind : Kind

/-- The node that an item stands for as an argument. -/
def Span.expr (p : Span) : Expr :=
  match p.kind with
  | .word text => .literal text
  | .expr e => e

/-- What an item with the given parts is, which is bare if it has word characters only. -/
def kind (parts : List Expr) (bare : Bool) : Except Stop Kind :=
  if bare then
    match parts.getLast? with
    | some (.literal text) => if text.isEmpty then .error .emptyWord else .ok (.word text)
    | _ => .error .emptyWord
  else .ok (.expr (ofParts parts))

/-- A character of an item, a quote or a group. -/
def itemPass (t : String) (group : ℕ → Except Stop (ℕ × Expr)) (pos : ℕ) (state : Parts × Bool) :
    Except Stop (Pass (Parts × Bool) (Parts × Bool)) := do
  match ← peek t pos with
  | none => .ok (.leave pos state)
  | some c =>
    if Text.isBlank c || c == '}' then .ok (.leave pos state)
    else if c == '{' then do
      let (pos, e) ← group pos
      .ok (.again pos (state.1.pushGroup e, false))
    else if c == '"' then do
      let (pos, text) ← quote t pos
      .ok (.again pos (state.1.pushText text, false))
    else do
      let (_, pos) ← bump t pos
      .ok (.again pos (state.1.pushText (String.singleton c), state.2))

def item (t : String) (group : ℕ → Except Stop (ℕ × Expr)) (offset : ℕ) :
    Except Stop (ℕ × Span) := do
  let (last, parts, bare) ← loop t (itemPass t group) offset (Parts.none, true)
  if last ≤ offset then .error .idle
  else do
    let kind ← kind parts.all bare
    .ok (last, ⟨offset, last, kind⟩)

/-! ### Groups -/

/-- The node that a group with the given items stands for. -/
def build (t : String) (opened : ℕ) : List Span → Except Stop Expr
  | [] => .error (.refused (.emptyExpression opened))
  | head :: args =>
    match head.kind with
    | .word text =>
      if args.isEmpty && text.toList.all Char.isDigit then
        match Text.natBelow? Text.indexBound text.toList with
        | some index => .ok (.argRef index)
        | none => .error (.refused (.invalidArgumentIndex text head.offset))
      else .ok (.call text (args.map Span.expr) head.offset)
    | .expr e =>
      if args.isEmpty then .ok e
      else do
        let name ← slice t head.offset head.last
        .error (.refused (.unknownFunction name head.offset))

/-- The item or the closing brace at a position that has no blank. -/
def itemOrClose (t : String) (group : ℕ → Except Stop (ℕ × Expr)) (opened pos : ℕ)
    (spans : List Span) : Except Stop (Pass (List Span) (List Span)) := do
  match ← peek t pos with
  | none => .error (.refused (.unbalancedBraces opened))
  | some c =>
    if c == '}' then do
      let (_, pos) ← bump t pos
      .ok (.leave pos spans)
    else do
      let (pos, span) ← item t group pos
      .ok (.again pos (spans ++ [span]))

/-- Blanks, and what stands behind them. -/
def groupPass (t : String) (group : ℕ → Except Stop (ℕ × Expr)) (opened pos : ℕ)
    (spans : List Span) : Except Stop (Pass (List Span) (List Span)) := do
  let pos ← skipBlanks t pos
  itemOrClose t group opened pos spans

/-- The value of the group at a position, where `room` braces may still be opened. -/
def group (t : String) (maxDepth : ℕ) : ℕ → ℕ → Except Stop (ℕ × Expr)
  | 0, opened => do
    let _ ← bump t opened
    .error (.refused (.nestingTooDeep maxDepth))
  | room + 1, opened => do
    let (_, pos) ← bump t opened
    let (pos, spans) ← loop t (groupPass t (group t maxDepth room) opened) pos []
    let e ← build t opened spans
    .ok (pos, e)

/-! ### Templates -/

/-- The finished nodes and where the literal text behind them begins. -/
structure Progress where
  nodes : List Expr
  start : ℕ

/-- The nodes with the literal text before a group. -/
def Progress.flush (t : String) (p : Progress) (pos : ℕ) : Except Stop (List Expr) :=
  if p.start < pos then do
    let text ← slice t p.start pos
    .ok (p.nodes ++ [.literal text])
  else .ok p.nodes

/-- A group, or a character of literal text. -/
def templatePass (t : String) (group : ℕ → Except Stop (ℕ × Expr)) (pos : ℕ) (p : Progress) :
    Except Stop (Pass Progress Progress) := do
  match ← peek t pos with
  | none => .ok (.leave pos p)
  | some c =>
    if c == '{' then do
      let nodes ← p.flush t pos
      let (pos, e) ← group pos
      .ok (.again pos ⟨nodes ++ [e], pos⟩)
    else if c == '}' then .error (.refused (.unbalancedBraces pos))
    else do
      let (_, pos) ← bump t pos
      .ok (.again pos p)

/-- The nodes of a template, with the literal text at its end. -/
def close (t : String) (p : Progress) : Except Stop (List Expr) :=
  if p.start < t.utf8ByteSize || p.nodes.isEmpty then do
    let text ← slice t p.start t.utf8ByteSize
    .ok (p.nodes ++ [.literal text])
  else .ok p.nodes

/-- Reads a template within limits, from position to position. -/
def descend (limits : Limits) (t : String) : Except Stop (List Expr) :=
  if limits.maxLength < t.utf8ByteSize then
    .error (.refused (.templateTooLong t.utf8ByteSize limits.maxLength))
  else do
    let (_, p) ← loop t (templatePass t (group t limits.maxDepth limits.maxDepth)) 0 ⟨[], 0⟩
    close t p

end Descent

end CacheKeys.Template
