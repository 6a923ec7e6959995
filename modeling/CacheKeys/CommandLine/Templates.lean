import CacheKeys.CommandLine.Session
import CacheKeys.Template.Printer
import CacheKeys.Text.Escape

/-! # Commands on templates

Evaluating a template, showing how it is read, and listing the functions that it can call. -/

namespace CacheKeys.CommandLine

open Template

/-! ### Evaluating -/

def evaluationDocument (template : String) (values : List String) (key : String)
    (sentinels : List String) : Document :=
  .table [("template", .text template), ("values", .ofTexts values), ("key", .text key),
    ("sentinels", .ofTexts sentinels)]

/-- Evaluates a template against values. -/
def evalTemplate (m : Mode) (s : Session) (template : String) (values : List String) : Report :=
  match s.compiler.compile template with
  | .error e => .ofFailure (.compile template e)
  | .ok t =>
    let warnings := t.diagnostics.map fun d => Message.warning d.message
    let key := t.evaluate ⟨values⟩
    let sentinels := (Sentinel.foundIn key).map Sentinel.marker
    if m.json then
      .ofMessages (warnings ++ [.document (evaluationDocument template values key sentinels)])
    else
      .ofMessages (warnings ++ .line key ::
        sentinels.map fun marker => .detail ("key contains " ++ marker))

/-! ### Explaining -/

/-- What a function takes, and how many arguments a call gives it. -/
structure CallNote where
  expected : Arity
  got : Nat
  deriving DecidableEq

namespace CallNote

/-- Whether the call leaves a marker because its function does not take so many arguments. -/
def fails (n : CallNote) : Bool := !n.expected.accepts n.got

def message (n : CallNote) : String :=
  " (takes " ++ n.expected.text ++ ", got " ++ toString n.got ++
    (if n.fails then ", renders " ++ Sentinel.argCount.marker else "") ++ ")"

end CallNote

/-- A node of a template as it is shown, a call with a note if its function is known. -/
inductive Outline where
  | literal (text : String)
  | arg (index : Nat)
  | call (name : String) (note : Option CallNote) (children : List Outline)
  | concat (children : List Outline)

namespace Outline

mutual

def ofExpr (registry : Registry) : Expr → Outline
  | .literal text => literal text
  | .argRef index => arg index
  | .call name args _ =>
    call name ((registry.get? name).map fun f => ⟨f.arity, args.length⟩) (ofExprs registry args)
  | .concat parts => concat (ofExprs registry parts)

def ofExprs (registry : Registry) : List Expr → List Outline
  | [] => []
  | e :: es => ofExpr registry e :: ofExprs registry es

end

def kind : Outline → String
  | literal _ => "literal"
  | arg _ => "arg"
  | call _ _ _ => "call"
  | concat _ => "concat"

/-- What is shown of a node beside its kind. -/
def text : Outline → String
  | literal text => Text.shown text
  | arg index => "\x7b" ++ toString index ++ "\x7d"
  | call name note _ => name ++ String.join (note.toList.map CallNote.message)
  | concat _ => ""

/-- A node on a line of its own, deeper nodes further to the right. -/
def line (depth : Nat) (o : Outline) : String :=
  String.ofList (List.replicate (2 * (depth + 1)) ' ') ++ o.kind ++ " " ++ o.text

mutual

def lines (depth : Nat) : Outline → List String
  | call name note children =>
    (call name note children).line depth :: linesAll (depth + 1) children
  | concat children => (concat children).line depth :: linesAll (depth + 1) children
  | o => [o.line depth]

def linesAll (depth : Nat) : List Outline → List String
  | [] => []
  | o :: os => o.lines depth ++ linesAll depth os

end

/-- A node as a document; without children their field is left out. -/
def nodeDocument (o : Outline) (children : List Document) : Document :=
  .table ([("kind", .text o.kind), ("text", .text o.text)] ++
    if children.isEmpty then [] else [("children", .list children)])

mutual

def toDocument : Outline → Document
  | call name note children => nodeDocument (call name note children) (toDocuments children)
  | concat children => nodeDocument (concat children) (toDocuments children)
  | o => nodeDocument o []

def toDocuments : List Outline → List Document
  | [] => []
  | o :: os => o.toDocument :: toDocuments os

end

end Outline

def explanationDocument (template : String) (nodes : List Expr) (outlines : List Outline) :
    Document :=
  .table [("source", .text template), ("normalized", .text (render nodes)),
    ("nodes", .ofNat (Expr.nodeCountAll nodes)), ("tree", .list (Outline.toDocuments outlines))]

/-- Shows how a template is read. -/
def explainTemplate (m : Mode) (s : Session) (template : String) : Report :=
  match parse s.config.limits template with
  | .error e => .ofFailure (.parse template e)
  | .ok nodes =>
    match s.compiler.compile template with
    | .error e => .ofFailure (.resolve e)
    | .ok t =>
      let outlines := Outline.ofExprs s.compiler.registry nodes
      if m.json then .ofMessages [.document (explanationDocument template nodes outlines)]
      else
        .ofMessages (
          [.heading "Template", .pair "source" template, .pair "normalized" (render nodes),
            .pair "nodes" (toString (Expr.nodeCountAll nodes)),
            .pair "constant" (if t.isConstant then "true" else "false")] ++
          (t.maxArgIndex.toList.map fun index =>
            .pair "inputs" ("needs at least " ++ toString (index + 1))) ++
          [.heading "Tree"] ++ (Outline.linesAll 0 outlines).map .line ++
          t.diagnostics.map fun d => .warning d.message)

/-! ### Functions -/

def functionDocument (f : TextFunction) : Document :=
  .table [("name", .text f.name), ("arity", .text f.arity.text), ("summary", .text f.summary)]

/-- The report on functions. -/
def functionTable (m : Mode) (functions : List TextFunction) : Report :=
  if m.json then .ofMessages [.document (.list (functions.map functionDocument))]
  else
    let width := (functions.map fun f => f.name.utf8ByteSize).foldl max 0
    .ofMessages (.heading "Functions" ::
      functions.map fun f => .row [(f.name, width), (f.arity.text, 6), (f.summary, 0)])

/-- Lists the builtin functions, or shows one. -/
def listFunctions (m : Mode) (s : Session) (name : Option String) : Report :=
  let registry := s.compiler.registry
  match name with
  | none => functionTable m registry.functions
  | some name =>
    match registry.get? name with
    | some f => functionTable m [f]
    | none => .ofFailure (.unknownFunction name)

end CacheKeys.CommandLine
