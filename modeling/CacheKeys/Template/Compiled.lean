import CacheKeys.Builtin.Registry
import CacheKeys.Template.Reader
import CacheKeys.Template.Stage

/-! # Compiling templates

Compiling reads a template and resolves the names of its calls in a registry.  An unknown name is
an error; a call with a number of arguments that its function does not take is not, and is reported
as a diagnostic, in the order in which the calls stand in the text. -/

namespace CacheKeys.Template

/-- A call with a wrong number of arguments, at the byte position of the function's name. -/
structure Diagnostic where
  offset : Nat
  function : String
  expected : Arity
  got : Nat
  deriving DecidableEq

def Diagnostic.message (d : Diagnostic) : String :=
  "`" ++ d.function ++ "` at offset " ++ toString d.offset ++ " takes " ++ d.expected.text ++
    " argument(s), got " ++ toString d.got

mutual

/-- Resolves the names of a node, a call's own name before those in its arguments. -/
def lower (registry : Registry) : Expr → Except CompileError (Stage × List Diagnostic)
  | .literal text => .ok (.literal text, [])
  | .argRef index => .ok (.argRef index, [])
  | .call name args offset =>
    match registry.get? name with
    | none => .error (.unknownFunction name offset)
    | some f =>
      match lowerAll registry args with
      | .error e => .error e
      | .ok (stages, diagnostics) =>
        let own := if f.arity.accepts args.length then []
          else [⟨offset, name, f.arity, args.length⟩]
        .ok (.call f stages, own ++ diagnostics)
  | .concat parts =>
    match lowerAll registry parts with
    | .error e => .error e
    | .ok (stages, diagnostics) => .ok (.concat stages, diagnostics)

/-- Resolves the names of nodes, from left to right. -/
def lowerAll (registry : Registry) : List Expr → Except CompileError (List Stage × List Diagnostic)
  | [] => .ok ([], [])
  | e :: es =>
    match lower registry e with
    | .error err => .error err
    | .ok (stage, own) =>
      match lowerAll registry es with
      | .error err => .error err
      | .ok (stages, others) => .ok (stage :: stages, own ++ others)

end

/-- A template that is ready for evaluation: its text, its nodes, and its calls with a wrong number
of arguments. -/
structure Compiled where
  source : String
  stages : List Stage
  diagnostics : List Diagnostic

/-- What templates are compiled with: the functions that they can call, and the bounds applied while
they are read. -/
structure Compiler where
  registry : Registry
  limits : Limits

/-- The builtin functions under the usual limits. -/
def Compiler.standard : Compiler := ⟨Registry.builtin, Limits.standard⟩

/-- Reads a template and resolves its names. -/
def Compiler.compile (c : Compiler) (template : String) : Except CompileError Compiled :=
  match parse c.limits template with
  | .error e => .error e
  | .ok nodes =>
    match lowerAll c.registry nodes with
    | .error e => .error e
    | .ok (stages, diagnostics) => .ok ⟨template, stages, diagnostics⟩

namespace Compiled

/-- Whether the key is the same for every context because all nodes are literal. -/
def isConstant (t : Compiled) : Bool := t.stages.all Stage.isLiteral

/-- The greatest context index that the template reads. -/
def maxArgIndex (t : Compiled) : Option Nat := Stage.maxArgIndexAll t.stages

/-- The key for a context, where `marker` gives the texts of sentinels. -/
def evaluateWith (marker : Sentinel → String) (t : Compiled) (ctx : Context) : String :=
  String.join (Stage.renderAllWith marker ctx t.stages)

/-- The key for a context. -/
def evaluate (t : Compiled) (ctx : Context) : String := t.evaluateWith Sentinel.marker ctx

/-- A text with the key for a context after it. -/
def evaluateOnto (t : Compiled) (out : String) (ctx : Context) : String := out ++ t.evaluate ctx

end Compiled

end CacheKeys.Template
