import CacheKeys.Key
import CacheKeys.Request.Field
import CacheKeys.Template.Compiled

/-! # Rules

A rule derives cache keys: it resolves its input fields in a request and evaluates its template on
their values.  `Rule.warnings` lists what will leave markers in the keys of a rule. -/

namespace CacheKeys

open Template

/-- How a rule is configured; the inputs are the fields that the template reads, in order. -/
structure RuleConfig where
  name : String
  template : String
  inputs : List String
  deriving DecidableEq

namespace RuleConfig

def toDocument (c : RuleConfig) : Document :=
  .table [("name", .text c.name), ("template", .text c.template), ("inputs", .ofTexts c.inputs)]

/-- Reads a configuration; the inputs may be left out. -/
def ofDocument? (dialect : Document.Dialect) (d : Document) : Option RuleConfig := do
  let fields ← d.fields? ["name", "template", "inputs"] dialect
  let name ← Document.required? fields "name" Document.text?
  let template ← Document.required? fields "template" Document.text?
  let inputs ← Document.optional? fields "inputs" [] (Document.list? Document.text?)
  return ⟨name, template, inputs⟩

end RuleConfig

/-- Why a rule is refused. -/
inductive RuleError where
  | compile (rule : String) (cause : CompileError)
  | unknownField (rule : String) (cause : UnknownField)
  | duplicate (rule : String)
  deriving DecidableEq

namespace RuleError

/-- The name of the rule that is refused. -/
def rule : RuleError → String
  | compile rule _ => rule
  | unknownField rule _ => rule
  | duplicate rule => rule

/-- The wording of the cause, if the error has one. -/
def cause? : RuleError → Option String
  | compile _ cause => some cause.message
  | unknownField _ cause => some cause.message
  | duplicate _ => none

def message (e : RuleError) : String :=
  match e.cause? with
  | some cause => "Rule `" ++ e.rule ++ "`: " ++ cause
  | none => "Duplicate rule `" ++ e.rule ++ "`"

end RuleError

/-- Why the keys of a rule will hold markers: a call with a wrong number of arguments, or an index
for which the rule has no input. -/
inductive RuleWarning where
  | arity (diagnostic : Diagnostic)
  | missingInput (index inputs : Nat)
  deriving DecidableEq

def RuleWarning.message : RuleWarning → String
  | arity d => d.message
  | missingInput index inputs =>
    "template reads \x7b" ++ toString index ++ "\x7d but the rule has " ++ toString inputs ++
      " input(s)"

/-- A compiled template with the fields that it reads, in order. -/
structure Rule where
  name : String
  template : Compiled
  inputs : List Field

namespace Rule

/-- Compiles the template of a rule whose inputs are known. -/
def make (compiler : Compiler) (name template : String) (inputs : List Field) :
    Except RuleError Rule :=
  match compiler.compile template with
  | .error e => .error (.compile name e)
  | .ok t => .ok ⟨name, t, inputs⟩

/-- A rule from its configuration.  Inputs are read before the template is. -/
def ofConfig (compiler : Compiler) (c : RuleConfig) : Except RuleError Rule :=
  match c.inputs.mapM Field.parse with
  | .error e => .error (.unknownField c.name e)
  | .ok inputs => make compiler c.name c.template inputs

/-- What will leave markers in every key of the rule. -/
def warnings (r : Rule) : List RuleWarning :=
  r.template.diagnostics.map .arity ++
    match r.template.maxArgIndex with
    | some index => if r.inputs.length ≤ index then [.missingInput index r.inputs.length] else []
    | none => []

/-- The values of the inputs in a request. -/
def context (r : Rule) (request : Request) : Context := ⟨r.inputs.map fun f => f.resolve request⟩

/-- The key for a request, where `marker` gives the texts of sentinels. -/
def deriveWith (marker : Sentinel → String) (r : Rule) (request : Request) : CacheKey :=
  let ctx := r.context request
  ⟨r.template.evaluateWith marker ctx, r.name, ctx.values⟩

def derive (r : Rule) (request : Request) : CacheKey := r.deriveWith Sentinel.marker request

end Rule

end CacheKeys
