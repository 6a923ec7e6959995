import CacheKeys.CommandLine.Session

/-! # Commands on rules

Checking the configured rules, and deriving the key of one for a simulated request. -/

namespace CacheKeys.CommandLine

/-! ### Checking -/

/-- What is reported about a rule, its inputs and warnings as texts. -/
structure RuleReport where
  name : String
  template : String
  inputs : List String
  warnings : List String

namespace RuleReport

def ofRule (r : Rule) : RuleReport :=
  ⟨r.name, r.template.source, r.inputs.map Field.text, r.warnings.map RuleWarning.message⟩

def toDocument (r : RuleReport) : Document :=
  .table [("name", .text r.name), ("template", .text r.template), ("inputs", .ofTexts r.inputs),
    ("warnings", .ofTexts r.warnings)]

def messages (r : RuleReport) : List Message :=
  [if r.warnings.isEmpty then .success r.name else .warning r.name,
    .pair "template" r.template, .pair "inputs" (String.intercalate ", " r.inputs)] ++
  r.warnings.map .item

end RuleReport

/-- Compiles the configured rules; if it is strict, warnings count as failures. -/
def checkRules (m : Mode) (s : Session) (strict : Bool) : Report :=
  if s.config.rules.isEmpty then .ofMessages [.warning "No rules configured"]
  else
    let used := s.configPath.toList.map fun path => Message.detail ("Using config " ++ path)
    match s.rules with
    | .error failure => ⟨used, some failure, none⟩
    | .ok rules =>
      let reports := rules.rules.map RuleReport.ofRule
      let count := reports.foldl (fun n r => n + r.warnings.length) 0
      let messages := used ++
        if m.json then [.document (.list (reports.map RuleReport.toDocument))]
        else .heading "Checking rules" :: reports.flatMap RuleReport.messages
      if strict ∧ 0 < count then ⟨messages, some (.warnings count reports.length), none⟩
      else
        .ofMessages (messages ++ [.success (toString reports.length ++ " rule(s) compiled, " ++
          toString count ++ " warning(s)")])

/-! ### Deriving -/

/-- The name and the value of an argument; the name is not empty and ends before the first equals
sign. -/
def readPair (text : String) : Except Failure (String × String) :=
  match Text.splitFirst? '=' text with
  | some (name, value) => if name.isEmpty then .error (.noPair text) else .ok (name, value)
  | none => .error (.noPair text)

/-- Adds to a request what arguments give by name. -/
def addPairs (add : Request → String → String → Request) (r : Request) (texts : List String) :
    Except Failure Request :=
  texts.foldlM (fun r text => (readPair text).map fun p => add r p.1 p.2) r

def Simulation.request (o : Simulation) : Except Failure Request := do
  let r ← addPairs Request.withHeader (Request.make o.method o.path) o.headers
  let r ← addPairs Request.withQuery r o.queries
  let r ← addPairs Request.withCookie r o.cookies
  let r := match o.user with
    | some user => r.withUser user
    | none => r
  let r := if o.country.isSome || o.region.isSome || o.city.isSome then
      r.withLocation ⟨o.country, o.region, o.city⟩
    else r
  return match r.header? "user-agent" with
    | some agent => r.withDevice (Device.ofUserAgent agent)
    | none => r

/-- The answer of a derivation as a document; without headers their field is left out. -/
def derivationDocument (key : CacheKey) (inputs : List (String × String))
    (headers : List (String × String)) : Document :=
  .table ([("rule", .text key.rule), ("key", .text key.key),
    ("inputs", .list (inputs.map fun i => .table [("field", .text i.1), ("value", .text i.2)])),
    ("has_sentinel", .bool key.hasSentinel)] ++
    if headers.isEmpty then [] else
      [("headers", .list (headers.map fun h => .ofTexts [h.1, h.2]))])

def inputMessages (inputs : List (String × String)) : List Message :=
  .heading "Inputs" :: inputs.mapIdx fun i input =>
    .pair ("\x7b" ++ toString i ++ "\x7d " ++ input.1) input.2

/-- Derives the key of a rule for a request. -/
def derivation (m : Mode) (r : Rule) (request : Request) (debugHeaders : Bool) : Report :=
  let key := r.derive request
  let inputs := (r.inputs.map Field.text).zip key.components
  let isDebug := debugHeaders || request.wantsDebug
  let headers := if isDebug then (DebugHeaders.ofKey key).toHeaders else []
  if m.json then .ofMessages [.document (derivationDocument key inputs headers)]
  else
    .ofMessages (
      .line key.key :: (if m.verbose then inputMessages inputs else []) ++
      headers.map (fun h => .pair h.1 h.2) ++
      if key.hasSentinel then
        [.warning "Key contains a sentinel; run `edge check` for details"]
      else [])

/-- Derives the key of a configured rule for a simulated request. -/
def deriveKey (m : Mode) (s : Session) (name : String) (simulation : Simulation)
    (debugHeaders : Bool) : Report :=
  match s.rules with
  | .error failure => .ofFailure failure
  | .ok rules =>
    match rules.get? name with
    | none => .ofFailure (.unknownRule name rules.names)
    | some r =>
      match simulation.request with
      | .error failure => .ofFailure failure
      | .ok request => derivation m r request debugHeaders

end CacheKeys.CommandLine
