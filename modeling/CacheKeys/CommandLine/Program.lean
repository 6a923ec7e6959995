import CacheKeys.CommandLine.Benchmark
import CacheKeys.CommandLine.Configuration
import CacheKeys.CommandLine.LogFilter
import CacheKeys.CommandLine.Rules
import CacheKeys.CommandLine.Templates

/-! # The program

From arguments to outputs and an exit status.  Reading files and the clock and asking questions
happens outside: the workspace, in which they are answered, and the readings of the clock are given,
and a file to be written is part of the outcome. -/

namespace CacheKeys.CommandLine

/-- What the program finds around it. -/
structure Environment where
  workspace : Workspace
  logFilter : Option String
  clock : Clock

/-- The exit status, both outputs, and the path and the contents of a file to be written. -/
structure Outcome where
  exit : Nat
  out : String
  err : String
  written : Option (String × String)

/-- Carries out a command. -/
def Command.run (m : Mode) (s : Session) (clock : Clock) : Command → Report
  | eval template values => evalTemplate m s template values
  | explain template => explainTemplate m s template
  | functions name => listFunctions m s name
  | check strict => checkRules m s strict
  | derive rule simulation debugHeaders => deriveKey m s rule simulation debugHeaders
  | bench template values iterations threads =>
    benchmark m s clock template values iterations threads
  | showConfig => CommandLine.showConfig m s
  | initConfig force => CommandLine.initConfig s force

/-- What is said about a text that is no filter for log lines. -/
def invalidFilterReason : String := ": invalid filter directive"

/-- The warning that log lines cannot be filtered as configured. -/
def logWarnings (e : Environment) (verbose : Bool) (c : Config) : List Message :=
  let level := if verbose then "debug" else c.logging.level
  if LogFilter.isUsable e.logFilter level then []
  else [.warning ("Invalid log filter `" ++ level ++ "`" ++ invalidFilterReason)]

def Invocation.report (e : Environment) (i : Invocation) : Report :=
  match Session.start e.workspace i.config with
  | .error failure => .ofFailure failure
  | .ok s =>
    let report := i.command.run i.mode s e.clock
    { report with messages := logWarnings e i.mode.verbose s.config ++ report.messages }

/-- What a report leaves behind when it is written. -/
def Report.outcome (m : Mode) (r : Report) : Outcome where
  exit := if r.failure.isSome then 1 else 0
  out := m.textOn .out r.messages
  err := m.textOn .err r.messages ++
    String.join (r.failure.toList.map fun f => m.renderFailure f.message ++ "\n")
  written := r.written

def versionText : String := "0.1.0"

/-- How the program is called, in short. -/
def usageText : String :=
  "Usage: edge [--verbose] [--json] [--config PATH] COMMAND [ARGUMENTS]\n" ++
  "Commands: eval, explain, functions, check, derive, bench, config show, config init\n"

/-- What is left behind when the arguments are no invocation. -/
def Refusal.outcome (r : Refusal) : Outcome :=
  match r.stop with
  | .usage => ⟨2, "", usageText, none⟩
  | .help => ⟨0, usageText, "", none⟩
  | .version =>
    ⟨0, String.intercalate "-" ("edge" :: r.command) ++ " " ++ versionText ++ "\n", "", none⟩

def outcome (e : Environment) (args : List String) : Outcome :=
  match Invocation.read args with
  | .error refusal => refusal.outcome
  | .ok i => (i.report e).outcome i.mode

end CacheKeys.CommandLine
