import CacheKeys.CommandLine.Message
import CacheKeys.CommandLine.Workspace
import CacheKeys.Rule.Collection

/-! # Reports

What a command leaves behind: messages, a file that it writes, and the reason if it failed.  The
wording of a failure names what was attempted and then the cause. -/

namespace CacheKeys.CommandLine

open Template

/-- The forms of configuration files. -/
inductive FileForm where
  | json
  | toml
  deriving DecidableEq

def FileForm.name : FileForm → String
  | json => "JSON"
  | toml => "TOML"

/-- Why a command failed. -/
inductive Failure where
  | unreadableConfig (path : String) (fault : FileFault)
  | malformedConfig (form : FileForm) (path : String)
  | unwritableConfig (path : String) (fault : FileFault)
  -- there is a configuration file and nobody to ask whether to replace it
  | noTerminal
  | compile (template : String) (cause : CompileError)
  | parse (template : String) (cause : CompileError)
  -- a template that can be read calls a function that does not exist
  | resolve (cause : CompileError)
  | rule (cause : RuleError)
  | unknownRule (name : String) (configured : List String)
  | unknownFunction (name : String)
  | noPair (text : String)
  -- there are warnings, and they count as failures
  | warnings (count rules : Nat)
  | nothingToMeasure
  deriving DecidableEq

/-- What is said about a file that is no configuration. -/
def malformedReason : String := ": malformed document"

def Failure.message : Failure → String
  | unreadableConfig path fault => "Failed to read config file: " ++ path ++ ": " ++ fault.message
  | malformedConfig form path =>
    "Failed to parse " ++ form.name ++ " config: " ++ path ++ malformedReason
  | unwritableConfig path fault => "Failed to write config file: " ++ path ++ ": " ++ fault.message
  | noTerminal => "IO error: not a terminal: not a terminal"
  | compile template cause => "Failed to compile `" ++ template ++ "`: " ++ cause.message
  | parse template cause => "Failed to parse `" ++ template ++ "`: " ++ cause.message
  | resolve cause => cause.message
  | rule cause => String.intercalate ": " (cause.message :: cause.cause?.toList)
  | unknownRule name configured =>
    "Unknown rule `" ++ name ++ "` (configured: " ++ String.intercalate ", " configured ++ ")"
  | unknownFunction name => "Unknown function: " ++ name
  | noPair text => "Expected NAME=VALUE, got `" ++ text ++ "`"
  | warnings count rules =>
    toString count ++ " warning(s) in " ++ toString rules ++ " rule(s)"
  | nothingToMeasure => "--threads and --iterations must be at least 1"

/-- What a command leaves behind: what it tells, in order, why it failed, if it did, and the path
and the contents of the file that it writes. -/
structure Report where
  messages : List Message
  failure : Option Failure
  written : Option (String × String)

namespace Report

/-- A command that went well. -/
def ofMessages (messages : List Message) : Report := ⟨messages, none, none⟩

/-- A command that failed before it told anything. -/
def ofFailure (failure : Failure) : Report := ⟨[], some failure, none⟩

end Report

end CacheKeys.CommandLine
