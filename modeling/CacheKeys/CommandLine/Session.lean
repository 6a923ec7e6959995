import CacheKeys.CommandLine.Invocation
import CacheKeys.CommandLine.Report
import CacheKeys.Config
import CacheKeys.Document.Toml

/-! # Sessions

What every command works with: the workspace and the configuration that was found in it.  Unless a
file is named, the nearest one in the directory and those above it counts, and without any the
defaults do. -/

namespace CacheKeys.CommandLine

/-- What every command works with; the path is that of the configuration file, if there is one. -/
structure Session where
  workspace : Workspace
  config : Config
  configPath : Option String

namespace Session

/-- The names of configuration files, the first one preferred. -/
def configNames : List String := ["edge.toml", ".edge.toml", "edge.json"]

/-- The paths at which a configuration file is looked for, in order. -/
def configCandidates (w : Workspace) : List String :=
  w.ancestors.flatMap fun directory => configNames.map (Workspace.join directory)

/-- The path of the nearest configuration file. -/
def findConfig (w : Workspace) : Option String :=
  (configCandidates w).find? fun path => (w.entry path).isPresent

/-- The form that the name of a file tells. -/
def formOf (path : String) : FileForm := if path.endsWith ".json" then .json else .toml

/-- The configuration that a text of a form holds. -/
def configOf (form : FileForm) (text : String) : Option Config :=
  match form with
  | .json => (Json.read? text).bind (Config.ofDocument? Json.dialect)
  | .toml => (Toml.read? text).bind (Config.ofDocument? Toml.dialect)

def readConfig (w : Workspace) (path : String) : Except Failure Config :=
  match (w.entry path).contents with
  | .error fault => .error (.unreadableConfig path fault)
  | .ok text =>
    match configOf (formOf path) text with
    | some config => .ok config
    | none => .error (.malformedConfig (formOf path) path)

/-- The session in a workspace, with the named configuration file or the one found. -/
def start (w : Workspace) (named : Option String) : Except Failure Session :=
  match named.orElse fun _ => findConfig w with
  | none => .ok ⟨w, Config.standard, none⟩
  | some path => (readConfig w path).map fun config => ⟨w, config, some path⟩

/-- The builtin functions under the configured limits. -/
def compiler (s : Session) : Template.Compiler := ⟨Registry.builtin, s.config.limits⟩

def rules (s : Session) : Except Failure RuleSet :=
  (RuleSet.ofConfigs s.compiler s.config.rules).mapError .rule

end Session

end CacheKeys.CommandLine
