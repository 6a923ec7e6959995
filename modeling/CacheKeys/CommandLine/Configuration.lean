import CacheKeys.CommandLine.Session

/-! # Commands on the configuration

Showing the configuration, and writing a file to begin with. -/

namespace CacheKeys.CommandLine

def ruleConfigMessages (c : RuleConfig) : List Message :=
  [.info "[[rules]]", .pair "name" c.name, .pair "template" c.template,
    .pair "inputs" (String.intercalate ", " c.inputs)]

def showConfig (m : Mode) (s : Session) : Report :=
  let c := s.config
  if m.json then .ofMessages [.document c.toDocument]
  else
    .ofMessages ([.heading "Current Configuration",
      .pair "file" (s.configPath.getD "(defaults)"),
      .info "[limits]", .pair "max_depth" (toString c.limits.maxDepth),
      .pair "max_template_len" (toString c.limits.maxLength),
      .info "[logging]", .pair "format" c.logging.format.name, .pair "level" c.logging.level] ++
      c.rules.flatMap ruleConfigMessages)

/-- The lines of the file to begin with. -/
def initialConfigLines : List String :=
  let limits := Template.Limits.standard
  ["# Cache key configuration", "",
    "[limits]", "max_depth = " ++ toString limits.maxDepth,
    "max_template_len = " ++ toString limits.maxLength, "",
    "[logging]", "format = \"human\"", "level = \"warn\"", "",
    "[[rules]]", "name = \"assets\"",
    "template = \"\x7b0\x7d:\x7bpath_dir \x7b1\x7d\x7d/\x7blower \x7bpath_base \x7b1\x7d\x7d\x7d\"",
    "inputs = [\"method\", \"path\"]", "",
    "[[rules]]", "name = \"pdp\"",
    "template = \"pdp:\x7bselect \x7b0\x7d 0\x7d:\x7b1\x7d:\x7bsubstr \x7b2\x7d 0 2\x7d\"",
    "inputs = [\"segment:1\", \"device\", \"header:accept-language\"]"]

/-- The contents of the file to begin with. -/
def initialConfig : String := String.join (initialConfigLines.map (· ++ "\n"))

def initialConfigPath (w : Workspace) : String := Workspace.join w.directory "edge.toml"

/-- Writes the file to begin with. -/
def writeInitialConfig (w : Workspace) : Report :=
  let path := initialConfigPath w
  match (w.entry path).writeFault? with
  | some fault => .ofFailure (.unwritableConfig path fault)
  | none => ⟨[.success ("Created: " ++ path)], none, some (path, initialConfig)⟩

/-- Writes a file to begin with.  Unless it is forced to, it asks before it replaces one. -/
def initConfig (s : Session) (force : Bool) : Report :=
  if (s.workspace.entry (initialConfigPath s.workspace)).isPresent && !force then
    match s.workspace.answer with
    | .replace => writeInitialConfig s.workspace
    | .keep => .ofMessages [.warning "Keeping existing config"]
    | .noTerminal => .ofFailure .noTerminal
  else writeInitialConfig s.workspace

end CacheKeys.CommandLine
