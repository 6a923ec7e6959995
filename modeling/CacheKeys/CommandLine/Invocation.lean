import CacheKeys.CommandLine.Arguments
import CacheKeys.CommandLine.Message

/-! # Invocations

The commands of the program, and the arguments that call them.  Three options are common to all
commands and can stand before or after the name of a command; where one is given on several levels,
the innermost counts. -/

namespace CacheKeys.CommandLine

/-- What a request is simulated from; headers, query parameters and cookies are written as
`NAME=VALUE`. -/
structure Simulation where
  method : String
  path : String
  headers : List String
  queries : List String
  cookies : List String
  user : Option String
  country : Option String
  region : Option String
  city : Option String
  deriving DecidableEq

/-- A command with its arguments; a strict check counts warnings as failures. -/
inductive Command where
  | eval (template : String) (values : List String)
  | explain (template : String)
  | functions (name : Option String)
  | check (strict : Bool)
  | derive (rule : String) (simulation : Simulation) (debugHeaders : Bool)
  | bench (template : String) (values : List String) (iterations threads : Nat)
  | showConfig
  | initConfig (force : Bool)
  deriving DecidableEq

/-- A call of the program, with the path of its configuration file if it is named. -/
structure Invocation where
  mode : Mode
  config : Option String
  command : Command
  deriving DecidableEq

/-! ### What commands take -/

def commonOptions : List OptionSpec :=
  [.flag "verbose" (some 'v'), .flag "json" none, .single "config" (some 'c'),
    .flag "help" (some 'h'), .flag "version" (some 'V')]

/-- A command with options and plain arguments of its own. -/
def Level.ofOptions (options : List OptionSpec) (least : Nat) (most : Option Nat) : Level :=
  ⟨options ++ commonOptions, least, most, []⟩

/-- A command that only has subcommands. -/
def Level.ofSubcommands (names : List String) : Level := ⟨commonOptions, 0, some 0, names⟩

/-- The program itself. -/
def programLevel : Level :=
  .ofSubcommands ["eval", "explain", "functions", "check", "derive", "bench", "config", "help"]

/-- The commands on the configuration. -/
def configLevel : Level := .ofSubcommands ["show", "init", "help"]

def simulationOptions : List OptionSpec :=
  [.single "method" (some 'm'), .single "path" (some 'p'), .repeated "header" (some 'H'),
    .repeated "query" (some 'q'), .repeated "cookie" none, .single "user" (some 'u'),
    .single "country" none, .single "region" none, .single "city" none]

/-- The simulated request that options describe. -/
def Simulation.ofGiven (g : Given) : Simulation where
  method := g.value "method" "GET"
  path := g.value "path" "/"
  headers := g.values "header"
  queries := g.values "query"
  cookies := g.values "cookie"
  user := g.value? "user"
  country := g.value? "country"
  region := g.value? "region"
  city := g.value? "city"

/-- What a command takes, and the command that its arguments make; the first plain argument is split
off. -/
def commandOf? (name : String) : Option (Level × (Given → String → List String → Command)) :=
  match name with
  | "eval" => some (.ofOptions [] 1 none, fun _ template values => .eval template values)
  | "explain" => some (.ofOptions [] 1 (some 1), fun _ template _ => .explain template)
  | "functions" => some (.ofOptions [] 0 (some 1), fun g _ _ => .functions g.plain.head?)
  | "check" =>
    some (.ofOptions [.flag "strict" none] 0 (some 0), fun g _ _ => .check (g.has "strict"))
  | "derive" =>
    some (.ofOptions (.flag "debug-headers" none :: simulationOptions) 1 (some 1),
      fun g rule _ => .derive rule (.ofGiven g) (g.has "debug-headers"))
  | "bench" =>
    some (.ofOptions [.count "iterations" (some 'n'), .count "threads" (some 't')] 1 none,
      fun g template values =>
        .bench template values (g.count "iterations" 10000) (g.count "threads" 4))
  | _ => none

/-- The same for the commands on the configuration. -/
def configCommandOf? (name : String) : Option (Level × (Given → String → List String → Command)) :=
  match name with
  | "show" => some (.ofOptions [] 0 (some 0), fun _ _ _ => .showConfig)
  | "init" =>
    some (.ofOptions [.flag "force" (some 'f')] 0 (some 0),
      fun g _ _ => .initConfig (g.has "force"))
  | _ => none

/-! ### Reading arguments -/

/-- Why the arguments are no invocation, and the command that they stopped at, by its names. -/
structure Refusal where
  stop : Stop
  command : List String
  deriving DecidableEq

/-- The invocation of what was given on the levels of a command, the outermost first. -/
def Invocation.ofGiven (levels : List Given) (command : Command) : Invocation where
  mode := ⟨levels.any (·.has "verbose"), levels.any (·.has "json")⟩
  config := levels.reverse.findSome? (·.value? "config")
  command := command

def readCommand (outer : List Given) (names : List String)
    (entry : Option (Level × (Given → String → List String → Command))) (args : List String) :
    Except Refusal Invocation :=
  match entry with
  | none => .error ⟨.usage, names⟩
  | some (level, make) =>
    match level.read .empty .anything args with
    | .error stop => .error ⟨stop, names⟩
    | .ok (g, _) =>
      .ok (.ofGiven (outer ++ [g]) (make g (g.plain.headD "") (g.plain.drop 1)))

/-- What asking for help on a command leads to: there has to be such a command. -/
def helpOn : List String → Stop
  | [] => .help
  | ["help"] => .help
  | ["config"] => .help
  | ["config", name] => if configLevel.subcommands.contains name then .help else .usage
  | [name] => if (commandOf? name).isSome then .help else .usage
  | _ => .usage

def readConfigCommand (outer : Given) (args : List String) : Except Refusal Invocation :=
  match configLevel.read .empty .anything args with
  | .error stop => .error ⟨stop, ["config"]⟩
  | .ok (_, none) => .error ⟨.usage, ["config"]⟩
  | .ok (g, some (name, rest)) =>
    if name = "help" then .error ⟨helpOn ("config" :: rest), ["config"]⟩
    else readCommand [outer, g] ["config", name] (configCommandOf? name) rest

/-- Reads the arguments of the program. -/
def Invocation.read (args : List String) : Except Refusal Invocation :=
  match programLevel.read .empty .anything args with
  | .error stop => .error ⟨stop, []⟩
  | .ok (_, none) => .error ⟨.usage, []⟩
  | .ok (g, some (name, rest)) =>
    if name = "help" then .error ⟨helpOn rest, []⟩
    else if name = "config" then readConfigCommand g rest
    else readCommand [g] [name] (commandOf? name) rest

end CacheKeys.CommandLine
