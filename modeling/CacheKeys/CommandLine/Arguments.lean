import CacheKeys.Text.Ascii
import CacheKeys.Text.Numeral

/-! # Arguments of commands

How a command takes its arguments apart.  Options begin with one dash and a letter or with two and a
name; a value follows as the next argument, after an equals sign, or right after the letter.
Letters without a value can share a dash.  Two dashes alone end the options. -/

namespace CacheKeys.CommandLine

/-- What an option takes: nothing, a value at most once, or a value any number of times. -/
inductive OptionKind where
  | flag
  | single
  | repeated
  deriving DecidableEq

/-- An option that a command knows: the name after two dashes, the letter after one, what it takes,
and which values. -/
structure OptionSpec where
  name : String
  letter : Option Char
  kind : OptionKind
  accepts : String → Bool

namespace OptionSpec

/-- An option without a value. -/
def flag (name : String) (letter : Option Char) : OptionSpec := ⟨name, letter, .flag, fun _ => true⟩

/-- An option with a text. -/
def single (name : String) (letter : Option Char) : OptionSpec :=
  ⟨name, letter, .single, fun _ => true⟩

/-- An option with a text that can be repeated. -/
def repeated (name : String) (letter : Option Char) : OptionSpec :=
  ⟨name, letter, .repeated, fun _ => true⟩

/-- An option with a count. -/
def count (name : String) (letter : Option Char) : OptionSpec :=
  ⟨name, letter, .single, fun s => (Text.readIndex? s).isSome⟩

end OptionSpec

/-- What a command takes: options, plain arguments between `least` and `most` in number, where
`none` is no bound, and one of its subcommands, if it has any. -/
structure Level where
  options : List OptionSpec
  least : Nat
  most : Option Nat
  subcommands : List String

/-- Why the arguments lead to no command. -/
inductive Stop where
  | usage
  | help
  | version
  deriving DecidableEq

/-- The arguments that a command was given, in order; the value of a flag is empty. -/
structure Given where
  options : List (String × String)
  plain : List String
  deriving DecidableEq

namespace Given

def empty : Given := ⟨[], []⟩

def has (g : Given) (name : String) : Bool := (g.options.lookup name).isSome

def value? (g : Given) (name : String) : Option String := g.options.lookup name

/-- The value of an option, or the one that it has when it is left out. -/
def value (g : Given) (name default : String) : String := (g.value? name).getD default

/-- The count of an option, or the one that it has when it is left out. -/
def count (g : Given) (name : String) (default : Nat) : Nat :=
  ((g.value? name).bind Text.readIndex?).getD default

def values (g : Given) (name : String) : List String :=
  (g.options.filter fun o => o.1 == name).map Prod.snd

/-- Adds an option, unless it has been given and cannot be repeated or the value is none of its own.
Help and version are asked for at once. -/
def add (g : Given) (o : OptionSpec) (value : String) : Except Stop Given :=
  if !o.accepts value || (o.kind != .repeated && g.has o.name) then .error .usage
  else if o.name = "help" then .error .help
  else if o.name = "version" then .error .version
  else .ok { g with options := g.options ++ [(o.name, value)] }

end Given

/-- What the next argument can be; a plain one may begin with whatever it likes. -/
inductive Awaits where
  | anything
  | value (o : OptionSpec)
  | plain

def Level.readLetters (l : Level) (g : Given) : List Char → Except Stop (Given × Awaits)
  | [] => .ok (g, .anything)
  | c :: cs =>
    match l.options.find? fun o => o.letter == some c with
    | none => .error .usage
    | some o =>
      if o.kind = .flag then
        match g.add o "" with
        | .ok g' => l.readLetters g' cs
        | .error s => .error s
      else match cs with
        | [] => .ok (g, .value o)
        | '=' :: value => (g.add o (String.ofList value)).map fun g' => (g', .anything)
        | value => (g.add o (String.ofList value)).map fun g' => (g', .anything)

/-- Reads what follows two dashes. -/
def Level.readName (l : Level) (g : Given) (text : String) : Except Stop (Given × Awaits) :=
  let (name, value?) := match Text.splitFirst? '=' text with
    | some (name, value) => (name, some value)
    | none => (text, none)
  match l.options.find? fun o => o.name == name with
  | none => .error .usage
  | some o =>
    match o.kind, value? with
    | .flag, none => (g.add o "").map fun g' => (g', .anything)
    | .flag, some _ => .error .usage
    | _, some value => (g.add o value).map fun g' => (g', .anything)
    | _, none => .ok (g, .value o)

def Level.readPlain (l : Level) (g : Given) (text : String) : Except Stop Given :=
  if l.most.all fun most => decide (g.plain.length < most) then
    .ok { g with plain := g.plain ++ [text] }
  else .error .usage

/-- Reads an argument that is no subcommand. -/
def Level.readOne (l : Level) (g : Given) (awaits : Awaits) (text : String) :
    Except Stop (Given × Awaits) :=
  match awaits, text.toList with
  | .plain, _ => (l.readPlain g text).map fun g' => (g', .plain)
  | .value _, '-' :: _ :: _ => .error .usage
  | .value o, _ => (g.add o text).map fun g' => (g', .anything)
  | .anything, ['-', '-'] => .ok (g, .plain)
  | .anything, '-' :: '-' :: name => l.readName g (String.ofList name)
  | .anything, '-' :: c :: cs => l.readLetters g (c :: cs)
  | .anything, _ => (l.readPlain g text).map fun g' => (g', .anything)

/-- Whether the arguments of a command can end here, without a subcommand. -/
def Level.isComplete (l : Level) (g : Given) : Awaits → Bool
  | .value _ => false
  | _ => decide (l.least ≤ g.plain.length) && l.subcommands.isEmpty

/-- Reads arguments up to a subcommand, if there is one: what was given, the subcommand and the
arguments after it. -/
def Level.read (l : Level) (g : Given) (awaits : Awaits) :
    List String → Except Stop (Given × Option (String × List String))
  | [] => if l.isComplete g awaits then .ok (g, none) else .error .usage
  | text :: rest =>
    let isSubcommand := match awaits with
      | .anything => l.subcommands.contains text
      | _ => false
    if isSubcommand then .ok (g, some (text, rest))
    else match l.readOne g awaits text with
      | .ok (g', awaits') => l.read g' awaits' rest
      | .error s => .error s

end CacheKeys.CommandLine
