import CacheKeys.Pattern.CharSet
import CacheKeys.Text.Letter

/-! # Reading patterns

A pattern is read from the left to the right.  What is left of the text is handed on, together with
the names given to groups, which are different, and the flag that lets blanks and comments pass. -/

namespace CacheKeys.Pattern

/-! ### Groups -/

def Flag.ofChar? (c : Char) : Option Flag :=
  if c == 'i' then some .caseless
  else if c == 'm' then some .multiline
  else if c == 's' then some .dotAll
  else if c == 'U' then some .short
  else if c == 'u' then some .unicode
  else if c == 'R' then some .crlf
  else if c == 'x' then some .extended
  else none

/-- What an opening parenthesis begins: a setting that is already complete, or a group with a
setting of its own. -/
inductive Opening where
  | setting (s : Setting)
  | group (s : Setting) (name : Option String)

/-- A setting of which some letters have been read: the flags so far, each at most once, whether the
next ones are switched off, and whether one has to follow. -/
structure SettingDraft where
  flags : Setting
  negated : Bool
  dangling : Bool

def SettingDraft.step (d : SettingDraft) (c : Char) : Option SettingDraft :=
  if c == '-' then if d.negated then none else some ⟨d.flags, true, true⟩
  else (Flag.ofChar? c).bind fun f =>
    if d.flags.any (·.1 == f) then none else some ⟨d.flags ++ [(f, !d.negated)], d.negated, false⟩

/-- Reads a setting after a question mark, up to the colon of a group or the end. -/
def setting? (d : SettingDraft) : List Char → Option (Opening × List Char)
  | [] => none
  | c :: cs =>
    if c == ':' then if d.dangling then none else some (.group d.flags none, cs)
    else if c == ')' then
      if d.dangling || d.flags.isEmpty then none else some (.setting d.flags, cs)
    else
      match d.step c with
      | none => none
      | some next => setting? next cs

def isGroupName : List Char → Bool
  | [] => false
  | c :: cs =>
    (c == '_' || Text.isAlphabetic c) &&
      cs.all fun d => d == '_' || d == '.' || d == '[' || d == ']' || Text.isAlphanumeric d

/-- Reads the name of a group up to its closing angle bracket. -/
def groupName? (names : List String) (cs : List Char) : Option (Opening × List Char) :=
  let name := cs.takeWhile (· != '>')
  match cs.dropWhile (· != '>') with
  | _ :: rest =>
    if isGroupName name && !names.contains (String.ofList name) then
      some (.group [] (some (String.ofList name)), rest)
    else none
  | [] => none

/-- Reads the beginning of a group after its parenthesis.  Looking ahead or behind is not possible.
-/
def opening? (names : List String) : List Char → Option (Opening × List Char)
  | '?' :: 'P' :: '<' :: cs => groupName? names cs
  | '?' :: '<' :: cs => groupName? names cs
  | '?' :: cs => setting? ⟨[], false, false⟩ cs
  | cs => some (.group [] none, cs)

/-! ### Patterns -/

/-- What the reader knows besides the text that is left: whether blanks and comments mean nothing,
and the names given to groups so far. -/
structure Surroundings where
  extended : Bool
  names : List String

/-- What has been read of a group, the last things first: the choices before the last bar and the
parts after it. -/
structure Draft where
  choices : List Pattern
  parts : List Pattern

/-- Nothing read yet. -/
def Draft.empty : Draft := ⟨[], []⟩

def Draft.push (d : Draft) (p : Pattern) : Draft := ⟨d.choices, p :: d.parts⟩

/-- Ends a choice. -/
def Draft.bar (d : Draft) : Draft := ⟨ofParts d.parts.reverse :: d.choices, []⟩

/-- Repeats the last part; there has to be one, and a setting cannot be repeated. -/
def Draft.repeated? (d : Draft) : Option Draft :=
  match d.parts with
  | [] => none
  | .setting _ :: _ => none
  | p :: rest => some ⟨d.choices, .repetition p :: rest⟩

def Draft.toPattern (d : Draft) : Pattern :=
  match d.choices with
  | [] => ofParts d.parts.reverse
  | _ => .choice d.bar.choices.reverse

/-- Whether a character repeats what stands before it. -/
def isRepetition (c : Char) : Bool := c == '?' || c == '*' || c == '+'

/-- Passes over the question mark that makes a repetition short. -/
def skipShort : List Char → List Char
  | '?' :: cs => cs
  | cs => cs

/-- The pattern of an escape. -/
def ofEscape : Escape → Pattern
  | .letter l => .letter l
  | .shorthand negated => .shorthand negated
  | .place ofWord => .place ofWord

/-- Reads a single character, an escape or a set. -/
def single? (extended : Bool) : List Char → Option (Pattern × List Char)
  | [] => none
  | c :: cs =>
    if c == '[' then (CharSet.read? extended cs).map fun r => (.set r.1.1 r.1.2, r.2)
    else if c == '\\' then (escape? extended cs).map fun r => (ofEscape r.1, r.2)
    else if c == '.' then some (.any, cs)
    else if c == '^' || c == '$' then some (.place false, cs)
    else if c == '{' then none
    else some (.letter ⟨c, false⟩, cs)

/-- Reads what is left of a group, up to its closing parenthesis or the end of the text. -/
def group? : Nat → Surroundings → Draft → List Char → Option ((Pattern × List String) × List Char)
  | 0, _, _, _ => none
  | fuel + 1, s, d, cs => do
    match skipBlanks s.extended cs with
    | [] => return ((d.toPattern, s.names), [])
    | ')' :: rest => return ((d.toPattern, s.names), ')' :: rest)
    | '|' :: rest => group? fuel s d.bar rest
    | '(' :: rest =>
      match ← opening? s.names (skipBlanks s.extended rest) with
      | (.setting flags, rest) =>
        let extended := flags.apply .extended s.extended
        group? fuel { s with extended := extended } (d.push (.setting flags)) rest
      | (.group flags name, rest) =>
        let inner := ⟨flags.apply .extended s.extended, name.toList ++ s.names⟩
        let ((p, names), rest) ← group? fuel inner .empty rest
        match rest with
        | ')' :: rest => group? fuel { s with names := names } (d.push (.group flags p)) rest
        | _ => none
    | c :: rest =>
      if isRepetition c then group? fuel s (← d.repeated?) (skipShort rest)
      else
        let (p, rest) ← single? s.extended (c :: rest)
        group? fuel s (d.push p) rest

/-- Reads a pattern. -/
def read? (s : String) : Option Pattern :=
  match group? (s.toList.length + 1) ⟨false, []⟩ .empty s.toList with
  | some ((p, _), []) => some p
  | _ => none

end CacheKeys.Pattern
