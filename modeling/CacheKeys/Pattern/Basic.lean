/-! # Patterns

Regular expressions as trees, by which log filters tell the values of fields.  Nothing is matched
here: what counts is which texts are patterns that can be put to work (`Pattern.isUsable`).  There
are no tables of Unicode properties, so a pattern cannot ask for what only they tell; and a pattern
matches whole characters, so one that reads single bytes keeps to ASCII. -/

namespace CacheKeys

namespace Pattern

/-- What can be switched on and off inside a pattern. -/
inductive Flag where
  | caseless
  | multiline
  | dotAll
  -- repetitions are short unless marked
  | short
  -- characters are read, not bytes
  | unicode
  | crlf
  -- blanks and comments mean nothing
  | extended
  deriving DecidableEq

/-- Flags that are switched on or off. -/
abbrev Setting := List (Flag × Bool)

/-- A flag after a setting. -/
def Setting.apply (s : Setting) (f : Flag) (before : Bool) : Bool := (s.lookup f).getD before

/-- A character that stands for itself, and whether it is written as the value of one byte. -/
structure Letter where
  char : Char
  isByte : Bool

/-- What a set of characters is made of; a part that is negated stands for all characters outside of
it. -/
inductive CharSet where
  | letter (l : Letter)
  | range (first last : Letter)
  | named (negated : Bool)
  | shorthand (negated : Bool)
  | nested (negated : Bool) (inner : CharSet)
  | union (parts : List CharSet)
  | operation (left right : CharSet)

end Pattern

inductive Pattern where
  | letter (l : Pattern.Letter)
  | any
  -- a place between characters, which the words around it tell or not
  | place (ofWord : Bool)
  | shorthand (negated : Bool)
  | set (negated : Bool) (inner : Pattern.CharSet)
  -- a setting for what follows in the same group
  | setting (s : Pattern.Setting)
  -- a pattern several times or not at all
  | repetition (p : Pattern)
  | group (s : Pattern.Setting) (p : Pattern)
  | sequence (parts : List Pattern)
  | choice (parts : List Pattern)

namespace Pattern

/-- Sets side by side; a single one stands for itself. -/
def CharSet.ofParts : List CharSet → CharSet
  | [s] => s
  | parts => .union parts

/-- Patterns one after another; a single one stands for itself. -/
def ofParts : List Pattern → Pattern
  | [p] => p
  | parts => .sequence parts

/-! ### Depth -/

mutual

def CharSet.depth : CharSet → Nat
  | .nested _ inner => inner.depth + 1
  | .union [] => 0
  | .union (s :: rest) => max s.depth (greatestSetDepth rest) + 1
  | .operation left right => max left.depth right.depth + 1
  | _ => 0

/-- How deep the deepest set is nested. -/
def greatestSetDepth : List CharSet → Nat
  | [] => 0
  | s :: rest => max s.depth (greatestSetDepth rest)

end

mutual

def depth : Pattern → Nat
  | .set negated inner => (CharSet.nested negated inner).depth
  | .repetition p => p.depth + 1
  | .group _ p => p.depth + 1
  | .sequence [] => 0
  | .sequence (p :: rest) => max p.depth (greatestDepth rest) + 1
  | .choice parts => greatestDepth parts + 1
  | _ => 0

/-- How deep the deepest pattern is nested. -/
def greatestDepth : List Pattern → Nat
  | [] => 0
  | p :: rest => max p.depth (greatestDepth rest)

end

def maxDepth : Nat := 250

/-! ### What can be put to work -/

/-- The flags on which it depends whether a pattern can be put to work: whether characters are read,
not bytes, and whether letters match whatever their case. -/
structure Mode where
  unicode : Bool
  caseless : Bool

/-- Characters are read, and their case counts. -/
def Mode.standard : Mode := ⟨true, false⟩

/-- The mode after a setting. -/
def Mode.set (m : Mode) (s : Setting) : Mode :=
  ⟨s.apply .unicode m.unicode, s.apply .caseless m.caseless⟩

/-- Whether a character can be a member of a set: the cases of characters are not known beyond
bytes, and a byte beyond ASCII is no character. -/
def Mode.admits (m : Mode) (l : Letter) : Bool :=
  if m.unicode then !m.caseless else decide (l.char.toNat < 128)

mutual

/-- Whether a set can be put to work. -/
def CharSet.isSupported (m : Mode) : CharSet → Bool
  | .letter l => m.admits l
  | .range first last => m.admits first && m.admits last
  | .named negated => if m.unicode then !m.caseless else !negated
  | .shorthand negated => !m.unicode && !negated
  | .nested negated inner => (m.unicode || !negated) && inner.isSupported m
  | .union parts => allSupported m parts
  | .operation left right => left.isSupported m && right.isSupported m

def allSupported (m : Mode) : List CharSet → Bool
  | [] => true
  | s :: rest => s.isSupported m && allSupported m rest

end

/-- Whether a character that stands for itself can be put to work. -/
def Mode.matchesLetter (m : Mode) (l : Letter) : Bool :=
  m.admits l || (!m.unicode && !l.isByte)

mutual

/-- The mode after a pattern in a mode; none if the pattern cannot be put to work. -/
def modeAfter? (m : Mode) : Pattern → Option Mode
  | .letter l => if m.matchesLetter l then some m else none
  | .any => if m.unicode then some m else none
  | .place ofWord => if m.unicode && ofWord then none else some m
  | .shorthand negated => if m.unicode || negated then none else some m
  | .set negated inner => if (CharSet.nested negated inner).isSupported m then some m else none
  | .setting s => some (m.set s)
  | .repetition p => modeAfter? m p
  | .group s p => (modeAfter? (m.set s) p).map fun _ => m
  | .sequence parts => modeAfterAll? m parts
  | .choice parts => modeAfterAll? m parts

/-- The same for patterns one after another. -/
def modeAfterAll? (m : Mode) : List Pattern → Option Mode
  | [] => some m
  | p :: rest =>
    match modeAfter? m p with
    | none => none
    | some after => modeAfterAll? after rest

end

/-- Whether a pattern can be put to work. -/
def isUsable (p : Pattern) : Bool :=
  decide (p.depth ≤ maxDepth) && (modeAfter? Mode.standard p).isSome

end Pattern

end CacheKeys
