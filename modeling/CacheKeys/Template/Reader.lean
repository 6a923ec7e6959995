import CacheKeys.Template.Error
import CacheKeys.Template.Expr
import CacheKeys.Template.Quoted
import CacheKeys.Text.Numeral

/-! # Reading templates

A template is text interleaved with groups in braces.  A group holds items separated by blanks; an
item is a juxtaposition of word characters, quoted text and groups.  A group with a single item is
an index if the item is a word of digits, a call without arguments if it is any other word, and
else the item itself; with more items it is a call, and its head has to be a word.

The reader takes one character at a time.  `Reader` is all that it remembers: the nodes finished so
far and the place where it stands, with the groups that are open.  `parse` runs it over a text, so
reading a text in two halves is reading its concatenation. -/

namespace CacheKeys.Template

/-! ### Groups and items -/

/-- An item of a group: the byte position of its first character, its text as it is written, whether
that consists of word characters only, and the node that it stands for as an argument. -/
structure Item where
  offset : Nat
  source : String
  isWord : Bool
  expr : Expr

/-- An item that is still being read; the next characters may extend the literal text. -/
structure Draft where
  offset : Nat
  source : String
  parts : List Expr
  literal : Option String
  isWord : Bool

namespace Draft

/-- An item of which nothing has been read. -/
def start (offset : Nat) : Draft := ⟨offset, "", [], none, true⟩

/-- Adds text to the literal part at the end. -/
def extend (d : Draft) (text : String) : Draft :=
  { d with literal := some (d.literal.getD "" ++ text) }

def pushWord (d : Draft) (c : Char) : Draft :=
  { d.extend (String.singleton c) with source := d.source.push c }

/-- Notes a character of a quote, whose text is added when the quote ends. -/
def note (d : Draft) (c : Char) : Draft :=
  { d with source := d.source.push c, isWord := false }

/-- The parts, with the literal at the end among them. -/
def allParts (d : Draft) : List Expr :=
  match d.literal with
  | none => d.parts
  | some text => d.parts ++ [.literal text]

/-- Adds the value of a group that is written as `source`. -/
def pushGroup (d : Draft) (source : String) (e : Expr) : Draft :=
  ⟨d.offset, d.source ++ source, d.allParts ++ [e], none, false⟩

/-- The finished item: a single part stands for itself. -/
def toItem (d : Draft) : Item :=
  ⟨d.offset, d.source, d.isWord,
    match d.allParts with
    | [e] => e
    | parts => .concat parts⟩

end Draft

/-- A group whose closing brace has not been read, from the byte position of its opening brace on.
-/
structure Group where
  opened : Nat
  source : String
  items : List Item

namespace Group

/-- A group of which only the brace has been read. -/
def start (opened : Nat) : Group := ⟨opened, "\x7b", []⟩

def pushBlank (g : Group) (c : Char) : Group := { g with source := g.source.push c }

def pushItem (g : Group) (d : Draft) : Group :=
  ⟨g.opened, g.source ++ d.source, g.items ++ [d.toItem]⟩

/-- The node that a closed group stands for. -/
def value (g : Group) : Except CompileError Expr :=
  match g.items with
  | [] => .error (.emptyExpression g.opened)
  | [head] =>
    if head.isWord then
      if Text.isNumeral head.source.toList then
        match Text.natBelow? Text.indexBound head.source.toList with
        | some index => .ok (.argRef index)
        | none => .error (.invalidArgumentIndex head.source head.offset)
      else .ok (.call head.source [] head.offset)
    else .ok head.expr
  | head :: args =>
    if head.isWord then .ok (.call head.source (args.map Item.expr) head.offset)
    else .error (.unknownFunction head.source head.offset)

end Group

/-! ### The reader -/

/-- A group around the place where the reader stands, with its item that is being read. -/
abbrev Level := Group × Draft

/-- Where the reader stands: outside braces, after a run of literal text, between two items of a
group, in one of them, or in a quote of an item; `outer` lists the surrounding groups from the
inside out. -/
inductive Place where
  | outside (run : String)
  | between (group : Group) (outer : List Level)
  | inside (group : Group) (draft : Draft) (outer : List Level)
  | quoted (group : Group) (draft : Draft) (opened : Nat) (quote : Quoted.Unfinished)
      (outer : List Level)

/-- What is known after a part of a template: its length in bytes, the finished nodes, and the
place. -/
structure Reader where
  offset : Nat
  nodes : List Expr
  place : Place

namespace Reader

def start : Reader := ⟨0, [], .outside ""⟩

/-- The nodes with a run of literal text after them; an empty run adds none. -/
def withRun (nodes : List Expr) (run : String) : List Expr :=
  if run.isEmpty then nodes else nodes ++ [.literal run]

/-- Reads an opening brace below the given surrounding groups. -/
def openGroup (maxDepth offset : Nat) (outer : List Level) : Except CompileError Place :=
  if maxDepth < outer.length + 1 then .error (.nestingTooDeep maxDepth)
  else .ok (.between (Group.start offset) outer)

/-- Reads the closing brace of a group. -/
def closeGroup (nodes : List Expr) (g : Group) (outer : List Level) :
    Except CompileError (List Expr × Place) :=
  match g.value with
  | .error e => .error e
  | .ok e =>
    match outer with
    | [] => .ok (nodes ++ [e], .outside "")
    | (g', d') :: outer' =>
      .ok (nodes, .inside g' (d'.pushGroup (g.source.push '}') e) outer')

/-- Reads a character of an item that does not end it. -/
def readItem (maxDepth offset : Nat) (g : Group) (d : Draft) (outer : List Level) (c : Char) :
    Except CompileError Place :=
  if c == '{' then openGroup maxDepth offset ((g, d) :: outer)
  else if c == '"' then .ok (.quoted g (d.note c) offset Quoted.Unfinished.start outer)
  else .ok (.inside g (d.pushWord c) outer)

/-- The nodes and the place after one more character. -/
def advance (maxDepth offset : Nat) (nodes : List Expr) (place : Place) (c : Char) :
    Except CompileError (List Expr × Place) :=
  match place with
  | .outside run =>
    if c == '{' then
      (openGroup maxDepth offset []).map fun p => (withRun nodes run, p)
    else if c == '}' then .error (.unbalancedBraces offset)
    else .ok (nodes, .outside (run.push c))
  | .between g outer =>
    if Text.isBlank c then .ok (nodes, .between (g.pushBlank c) outer)
    else if c == '}' then closeGroup nodes g outer
    else (readItem maxDepth offset g (Draft.start offset) outer c).map fun p => (nodes, p)
  | .inside g d outer =>
    if Text.isBlank c then .ok (nodes, .between ((g.pushItem d).pushBlank c) outer)
    else if c == '}' then closeGroup nodes (g.pushItem d) outer
    else (readItem maxDepth offset g d outer c).map fun p => (nodes, p)
  | .quoted g d opened q outer =>
    match q.step c with
    | .closed text => .ok (nodes, .inside g ((d.note c).extend text) outer)
    | .more q' => .ok (nodes, .quoted g (d.note c) opened q' outer)

/-- Reads one character. -/
def step (maxDepth : Nat) (r : Reader) (c : Char) : Except CompileError Reader :=
  (advance maxDepth r.offset r.nodes r.place c).map fun (nodes, place) =>
    ⟨r.offset + c.utf8Size, nodes, place⟩

/-- Reads a text. -/
def run (maxDepth : Nat) (r : Reader) (cs : List Char) : Except CompileError Reader :=
  cs.foldlM (step maxDepth) r

/-- The nodes of a template that ends here; a template without any is one empty literal. -/
def finish (r : Reader) : Except CompileError (List Expr) :=
  match r.place with
  | .outside run =>
    if run.isEmpty && r.nodes.isEmpty then .ok [.literal ""] else .ok (withRun r.nodes run)
  | .between g _ => .error (.unbalancedBraces g.opened)
  | .inside g _ _ => .error (.unbalancedBraces g.opened)
  | .quoted _ _ opened _ _ => .error (.unterminatedQuote opened)

end Reader

/-- Reads a template within limits. -/
def parse (limits : Limits) (template : String) : Except CompileError (List Expr) :=
  if limits.maxLength < template.utf8ByteSize then
    .error (.templateTooLong template.utf8ByteSize limits.maxLength)
  else
    match Reader.start.run limits.maxDepth template.toList with
    | .error e => .error e
    | .ok r => r.finish

end CacheKeys.Template
