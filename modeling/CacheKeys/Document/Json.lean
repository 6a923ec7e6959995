import CacheKeys.Document.Basic

/-! # JSON

Documents written as JSON, on one line or indented by two spaces, and read from it.  Reading goes in
two passes over the text, first to tokens and then to a tree; each pass takes one character or one
token at a time.  Halves of surrogate pairs that are not paired can be passed over but not read. -/

namespace CacheKeys.Json

/-- A record has no more items than fields, and only null stands for no value. -/
def dialect : Document.Dialect where
  surplus := false
  isNothing
    | .null => true
    | _ => false

/-! ### Writing -/

/-- A control character as its code point in four hexadecimal digits. -/
def controlEscape (c : Char) : List Char :=
  ['\\', 'u', '0', '0', Nat.digitChar (c.toNat / 16), Nat.digitChar (c.toNat % 16)]

/-- A character inside a text: quotes, backslashes and control characters are escaped. -/
def escapeChar (c : Char) : List Char :=
  if c == '"' then ['\\', '"']
  else if c == '\\' then ['\\', '\\']
  else if c == '\n' then ['\\', 'n']
  else if c == '\r' then ['\\', 'r']
  else if c == '\t' then ['\\', 't']
  else if c == '\x08' then ['\\', 'b']
  else if c == '\x0c' then ['\\', 'f']
  else if c.toNat < 32 then controlEscape c
  else [c]

/-- A text in quotes. -/
def quote (s : String) : String :=
  String.ofList ('"' :: (s.toList.flatMap escapeChar ++ ['"']))

/-- How items are separated and enclosed: what stands before an item at a depth, and between a name
and its value. -/
structure Layout where
  lineBreak : Nat → String
  afterName : String

/-- Everything on one line, without spaces. -/
def Layout.compact : Layout := ⟨fun _ => "", ":"⟩

/-- Every item on a line of its own, indented by two spaces a level. -/
def Layout.indented : Layout :=
  ⟨fun depth => String.ofList ('\n' :: List.replicate (2 * depth) ' '), ": "⟩

mutual

/-- The document as JSON at a depth. -/
def write (layout : Layout) (depth : Nat) : Document → String
  | .null => "null"
  | .bool b => if b then "true" else "false"
  | .integer n => toString n
  | .decimal numeral => numeral
  | .text s => quote s
  | .list [] => "[]"
  | .list (d :: ds) =>
    "[" ++ layout.lineBreak (depth + 1) ++ write layout (depth + 1) d ++
      writeItems layout (depth + 1) ds ++ layout.lineBreak depth ++ "]"
  | .table [] => "\x7b\x7d"
  | .table ((name, d) :: fs) =>
    "\x7b" ++ layout.lineBreak (depth + 1) ++ quote name ++ layout.afterName ++
      write layout (depth + 1) d ++ writeFields layout (depth + 1) fs ++ layout.lineBreak depth ++
      "\x7d"
  | .unreadable => "null"

def writeItems (layout : Layout) (depth : Nat) : List Document → String
  | [] => ""
  | d :: ds =>
    "," ++ layout.lineBreak depth ++ write layout depth d ++ writeItems layout depth ds

def writeFields (layout : Layout) (depth : Nat) : List (String × Document) → String
  | [] => ""
  | (name, d) :: fs =>
    "," ++ layout.lineBreak depth ++ quote name ++ layout.afterName ++ write layout depth d ++
      writeFields layout depth fs

end

/-- The document on one line. -/
def compact (d : Document) : String := write Layout.compact 0 d

/-- The document with every item on a line of its own. -/
def pretty (d : Document) : String := write Layout.indented 0 d

/-! ### Numbers -/

/-- The digits at the beginning of a text, and the rest. -/
def spanDigits (cs : List Char) : List Char × List Char :=
  (cs.takeWhile Char.isDigit, cs.dropWhile Char.isDigit)

/-- Whether what follows the digits before the point is nothing, an exponent, or a fraction with an
optional exponent. -/
def isNumberTail (cs : List Char) : Bool :=
  let isEnd := fun rest : List Char => rest.isEmpty || Text.isExponent rest
  match cs with
  | '.' :: rest => !(spanDigits rest).1.isEmpty && isEnd (spanDigits rest).2
  | rest => isEnd rest

/-- Reads a number.  There are no leading zeros, and a negative zero is no integer. -/
def number? (word : List Char) : Option Document :=
  let negative := word.head? == some '-'
  let (digits, tail) := spanDigits (if negative then word.drop 1 else word)
  let n := Text.numeralValue digits
  if digits.isEmpty || (digits.head? == some '0' && digits.length > 1) then none
  else if tail.isEmpty && !(negative && n == 0) then
    some (.integer (if negative then -(n : Int) else n))
  else if isNumberTail tail then some (.decimal (String.ofList word))
  else none

/-- Reads a number or one of the three words. -/
def scalar? (word : String) : Option Document :=
  if word = "null" then some .null
  else if word = "true" then some (.bool true)
  else if word = "false" then some (.bool false)
  else number? word.toList

/-! ### Tokens -/

/-- The smallest meaningful parts of a text; a quoted text that cannot be read is `none`. -/
inductive Token where
  | openTable
  | closeTable
  | openList
  | closeList
  | comma
  | colon
  | text (s : Option String)
  | scalar (d : Document)

/-- What the next character of a quoted text continues: plain text, an escape after its backslash,
or a code point with some digits missing. -/
inductive QuoteMode where
  | plain
  | escape
  | code (missing value : Nat)

/-- A quoted text of which some characters have been read: the text so far, if it can be read, and
the first half of a surrogate pair whose second half has to follow. -/
structure Quote where
  text : Option String
  mode : QuoteMode
  high : Option Nat

def shortEscape? (c : Char) : Option Char :=
  if c == '"' || c == '\\' || c == '/' then some c
  else if c == 'b' then some '\x08'
  else if c == 'f' then some '\x0c'
  else if c == 'n' then some '\n'
  else if c == 'r' then some '\r'
  else if c == 't' then some '\t'
  else none

def Quote.push (q : Quote) (c : Char) : Quote :=
  ⟨q.text.map (·.push c), .plain, none⟩

/-- Whether a code point is the first half of a surrogate pair. -/
def isHigh (n : Nat) : Bool := 0xD800 ≤ n && n ≤ 0xDBFF

/-- Whether a code point is the second half of a surrogate pair. -/
def isLow (n : Nat) : Bool := 0xDC00 ≤ n && n ≤ 0xDFFF

/-- Adds a code point of four digits.  With half a surrogate pair alone the text cannot be read. -/
def Quote.pushCode (q : Quote) (n : Nat) : Quote :=
  match q.high with
  | some h =>
    if isLow n then q.push (Char.ofNat (0x10000 + (h - 0xD800) * 0x400 + (n - 0xDC00)))
    else ⟨none, .plain, none⟩
  | none =>
    if isHigh n then { q with mode := .plain, high := some n }
    else if isLow n then ⟨none, .plain, none⟩
    else q.push (Char.ofNat n)

/-- The text before a character that is no second half. -/
def Quote.settle (q : Quote) : Quote :=
  if q.high.isSome then { q with text := none, high := none } else q

/-- Reads a character of a quoted text; the closing quote gives the text. -/
def Quote.step (q : Quote) (c : Char) : Option (Option String ⊕ Quote) :=
  match q.mode with
  | .plain =>
    if c == '\\' then some (.inr { q with mode := .escape })
    else if c.toNat < 32 then none
    else if c == '"' then some (.inl q.settle.text)
    else some (.inr (q.settle.push c))
  | .escape =>
    if c == 'u' then some (.inr { q with mode := .code 4 0 })
    else (shortEscape? c).map fun c' => .inr (q.settle.push c')
  | .code missing value =>
    match Text.digitValue? 16 c with
    | none => none
    | some v =>
      if missing ≤ 1 then some (.inr (q.pushCode (value * 16 + v)))
      else some (.inr { q with mode := .code (missing - 1) (value * 16 + v) })

/-- What the reader of tokens is in the middle of. -/
inductive Unfinished where
  | nothing
  | word (w : String)
  | quote (q : Quote)

def punctuation? (c : Char) : Option Token :=
  if c == '{' then some .openTable
  else if c == '}' then some .closeTable
  else if c == '[' then some .openList
  else if c == ']' then some .closeList
  else if c == ',' then some .comma
  else if c == ':' then some .colon
  else none

def isSeparator (c : Char) : Bool := c == ' ' || c == '\t' || c == '\n' || c == '\r'

/-- Reads a character that begins something. -/
def beginToken (c : Char) : List Token × Unfinished :=
  if isSeparator c then ([], .nothing)
  else if c == '"' then ([], .quote ⟨some "", .plain, none⟩)
  else match punctuation? c with
    | some t => ([t], .nothing)
    | none => ([], .word (String.singleton c))

/-- Reads a character: the tokens that it completes, and what it leaves unfinished. -/
def tokenStep (u : Unfinished) (c : Char) : Option (List Token × Unfinished) :=
  match u with
  | .nothing => some (beginToken c)
  | .quote q =>
    (q.step c).map fun
      | .inl s => ([.text s], .nothing)
      | .inr q' => ([], .quote q')
  | .word w =>
    if isSeparator c || c == '"' || (punctuation? c).isSome then
      (scalar? w).map fun d => (.scalar d :: (beginToken c).1, (beginToken c).2)
    else some ([], .word (w.push c))

/-- The tokens of a text, after something unfinished. -/
def tokensFrom (u : Unfinished) : List Char → Option (List Token)
  | [] =>
    match u with
    | .nothing => some []
    | .word w => (scalar? w).map fun d => [.scalar d]
    | .quote _ => none
  | c :: cs =>
    match tokenStep u c with
    | none => none
    | some (ts, u') => (tokensFrom u' cs).map (ts ++ ·)

/-! ### Trees

Of a list or a table that is being read, the items or fields so far are kept with the latest
first. -/

/-- Values by name, where a name may be one that cannot be read. -/
abbrev Fields := List (Option String × Document)

/-- The list of items, which are given with the latest first. -/
def listOf (items : List Document) : Document := .list items.reverse

/-- The table of fields, which are given with the latest first; one of their names that cannot be
read makes it unreadable. -/
def tableOf (fields : Fields) : Document :=
  match fields.reverse.mapM fun f => f.1.map fun name => (name, f.2) with
  | some named => .table named
  | none => .unreadable

def textOf : Option String → Document
  | some s => .text s
  | none => .unreadable

/-- A list or table around the value that is being read. -/
inductive Frame where
  | list (items : List Document)
  | field (fields : Fields) (name : Option String)

/-- What the next token can be; a list or a table may end while it is still empty. -/
inductive Expect where
  | value (stack : List Frame) (mayEnd : Bool)
  | name (fields : Fields) (stack : List Frame) (mayEnd : Bool)
  | colon (fields : Fields) (name : Option String) (stack : List Frame)
  | itemEnd (items : List Document) (stack : List Frame)
  | fieldEnd (fields : Fields) (stack : List Frame)
  | nothing (d : Document)

/-- What follows a value. -/
def complete (d : Document) : List Frame → Expect
  | [] => .nothing d
  | .list items :: stack => .itemEnd (d :: items) stack
  | .field fields name :: stack => .fieldEnd ((name, d) :: fields) stack

def Expect.step : Expect → Token → Option Expect
  | .value stack _, .scalar d => some (complete d stack)
  | .value stack _, .text s => some (complete (textOf s) stack)
  | .value stack _, .openList => some (.value (.list [] :: stack) true)
  | .value stack _, .openTable => some (.name [] stack true)
  | .value (.list items :: stack) true, .closeList => some (complete (listOf items) stack)
  | .name fields stack _, .text s => some (.colon fields s stack)
  | .name fields stack true, .closeTable => some (complete (tableOf fields) stack)
  | .colon fields label stack, .colon => some (.value (.field fields label :: stack) false)
  | .itemEnd items stack, .comma => some (.value (.list items :: stack) false)
  | .itemEnd items stack, .closeList => some (complete (listOf items) stack)
  | .fieldEnd fields stack, .comma => some (.name fields stack false)
  | .fieldEnd fields stack, .closeTable => some (complete (tableOf fields) stack)
  | _, _ => none

/-- Reads a JSON text. -/
def read? (s : String) : Option Document :=
  match tokensFrom .nothing s.toList with
  | none => none
  | some tokens =>
    match tokens.foldlM Expect.step (.value [] false) with
    | some (.nothing d) => some d
    | _ => none

end CacheKeys.Json
