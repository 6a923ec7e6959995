import CacheKeys.Pattern.Reader
import CacheKeys.Text.Ascii

/-! # Log filters

A filter is a list of directives between commas.  A directive is a level, or a target with an
optional span, field and level: `target[span{field=value}]=level`.  A value is a number or a
pattern.  Here it is only decided which texts are filters. -/

namespace CacheKeys.LogFilter

/-! ### Levels -/

def levelNames : List String := ["error", "warn", "info", "debug", "trace", "off"]

/-- Whether a text is a level: nothing, a name however it is spelt, or a number up to five. -/
def isLevel (s : String) : Bool :=
  s.isEmpty || levelNames.contains s.toLower ||
    match Text.readIndex? s with
    | some n => n ≤ 5
    | none => false

/-! ### Fields -/

/-- The words for what is no finite number. -/
def numberWords : List String := ["inf", "infinity", "nan"]

/-- Whether a text is a number without a sign: a word however it is spelt, or digits with or without
a point before, among or after them, and with or without an exponent. -/
def isMagnitude (cs : List Char) : Bool :=
  let (fraction, rest) := match cs.dropWhile Char.isDigit with
    | '.' :: rest => (rest.takeWhile Char.isDigit, rest.dropWhile Char.isDigit)
    | rest => ([], rest)
  numberWords.contains (String.ofList cs).toLower ||
    (cs.takeWhile Char.isDigit ++ fraction != [] && (rest.isEmpty || Text.isExponent rest))

def isNumber (s : String) : Bool :=
  match s.toList with
  | '+' :: cs => isMagnitude cs
  | '-' :: cs => isMagnitude cs
  | cs => isMagnitude cs

/-- Whether the value of a field can be looked for. -/
def isValue (s : String) : Bool := isNumber s || (Pattern.read? s).any Pattern.isUsable

/-- Whether a text is a field: a name, and between the first two equals signs a value. -/
def isField (s : String) : Bool :=
  match Text.pieces '=' s with
  | _ :: value :: _ => isValue value
  | _ => true

/-! ### Directives -/

/-- Where the reader of a directive stands.  A level can stand alone in place of a target, and a
field begins after a number of bytes. -/
inductive Place where
  | start
  | target
  | span
  | field (first : Nat)
  | fieldEnd
  | spanEnd
  | level (text : String)

/-- A directive of which some characters have been read; if its field has been read, it lies between
two byte positions. -/
structure Draft where
  place : Place
  field : Option (Nat × Nat)

def isFirst (c : Char) : Bool := c == '-' || c == ':' || c == '_' || Text.isAlphanumeric c

/-- Reads a character of a directive after a number of bytes. -/
def Draft.step (d : Draft) (offset : Nat) (c : Char) : Option Draft :=
  let goOn := fun place : Place => some ⟨place, d.field⟩
  match d.place with
  | .start => if c == '[' then goOn .span else if isFirst c then goOn .target else none
  | .target =>
    if c == '=' then goOn (.level "") else if c == '[' then goOn .span else goOn .target
  | .span =>
    if c == ']' then goOn .spanEnd else if c == '{' then goOn (.field (offset + 1)) else goOn .span
  | .field first =>
    if c == '}' then if first = offset then none else some ⟨.fieldEnd, some (first, offset)⟩
    else goOn (.field first)
  | .fieldEnd => if c == ']' then goOn .spanEnd else none
  | .spanEnd => if c == '=' then goOn (.level "") else none
  | .level text => goOn (.level (text.push c))

/-- Reads characters after a number of bytes. -/
def Draft.run (d : Draft) (offset : Nat) : List Char → Option Draft
  | [] => some d
  | c :: cs =>
    match d.step offset c with
    | none => none
    | some next => next.run (offset + c.utf8Size) cs

/-- Whether a directive can end here.  One with spaces around it has no level of its own. -/
def Place.canEnd (spaced : Bool) : Place → Bool
  | .target => true
  | .spanEnd => true
  | .level text => !spaced && isLevel text
  | _ => false

/-- Whether a text is a directive.  It is read without the spaces around it, but the bytes of its
field are counted from the first space on. -/
def isDirective (s : String) : Bool :=
  let trimmed := Text.trimSpaces s
  match Draft.run ⟨.start, none⟩ 0 trimmed.toList with
  | none => false
  | some d =>
    d.place.canEnd (trimmed != s) &&
      d.field.all fun f => (Text.bytesBetween? f.1 f.2 s).any isField

/-! ### Filters -/

/-- Whether a text is a filter; between two commas there may be nothing. -/
def isValid (s : String) : Bool :=
  (Text.pieces ',' s).all fun piece => piece.isEmpty || isDirective piece

/-- Whether logging can be set up: the environment's filter is used if it is one, and else the
configured one. -/
def isUsable (environment : Option String) (configured : String) : Bool :=
  environment.any isValid || isValid configured

end CacheKeys.LogFilter
