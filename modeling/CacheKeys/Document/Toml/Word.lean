import CacheKeys.Decimal.Overflow
import CacheKeys.Document.Basic

/-! # Words in TOML

Values that are written without quotes: truth values, integers in four bases, floats, and dates and
times.  Digits may be grouped by single underscores. -/

namespace CacheKeys.Toml

/-! ### Numbers -/

/-- Digits without the underscores between them. -/
def digits? (base : Nat) (cs : List Char) : Option (List Char) :=
  let isGroup := fun g : List Char => !g.isEmpty && g.all fun c => (Text.digitValue? base c).isSome
  if (cs.splitOn '_').all isGroup then some (cs.filter (· != '_')) else none

def digitsValue (base : Nat) (cs : List Char) : Nat :=
  cs.foldl (fun n c => n * base + (Text.digitValue? base c).getD 0) 0

/-- Decimal digits without a needless zero in front. -/
def wholeDigits? (cs : List Char) : Option (List Char) :=
  (digits? 10 cs).filter fun ds => ds.length == 1 || ds.head? != some '0'

/-- A sign, if there is one, and the rest. -/
def splitSign : List Char → Option Char × List Char
  | '+' :: cs => (some '+', cs)
  | '-' :: cs => (some '-', cs)
  | cs => (none, cs)

/-- The base that digits are marked with. -/
def base? : List Char → Option (Nat × List Char)
  | '0' :: 'x' :: cs => some (16, cs)
  | '0' :: 'o' :: cs => some (8, cs)
  | '0' :: 'b' :: cs => some (2, cs)
  | _ => none

/-- An integer of 64 bits; only a decimal one can have a sign. -/
def integer? (word : List Char) : Option Document :=
  let within := fun (negative : Bool) (n : Nat) =>
    if n < Text.integerBound then some (Document.integer (if negative then -(n : Int) else n))
    else if negative && n == Text.integerBound then some (.integer (-(n : Int)))
    else none
  match base? word with
  | some (base, cs) => (digits? base cs).bind fun ds => within false (digitsValue base ds)
  | none =>
    let (sign, cs) := splitSign word
    (wholeDigits? cs).bind fun ds => within (sign == some '-') (digitsValue 10 ds)

/-- Whether this is the exponent of a float. -/
def isExponent : List Char → Bool
  | c :: cs => (c == 'e' || c == 'E') && (digits? 10 (splitSign cs).2).isSome
  | [] => false

/-- Whether this is a fraction, with or without an exponent. -/
def isFraction : List Char → Bool
  | '.' :: cs =>
    let isDigit := fun c : Char => c.isDigit || c == '_'
    let rest := cs.dropWhile isDigit
    (digits? 10 (cs.takeWhile isDigit)).isSome && (rest.isEmpty || isExponent rest)
  | _ => false

/-- The value of the digits of a float without sign and underscores. -/
def floatValue (cs : List Char) : Decimal.Scientific :=
  let whole := cs.takeWhile Char.isDigit
  let tail := cs.dropWhile Char.isDigit
  let fraction := match tail with
    | '.' :: rest => rest.takeWhile Char.isDigit
    | _ => []
  let exponent : Int := match tail.dropWhile fun c => c == '.' || c.isDigit with
    | _ :: rest =>
      match splitSign rest with
      | (some '-', ds) => -(Text.numeralValue ds : Int)
      | (_, ds) => Text.numeralValue ds
    | [] => 0
  ⟨Text.numeralValue (whole ++ fraction), exponent - fraction.length⟩

/-- A float, or one of the words for what is no finite number.  Digits for what is too great to be a
finite number are refused unless it is negative. -/
def float? (word : List Char) : Option Document :=
  let (sign, cs) := splitSign word
  let isWhole := fun c : Char => c.isDigit || c == '_'
  let tail := cs.dropWhile isWhole
  let isNumber :=
    (wholeDigits? (cs.takeWhile isWhole)).isSome && (isFraction tail || isExponent tail) &&
      (sign == some '-' || !(floatValue (cs.filter (· != '_'))).isInfinite)
  if isNumber || cs == "inf".toList || cs == "nan".toList then some (.decimal (String.ofList word))
  else none

/-! ### Dates and times -/

/-- A number of so many digits within bounds, and the rest. -/
def field? (width least greatest : Nat) (cs : List Char) : Option (Nat × List Char) :=
  let ds := cs.take width
  let n := Text.numeralValue ds
  if ds.length = width ∧ Text.isNumeral ds ∧ least ≤ n ∧ n ≤ greatest then some (n, cs.drop width)
  else none

/-- What follows a mark. -/
def after? (mark : Char) : List Char → Option (List Char)
  | c :: cs => if c == mark then some cs else none
  | [] => none

def daysIn (year month : Nat) : Nat :=
  if month = 2 then
    if year % 4 = 0 ∧ (year % 100 ≠ 0 ∨ year % 400 = 0) then 29 else 28
  else if month = 4 ∨ month = 6 ∨ month = 9 ∨ month = 11 then 30
  else 31

def skipDate? (cs : List Char) : Option (List Char) := do
  let (year, cs) ← field? 4 0 9999 cs
  let (month, cs) ← field? 2 1 12 (← after? '-' cs)
  let (_, cs) ← field? 2 1 (daysIn year month) (← after? '-' cs)
  return cs

/-- Passes over a time; a second can be a leap second. -/
def skipTime? (cs : List Char) : Option (List Char) := do
  let (_, cs) ← field? 2 0 23 cs
  let (_, cs) ← field? 2 0 59 (← after? ':' cs)
  let (_, cs) ← field? 2 0 60 (← after? ':' cs)
  match cs with
  | '.' :: rest =>
    if (rest.takeWhile Char.isDigit).isEmpty then none else return rest.dropWhile Char.isDigit
  | _ => return cs

/-- Whether this is an offset from universal time, or nothing. -/
def isOffset (cs : List Char) : Bool :=
  match splitSign cs with
  | (none, rest) => rest.isEmpty || rest == ['Z'] || rest == ['z']
  | (some _, rest) =>
    let minutes := do
      let (_, cs) ← field? 2 0 23 rest
      field? 2 0 59 (← after? ':' cs)
    match minutes with
    | some (_, []) => true
    | _ => false

/-- Whether this is a date, a time or both. -/
def isMoment (cs : List Char) : Bool :=
  match skipDate? cs with
  | some [] => true
  | some (mark :: rest) =>
    (mark == 'T' || mark == 't' || mark == ' ') &&
      match skipTime? rest with
      | some tail => isOffset tail
      | none => false
  | none => skipTime? cs == some []

/-- A date or time as a document. -/
def moment? (word : List Char) : Option Document :=
  if isMoment word then some (.table [("moment", .text (String.ofList word))])
  else none

/-! ### Words -/

def isWordChar (c : Char) : Bool :=
  c.isAlphanum || c == '_' || c == '+' || c == '-' || c == '.' || c == ':'

/-- The value of a word. -/
def word? (word : List Char) : Option Document :=
  if word == "true".toList then some (.bool true)
  else if word == "false".toList then some (.bool false)
  else moment? word <|> integer? word <|> float? word

/-- The longest word at the beginning of a text, and the rest.  A date goes on after a space if a
time follows. -/
def splitWord (cs : List Char) : List Char × List Char :=
  let word := cs.takeWhile isWordChar
  match cs.dropWhile isWordChar with
  | ' ' :: d :: rest =>
    if skipDate? word == some [] && d.isDigit then
      (word ++ ' ' :: (d :: rest).takeWhile isWordChar, (d :: rest).dropWhile isWordChar)
    else (word, ' ' :: d :: rest)
  | rest => (word, rest)

end CacheKeys.Toml
