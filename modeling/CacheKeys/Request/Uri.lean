import CacheKeys.Text.Utf8

/-! # Targets of HTTP requests

The path and the query of a request target.  A target is an asterisk, a path with an optional
query, an address alone, or a scheme, an address and a path.  Everything after a number sign is
left out. -/

namespace CacheKeys

/-- What a request target tells about a request; the query stands without its question mark. -/
structure Target where
  path : String
  query : Option String
  deriving DecidableEq

namespace Target

/-- The greatest length of a target in bytes. -/
def maxLength : Nat := 65534

def maxSchemeLength : Nat := 64

/-- Whether a character is an ASCII letter or digit. -/
def isAlphanumeric (c : Char) : Bool := c.isAlpha || c.isDigit

def isSchemeChar (c : Char) : Bool :=
  isAlphanumeric c || c == '+' || c == '-' || c == '.' || c == '~'

/-- Characters of addresses that have no meaning of their own. -/
def isAddressChar (c : Char) : Bool :=
  isAlphanumeric c || "!$&'()*+,-.;=_~".toList.contains c

def isPathChar (c : Char) : Bool :=
  let n := c.toNat
  n == 0x21 || (0x24 ≤ n && n ≤ 0x3B) || n == 0x3D || (0x40 ≤ n && n ≤ 0x5F) ||
    (0x61 ≤ n && n ≤ 0x7A) || n == 0x7C || n == 0x7E || 0x80 ≤ n || c == '"' || c == '{' || c == '}'

def isQueryChar (c : Char) : Bool :=
  let n := c.toNat
  n == 0x21 || (0x24 ≤ n && n ≤ 0x3B) || n == 0x3D || (0x3F ≤ n && n ≤ 0x7E) || 0x80 ≤ n

/-- Reads a path and a query up to the end or a number sign. -/
def ofPathAndQuery? (cs : List Char) : Option Target :=
  let cs := cs.takeWhile (fun c => c != '#')
  let path := cs.takeWhile (fun c => c != '?')
  let shownPath := if path.isEmpty then "/" else String.ofList path
  if !path.all isPathChar then none
  else match cs.dropWhile (fun c => c != '?') with
    | [] => some ⟨shownPath, none⟩
    | _ :: query =>
      if query.all isQueryChar then some ⟨shownPath, some (String.ofList query)⟩ else none

/-- What is known after a part of an address: colons, brackets and percent signs since the last at
sign or closing bracket, and whether the last character was an at sign. -/
structure Address where
  colons : Nat
  opened : Bool
  closed : Bool
  percent : Bool
  atSign : Bool

/-- Reads a character of an address. -/
def Address.step (a : Address) (c : Char) : Option Address :=
  let a' := { a with atSign := false }
  if c == ':' then if a.colons ≥ 8 then none else some { a' with colons := a.colons + 1 }
  else if c == '[' then if a.percent || a.opened then none else some { a' with opened := true }
  else if c == ']' then
    if !a.opened || a.closed then none
    else some { a' with closed := true, colons := 0, percent := false }
  else if c == '@' then some { a' with colons := 0, percent := false, atSign := true }
  else if c == '%' then some { a' with percent := true }
  else if isAddressChar c then some a'
  else none

/-- Whether an address can end here: brackets are paired, at most one colon follows the host, and
the host follows the user. -/
def Address.isComplete (a : Address) : Bool :=
  a.opened == a.closed && decide (a.colons ≤ 1) && !a.atSign && !a.percent

def isAddress (cs : List Char) : Bool :=
  match cs.foldlM Address.step ⟨0, false, false, false, false⟩ with
  | some a => a.isComplete
  | none => false

/-- Where an address ends. -/
def endsAddress (c : Char) : Bool := c == '/' || c == '?' || c == '#'

/-- The scheme of a target and what follows its colon and slashes. -/
def scheme? (cs : List Char) : Option (List Char × List Char) :=
  match cs.takeWhile isSchemeChar, cs.dropWhile isSchemeChar with
  | scheme, ':' :: '/' :: '/' :: rest => some (scheme, rest)
  | _, _ => none

/-- Reads a target that does not begin with a slash. -/
def ofFull? (cs : List Char) : Option Target :=
  match scheme? cs with
  | none => if isAddress cs then some ⟨"", none⟩ else none
  | some (scheme, rest) =>
    let address := rest.takeWhile (fun c => !endsAddress c)
    if scheme.length > maxSchemeLength || address.isEmpty || !isAddress address then none
    else ofPathAndQuery? (rest.dropWhile (fun c => !endsAddress c))

def ofText? (s : String) : Option Target :=
  if s.utf8ByteSize > maxLength then none
  else match s.toList with
    | [] => none
    | ['*'] => some ⟨"*", none⟩
    | '/' :: cs => ofPathAndQuery? ('/' :: cs)
    | cs => ofFull? cs

end Target

end CacheKeys
