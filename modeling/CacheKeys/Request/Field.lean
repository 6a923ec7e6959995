import CacheKeys.Request.Basic
import CacheKeys.Text.Numeral

/-! # Request fields

The parts of a request that a rule can name as inputs, the texts by which they are named, and their
values.  A field that a request does not have is empty. -/

namespace CacheKeys

/-- A part of a request, or a fixed text; empty segments of the path do not count. -/
inductive Field where
  | method
  | path
  | segment (index : Nat)
  | query
  | queryParam (name : String)
  | header (name : String)
  | cookie (name : String)
  | user
  | country
  | region
  | city
  | device
  | literal (text : String)
  deriving DecidableEq

/-- A text that names no field. -/
structure UnknownField where
  text : String
  deriving DecidableEq

def UnknownField.message (e : UnknownField) : String :=
  "Unknown context field `" ++ e.text ++ "`"

namespace Field

def text : Field → String
  | method => "method"
  | path => "path"
  | segment index => "segment:" ++ toString index
  | query => "query"
  | queryParam name => "query:" ++ name
  | header name => "header:" ++ name
  | cookie name => "cookie:" ++ name
  | user => "user"
  | country => "country"
  | region => "region"
  | city => "city"
  | device => "device"
  | literal text => "literal:" ++ text

/-- The fields that are named by a word alone. -/
def simple : List Field := [method, path, query, user, country, region, city, device]

/-- The field of a kind that takes a name, an index or a text. -/
def withArgument? (kind argument : String) : Option Field :=
  if kind = "segment" then (Text.readIndex? argument).map segment
  else if kind = "literal" then some (literal argument)
  else if argument.isEmpty then none
  else if kind = "query" then some (queryParam argument)
  else if kind = "header" then some (header argument.toLower)
  else if kind = "cookie" then some (cookie argument)
  else none

def ofText? (s : String) : Option Field :=
  match Text.splitFirst? ':' s with
  | none => simple.find? fun f => f.text == s
  | some (kind, argument) => withArgument? kind argument

/-- The field that a text names, or the text as an error. -/
def parse (s : String) : Except UnknownField Field :=
  match ofText? s with
  | some f => .ok f
  | none => .error ⟨s⟩

/-- The value of a field in a request that has it. -/
def value? (r : Request) : Field → Option String
  | method => some r.method
  | path => some r.path
  | segment index => r.segments[index]?
  | query => some r.canonicalQuery
  | queryParam name => r.query.get? name
  | header name => r.header? name
  | cookie name => r.cookies.get? name
  | user => r.user
  | country => r.location.bind (·.country)
  | region => r.location.bind (·.region)
  | city => r.location.bind (·.city)
  | device => r.device.map Device.name
  | literal text => some text

/-- The value of a field, empty if the request does not have it. -/
def resolve (f : Field) (r : Request) : String := (f.value? r).getD ""

end Field

end CacheKeys
