import CacheKeys.Request.Basic
import CacheKeys.Request.Cookie
import CacheKeys.Request.Form
import CacheKeys.Request.Uri

/-! # Requests over HTTP

The request data that an HTTP request carries.  Header values are bytes.  Those of one header are
joined, cookies overwrite each other, and values beyond visible ASCII are passed over. -/

namespace CacheKeys

/-- An HTTP request whose parts are well formed, with its headers in order and their names in
lowercase. -/
structure HttpRequest where
  method : String
  target : Target
  headers : List (String × List UInt8)

/-- Which part of an HTTP request is malformed. -/
inductive HttpError where
  | method
  | uri
  | headerName
  | headerValue
  deriving DecidableEq

namespace HttpRequest

/-- Characters of methods and header names. -/
def isTokenChar (c : Char) : Bool :=
  Target.isAlphanumeric c || "!#$%&'*+-.^_`|~".toList.contains c

def isToken (s : String) : Bool := !s.isEmpty && s.toList.all isTokenChar

def maxNameLength : Nat := 65535

def isValueByte (b : UInt8) : Bool := b == 9 || (b ≥ 32 && b != 127)

/-- Whether a byte of a header value is visible ASCII, a space or a tab. -/
def isVisible (b : UInt8) : Bool := b == 9 || (b ≥ 32 && b < 127)

/-- The text of a header value, if all of it is visible. -/
def text? (value : List UInt8) : Option String :=
  if value.all isVisible then some (String.ofList (value.map fun b => Char.ofNat b.toNat))
  else none

/-- Checks a header, its name before its value. -/
def header (name : String) (value : List UInt8) : Except HttpError (String × List UInt8) :=
  if !isToken name || name.length > maxNameLength then .error .headerName
  else if !value.all isValueByte then .error .headerValue
  else .ok (name.toLower, value)

/-- Checks the parts of a request: the method, the target, and the headers in order. -/
def ofParts (method uri : String) (headers : List (String × List UInt8)) :
    Except HttpError HttpRequest :=
  if !isToken method then .error .method
  else match Target.ofText? uri with
    | none => .error .uri
    | some target =>
      match headers.mapM (fun h => header h.1 h.2) with
      | .error e => .error e
      | .ok hs => .ok ⟨method, target, hs⟩

/-- Headers whose values are texts. -/
def encoded (headers : List (String × String)) : List (String × List UInt8) :=
  headers.map fun h => (h.1, Text.Utf8.encode h.2)

/-- Checks the parts of a request whose header values are texts. -/
def make (method uri : String) (headers : List (String × String)) :
    Except HttpError HttpRequest :=
  ofParts method uri (encoded headers)

end HttpRequest

namespace Request

/-- Adds a header of an HTTP request: its value is joined to earlier ones of the same name, and a
cookie header also sets its cookies. -/
def addHeader (r : Request) (name : String) (value : List UInt8) : Request :=
  match HttpRequest.text? value with
  | none => r
  | some text =>
    let cookies := if name = "cookie" then r.cookies.insertAll (Cookie.pairs text) else r.cookies
    let join : Option String → String
      | some earlier => earlier ++ ", " ++ text
      | none => text
    { r with cookies := cookies, headers := r.headers.set name join }

/-- Sets the device that the user agent names, if there is one. -/
def detectDevice (r : Request) : Request :=
  { r with device := (r.header? "user-agent").map Device.ofUserAgent }

/-- The data of an HTTP request. -/
def ofHttp (h : HttpRequest) : Request :=
  let query := match h.target.query with
    | some q => NameTable.ofList (Form.pairs q)
    | none => NameTable.empty
  let r := { Request.make h.method h.target.path with query := query }
  (h.headers.foldl (fun r p => r.addHeader p.1 p.2) r).detectDevice

end Request

end CacheKeys
