import CacheKeys.NameTable
import CacheKeys.Request.Device
import CacheKeys.Text.Ascii

/-! # Requests

What a cache key can depend on.  Names of query parameters, headers and cookies have one value
each, the one given last; header names are the same in lowercase and uppercase. -/

namespace CacheKeys

/-- Where a request comes from. -/
structure Location where
  country : Option String
  region : Option String
  city : Option String
  deriving DecidableEq

/-- The data of a request that keys are derived from; the method is in uppercase, and headers have
their names in lowercase. -/
structure Request where
  method : String
  path : String
  query : NameTable String
  headers : NameTable String
  cookies : NameTable String
  user : Option String
  location : Option Location
  device : Option Device

namespace Request

/-- A request of which only method and path are known. -/
def make (method path : String) : Request :=
  ⟨method.toUpper, path, .empty, .empty, .empty, none, none, none⟩

def withQuery (r : Request) (name value : String) : Request :=
  { r with query := r.query.insert name value }

def withHeader (r : Request) (name value : String) : Request :=
  { r with headers := r.headers.insert name.toLower value }

def withCookie (r : Request) (name value : String) : Request :=
  { r with cookies := r.cookies.insert name value }

def withUser (r : Request) (user : String) : Request := { r with user := some user }

def withLocation (r : Request) (location : Location) : Request :=
  { r with location := some location }

def withDevice (r : Request) (device : Device) : Request := { r with device := some device }

/-- The value of a header, however its name is spelt. -/
def header? (r : Request) (name : String) : Option String := r.headers.get? name.toLower

/-- The parts of the path that are not empty. -/
def segments (r : Request) : List String :=
  (Text.pieces '/' r.path).filter (fun s => !s.isEmpty)

/-- All query parameters in one text, in the order of their names. -/
def canonicalQuery (r : Request) : String :=
  String.intercalate "&" (r.query.entries.map fun p => p.1 ++ "=" ++ p.2)

/-- The header by which a request asks how its key was derived. -/
def debugHeader : String := "X-Debug-Cache"

/-- Whether the request asks how its key was derived. -/
def wantsDebug (r : Request) : Bool := r.header? debugHeader == some "1"

end Request

end CacheKeys
