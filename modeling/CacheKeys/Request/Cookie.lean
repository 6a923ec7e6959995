import CacheKeys.Text.Space

/-! # Cookies

The pairs of a cookie header: segments between semicolons, each with a name before its first equals
sign and a value after it. -/

namespace CacheKeys.Cookie

/-- The text without quotes at both ends. -/
def trimQuotes (s : String) : String :=
  String.ofList (Text.trimChars (fun c => c == '"') s.toList)

/-- The pair of a segment; none without an equals sign or with a blank name. -/
def pair? (segment : String) : Option (String × String) :=
  match Text.splitFirst? '=' segment with
  | none => none
  | some (name, value) =>
    let name := Text.trimSpaces name
    if name.isEmpty then none else some (name, trimQuotes (Text.trimSpaces value))

/-- The pairs of a cookie header, in order. -/
def pairs (header : String) : List (String × String) :=
  (Text.pieces ';' header).filterMap pair?

end CacheKeys.Cookie
