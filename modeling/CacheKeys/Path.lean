import CacheKeys.Text.Ascii

/-! # Paths

Lexical operations on paths whose elements are separated by slashes.  `clean` gives a path without
superfluous elements; `base`, `dir` and `ext` take a path apart at its last element. -/

namespace CacheKeys.Path

/-- Takes one more element: empty elements and single dots do nothing, and two dots take back the
last name, if there is one that is not two dots itself.  The stack lists elements from the last. -/
def push (rooted : Bool) (stack : List String) (element : String) : List String :=
  if element = "" ∨ element = "." then stack
  else if element = ".." then
    match stack with
    | top :: rest => if top = ".." then (if rooted then stack else element :: stack) else rest
    | [] => if rooted then [] else [element]
  else element :: stack

def isRooted (path : String) : Bool := path.toList.head? == some '/'

def elements (path : String) : List String :=
  ((Text.pieces '/' path).foldl (push (isRooted path)) []).reverse

/-- The shortest path that leads to the same place; a single dot if nothing remains. -/
def clean (path : String) : String :=
  let joined := String.intercalate "/" (elements path)
  if isRooted path then "/" ++ joined
  else if joined.isEmpty then "."
  else joined

/-- The last element, where slashes at the end do not count; a dot for the empty path and a slash
for a path of slashes. -/
def base (path : String) : String :=
  if path.isEmpty then "."
  else match path.toList.reverse.dropWhile (fun c => c == '/') with
    | [] => "/"
    | rest => String.ofList (rest.takeWhile (fun c => c != '/')).reverse

/-- Everything up to the last slash, cleaned. -/
def dir (path : String) : String :=
  clean (String.ofList (path.toList.reverse.dropWhile (fun c => c != '/')).reverse)

/-- What follows the last slash from its last dot on; empty if there is no dot. -/
def ext (path : String) : String :=
  let cs := path.toList.reverse
  let isEnd := fun c : Char => c == '/' || c == '.'
  match cs.dropWhile (fun c => !isEnd c) with
  | '.' :: _ => String.ofList ('.' :: (cs.takeWhile (fun c => !isEnd c)).reverse)
  | _ => ""

end CacheKeys.Path
