import CacheKeys.Text.Ascii

/-! # Workspaces

The files that a command sees, the directory in which it runs, and what is answered there when it
asks.  `Workspace.ofFiles` is a workspace held in memory, where nobody is asked. -/

namespace CacheKeys.CommandLine

/-- What a path leads to. -/
inductive Entry where
  | file (text : String)
  | directory
  | missing
  -- the path goes on after a file
  | beyondFile
  -- the path or a name in it is longer than any that exists
  | tooLong
  deriving DecidableEq

/-- Why a path cannot be read or written as a file. -/
inductive FileFault where
  | missing
  | directory
  | beyondFile
  | tooLong
  deriving DecidableEq

def FileFault.message : FileFault → String
  | missing => "No such file or directory (os error 2)"
  | directory => "Is a directory (os error 21)"
  | beyondFile => "Not a directory (os error 20)"
  | tooLong => "File name too long (os error 36)"

namespace Entry

def isPresent : Entry → Bool
  | file _ => true
  | directory => true
  | missing => false
  | beyondFile => false
  | tooLong => false

def contents : Entry → Except FileFault String
  | file text => .ok text
  | directory => .error .directory
  | missing => .error .missing
  | beyondFile => .error .beyondFile
  | tooLong => .error .tooLong

/-- Why no file can be written there, if its directory exists. -/
def writeFault? : Entry → Option FileFault
  | file _ => none
  | directory => some .directory
  | missing => none
  | beyondFile => some .beyondFile
  | tooLong => some .tooLong

end Entry

/-- What comes of asking whether a file is to be replaced. -/
inductive Answer where
  | replace
  | keep
  | noTerminal
  deriving DecidableEq

/-- A directory, what the paths seen from it lead to, be they absolute or not, and what is answered
there. -/
structure Workspace where
  directory : String
  entry : String → Entry
  answer : Answer

namespace Workspace

/-- A path in a directory. -/
def join (directory name : String) : String :=
  if directory.endsWith "/" then directory ++ name else directory ++ "/" ++ name

/-- All directories above the one whose path has these parts, the nearest first, and itself. -/
def ancestorsOf : List String → List String
  | [] => ["/"]
  | part :: parents =>
    String.join ((part :: parents).reverse.map ("/" ++ ·)) :: ancestorsOf parents

def parts (path : String) : List String := (Text.pieces '/' path).filter (fun s => !s.isEmpty)

/-- The directory and all above it, the nearest first. -/
def ancestors (w : Workspace) : List String := ancestorsOf (parts w.directory).reverse

/-! ### Workspaces in memory -/

/-- What files held in memory have under an absolute path. -/
def entryOf (files : List (List String × String)) (directories : List (List String))
    (path : List String) : Entry :=
  match files.lookup path with
  | some text => .file text
  | none =>
    if directories.any path.isPrefixOf || files.any (fun f => path.isPrefixOf f.1) then .directory
    else .missing

/-- The greatest length of a name, in bytes. -/
def maxNameSize : Nat := 255

/-- The greatest length of a path, in bytes. -/
def maxPathSize : Nat := 4095

/-- Follows the parts of a path from a directory. -/
def walk (entry : List String → Entry) (here : List String) : List String → Entry
  | [] => .directory
  | part :: rest =>
    if part = "" ∨ part = "." then walk entry here rest
    else if part = ".." then walk entry here.dropLast rest
    else if part.utf8ByteSize > maxNameSize then .tooLong
    else match entry (here ++ [part]) with
      | .directory => walk entry (here ++ [part]) rest
      | .file text => if rest.isEmpty then .file text else .beyondFile
      | other => other

def ofFiles (directory : String) (files : List (String × String)) : Workspace where
  directory := directory
  entry path :=
    let entry := entryOf (files.map fun f => (parts f.1, f.2)) [parts directory]
    if path.isEmpty then .missing
    else if path.utf8ByteSize > maxPathSize then .tooLong
    else walk entry (if path.startsWith "/" then [] else parts directory) (Text.pieces '/' path)
  answer := .noTerminal

end Workspace

end CacheKeys.CommandLine
