import CacheKeys.Path
import CacheKeys.TextFunction

/-! # Builtin path functions

The three ways of taking a path apart, as functions that templates can call. -/

namespace CacheKeys.Builtin

/-- The last element of a path. -/
def pathBase : TextFunction where
  name := "path_base"
  arity := .exactly 1
  summary := "Last element of a path"
  meaning args := .ok (Path.base (args.text 0))

/-- A path without its last element. -/
def pathDir : TextFunction where
  name := "path_dir"
  arity := .exactly 1
  summary := "Everything but the last element of a path"
  meaning args := .ok (Path.dir (args.text 0))

/-- The extension of the last element of a path. -/
def pathExt : TextFunction where
  name := "path_ext"
  arity := .exactly 1
  summary := "Extension of the last element, including the dot"
  meaning args := .ok (Path.ext (args.text 0))

end CacheKeys.Builtin
