import CacheKeys.Builtin.Paths
import CacheKeys.Builtin.Strings
import CacheKeys.Registry

/-! # The builtin functions

The functions that every template can call, and the registry that holds exactly them. -/

namespace CacheKeys

namespace Builtin

def functions : List TextFunction :=
  [substr, select, lower, upper, len, pathBase, pathDir, pathExt]

end Builtin

/-- The registry of the builtin functions. -/
def Registry.builtin : Registry := Registry.ofList Builtin.functions

end CacheKeys
