import CacheKeys.NameTable
import CacheKeys.TextFunction

/-! # Registries

The functions that a template may call, by name.  A function that is registered later replaces one
of the same name. -/

namespace CacheKeys

/-- The functions that templates can call, in the order of their names. -/
structure Registry where
  table : NameTable TextFunction

namespace Registry

def empty : Registry := ⟨NameTable.empty⟩

/-- Adds a function, in place of one of the same name. -/
def register (r : Registry) (f : TextFunction) : Registry := ⟨r.table.insert f.name f⟩

/-- Adds functions one after another. -/
def registerAll (r : Registry) (fs : List TextFunction) : Registry := fs.foldl register r

def ofList (fs : List TextFunction) : Registry := empty.registerAll fs

def get? (r : Registry) (name : String) : Option TextFunction := r.table.get? name

def contains (r : Registry) (name : String) : Bool := r.table.contains name

def size (r : Registry) : Nat := r.table.size

def isEmpty (r : Registry) : Bool := r.table.isEmpty

/-- The functions, in the order of their names. -/
def functions (r : Registry) : List TextFunction := r.table.values

/-- Looking a name up finds the function that was registered last under it. -/
theorem get?_register (r : Registry) (f : TextFunction) (name : String) :
    (r.register f).get? name = if name = f.name then some f else r.get? name :=
  r.table.get?_insert f.name name f

end Registry

end CacheKeys
