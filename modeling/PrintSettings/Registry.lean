import PrintSettings.KeyMap
import PrintSettings.Log

/-! # Registry of setting names

The names that settings may have. The registry is advisory: a name that it lacks is reported when it
is written, and written all the same. -/

namespace PrintSettings

/-- A set of setting names. -/
structure Registry where
  names : KeyMap Unit
deriving DecidableEq

namespace Registry

def empty : Registry := ⟨∅⟩

instance : EmptyCollection Registry := ⟨empty⟩

def contains (r : Registry) (key : String) : Bool := r.names.contains key

def insert (r : Registry) (key : String) : Registry := ⟨r.names.insert key ()⟩

def insertAll (r : Registry) (keys : List String) : Registry := keys.foldl insert r

def ofList (keys : List String) : Registry := insertAll ∅ keys

def size (r : Registry) : Nat := r.names.size

def isEmpty (r : Registry) : Bool := r.names.isEmpty

/-- The names in ascending order. -/
def toList (r : Registry) : List String := r.names.keys

end Registry

end PrintSettings
