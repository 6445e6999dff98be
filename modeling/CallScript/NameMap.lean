/-!
# Maps from names

A finite map from names to values, kept as a list in increasing order of the
names.  Names are compared character by character, which is also the order of
their bytes in UTF-8.  Every name stands in the list at most once.
-/

namespace CallScript

/-- A finite map from names, listed in increasing order of the names. -/
structure NameMap (α : Type) where
  /-- The bindings in order. -/
  entries : List (String × α)
  deriving DecidableEq

namespace NameMap

variable {α : Type}

/-- The map without bindings. -/
def empty : NameMap α :=
  ⟨[]⟩

/-- The bindings with one name bound anew. -/
def insertEntry (name : String) (value : α) : List (String × α) → List (String × α)
  | [] => [(name, value)]
  | (other, held) :: entries =>
      if name < other then (name, value) :: (other, held) :: entries
      else if name = other then (name, value) :: entries
      else (other, held) :: insertEntry name value entries

/-- The map with one name bound anew. -/
def insert (map : NameMap α) (name : String) (value : α) : NameMap α :=
  ⟨insertEntry name value map.entries⟩

/-- The value that a name is bound to. -/
def get? (map : NameMap α) (name : String) : Option α :=
  (map.entries.find? fun entry => entry.1 == name).map Prod.snd

/-- The name is bound. -/
def contains (map : NameMap α) (name : String) : Bool :=
  (map.get? name).isSome

/-- The number of bound names. -/
def size (map : NameMap α) : Nat :=
  map.entries.length

/-- The map of a list of bindings; a later binding of a name replaces an earlier one. -/
def ofList (entries : List (String × α)) : NameMap α :=
  entries.foldl (fun map entry => map.insert entry.1 entry.2) empty

end NameMap

end CallScript
