import CallScript.Files.Path

/-!
# A tree of files

Files and directories, listed with the places at which they are.  A place is
given by names below a base, which is the root, the working directory or a
directory around it.  The bases always exist.

The operations on paths report failure; one that fails changes no file.
-/

namespace CallScript.Files

/-- Where a path begins to lead. -/
inductive Base where
  /-- The root. -/
  | root
  /-- The directory that lies a number of levels above the working directory. -/
  | above (levels : Nat)
  deriving DecidableEq

/-- A place in a tree: names below a base. -/
structure Place where
  /-- Where the names begin to lead. -/
  base : Base
  /-- The names, from the outermost directory inwards. -/
  names : List (List Char)
  deriving DecidableEq

namespace Place

/-- The place where a path begins to lead. -/
def start (path : String) : Place :=
  ⟨if isAbsolute path then .root else .above 0, []⟩

/-- The place of a name in the directory at a place. -/
def child (place : Place) (name : List Char) : Place :=
  { place with names := place.names ++ [name] }

/-- The place of the directory around a place; the root is its own. -/
def parent (place : Place) : Place :=
  if place.names.isEmpty then
    match place.base with
    | .root => place
    | .above levels => ⟨.above (levels + 1), []⟩
  else { place with names := place.names.dropLast }

end Place

/-- What stands at a place. -/
inductive Entry where
  /-- A file with its contents. -/
  | file (contents : ByteArray)
  /-- A directory. -/
  | directory

/-- The entry is a directory. -/
def Entry.isDirectory : Entry → Bool
  | .file _ => false
  | .directory => true

/-- Files and directories with their places. -/
structure Tree where
  /-- The entries; the first one at a place counts. -/
  entries : List (Place × Entry)

namespace Tree

/-- The tree without files. -/
def empty : Tree :=
  ⟨[]⟩

/-- What stands at a place. -/
def entry? (tree : Tree) (place : Place) : Option Entry :=
  if place.names.isEmpty then some .directory
  else (tree.entries.find? fun entry => entry.1 == place).map Prod.snd

/-- The tree with an entry put at a place. -/
def put (tree : Tree) (place : Place) (entry : Entry) : Tree :=
  ⟨(place, entry) :: tree.entries⟩

/-- There is a directory at the place. -/
def isDirectory (tree : Tree) (place : Place) : Bool :=
  (tree.entry? place).any Entry.isDirectory

/--
The place that names lead to from another place.  Two dots lead out of a
directory that exists.
-/
def follow? (tree : Tree) (place : Place) : List (List Char) → Option Place
  | [] => some place
  | name :: names =>
      if name = outwards then
        if tree.isDirectory place then tree.follow? place.parent names else none
      else if isUsableName name then tree.follow? (place.child name) names
      else none

/-- The place that a path names; the empty path names none. -/
def place? (tree : Tree) (path : String) : Option Place :=
  if path.isEmpty || !isUsablePath path then none
  else tree.follow? (.start path) (names path)

/-- What a path names. -/
def lookup? (tree : Tree) (path : String) : Option Entry := do
  let entry ← tree.entry? (← tree.place? path)
  if asksForDirectory path && !entry.isDirectory then none else return entry

/-- A path names something. -/
def hasEntry (tree : Tree) (path : String) : Bool :=
  (tree.lookup? path).isSome

/-- The contents of the file that a path names. -/
def read? (tree : Tree) (path : String) : Option ByteArray :=
  match tree.lookup? path with
  | some (.file contents) => some contents
  | _ => none

/--
The tree with directories at all the places to which names lead from a
directory, and the last of these places, unless a name is in the way.  What was
made before that stays.
-/
def makeAlong (tree : Tree) (place : Place) : List (List Char) → Tree × Option Place
  | [] => (tree, some place)
  | name :: names =>
      if name = outwards then tree.makeAlong place.parent names
      else if !isUsableName name then (tree, none)
      else
        match tree.entry? (place.child name) with
        | some .directory => tree.makeAlong (place.child name) names
        | some (.file _) => (tree, none)
        | none => (tree.put (place.child name) .directory).makeAlong (place.child name) names

/-- The tree with a file of a name in the directory at a place. -/
def writeIn? (tree : Tree) (place : Place) (name : List Char) (contents : ByteArray) :
    Option Tree :=
  if name = outwards || !isUsableName name || tree.isDirectory (place.child name) then none
  else some (tree.put (place.child name) (.file contents))

/--
Saves a file at the place that a path names, and tells whether that succeeded.
The directories around it are made first, where they are missing, and stay even
if the file cannot be written.
-/
def save (tree : Tree) (path : String) (contents : ByteArray) : Tree × Bool :=
  if !isUsablePath (parentPath path) then (tree, false)
  else
    match tree.makeAlong (.start path) (names path).dropLast with
    | (prepared, none) => (prepared, false)
    | (prepared, some place) =>
        let written? := do
          if !isUsablePath path || asksForDirectory path then none
          else prepared.writeIn? place (← (names path).getLast?) contents
        match written? with
        | some written => (written, true)
        | none => (prepared, false)

end Tree

end CallScript.Files
