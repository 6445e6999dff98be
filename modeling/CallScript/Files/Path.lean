/-!
# Paths

A path is a text.  Names in it are separated by slashes, a slash in front
makes it absolute, and empty names and single dots have no effect apart from
the last one, which asks for a directory.
-/

namespace CallScript.Files

/-- A path that goes on from another one; an absolute path goes nowhere from there. -/
def joinPath (base part : String) : String :=
  if part.toList.head? = some '/' || base.isEmpty then part
  else if base.toList.getLast? = some '/' then base ++ part
  else base ++ "/" ++ part

/-- The path begins at the root. -/
def isAbsolute (path : String) : Bool :=
  path.toList.head? == some '/'

/-- The name leads nowhere else. -/
def isIdleName (name : List Char) : Bool :=
  name.isEmpty || name == ['.']

/-- The names along a path. -/
def names (path : String) : List (List Char) :=
  (path.toList.splitOn '/').filter fun name => !isIdleName name

/-- The path can only name a directory. -/
def asksForDirectory (path : String) : Bool :=
  (path.toList.splitOn '/').getLast?.any isIdleName

/-- The path of the directory around what a path names; it is empty for a single name. -/
def parentPath (path : String) : String :=
  let segments := (path.toList.splitOn '/').reverse.dropWhile isIdleName
  let parent := List.intercalate ['/'] (segments.drop 1).reverse
  if parent.isEmpty && isAbsolute path then "/" else String.ofList parent

/-- The name that leads to the directory around another one. -/
def outwards : List Char :=
  ['.', '.']

/-- How many bytes a name may have. -/
def nameLimit : Nat :=
  255

/-- How many bytes a path may have. -/
def pathLimit : Nat :=
  4095

/-- The name is short enough to name anything. -/
def isUsableName (name : List Char) : Bool :=
  (String.ofList name).utf8ByteSize ≤ nameLimit

/-- The path is short enough to name anything and holds no zero character. -/
def isUsablePath (path : String) : Bool :=
  path.utf8ByteSize ≤ pathLimit && !path.toList.contains '\x00'

end CallScript.Files
