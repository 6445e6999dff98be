import CallScript.Files.Tree

/-!
# Access to files

What a program may do with files: ask whether a path names something, read a
file, and save a file together with the directories around it.  The operations
run in a monad, so that the same program runs over a tree of files in memory
and over the files of a machine.
-/

namespace CallScript.Files

/-- The operations on files that a program uses. -/
structure Access (m : Type → Type) where
  /-- A path names something. -/
  hasEntry : (path : String) → m Bool
  /-- The contents of the file that a path names. -/
  read? : (path : String) → m (Option ByteArray)
  /-- Saves a file with the directories around it, and tells whether that succeeded. -/
  save : (path : String) → (contents : ByteArray) → m Bool

/-- The operations as they run in another monad. -/
def Access.map
    {m n : Type → Type}
    (lift : {α : Type} → m α → n α)
    (access : Access m) : Access n where
  hasEntry path := lift (access.hasEntry path)
  read? path := lift (access.read? path)
  save path contents := lift (access.save path contents)

/-- Access to a tree of files in memory. -/
def Access.tree : Access (StateM Tree) where
  hasEntry path := do return (← get).hasEntry path
  read? path := do return (← get).read? path
  save path contents := modifyGet fun tree =>
    let (saved, succeeded) := tree.save path contents
    (succeeded, saved)

/-- The text of the file that a path names, when there is one and its bytes are text. -/
def Access.readText? {m : Type → Type} [Monad m] (access : Access m) (path : String) :
    m (Option String) := do
  return (← access.read? path).bind String.fromUTF8?

end CallScript.Files
