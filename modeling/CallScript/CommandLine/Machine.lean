import CallScript.CommandLine.Run

/-!
# A machine in memory

A host whose files and standard streams are data.  The machine holds a tree of
files, the bytes of the standard input that have not been read, and the bytes
of the standard output.  Reading the input may fail behind these bytes, as it
does when it is a directory or a device that breaks off.
-/

namespace CallScript.CommandLine

open CallScript.Files
open CallScript.Pattern

/-- The files and the standard streams of a machine. -/
structure Machine where
  /-- The files. -/
  tree : Tree
  /-- The bytes of the standard input that have not been read. -/
  input : List UInt8
  /-- Reading on behind these bytes fails; otherwise the input ends there. -/
  inputFails : Bool
  /-- The bytes that were written to the standard output. -/
  output : List UInt8

namespace Machine

/-- A computation on the files. -/
def onTree {α : Type} (computation : StateM Tree α) : StateM Machine α :=
  modifyGet fun machine =>
    let (value, tree) := computation.run machine.tree
    (value, { machine with tree := tree })

/-- Reads the input to its end. -/
def readInput? : StateM Machine (Option ByteArray) :=
  modifyGet fun machine =>
    (if machine.inputFails then none else some machine.input.toByteArray,
      { machine with input := [] })

/-- Passes over a line of the input, and tells whether it could be read. -/
def passLine : StateM Machine Bool :=
  modifyGet fun machine =>
    (!Session.breaksOff machine.inputFails machine.input,
      { machine with input := Session.behindLine machine.input })

/-- The machine after bytes were written to the output. -/
def wrote (machine : Machine) (bytes : List UInt8) : Machine :=
  { machine with output := machine.output ++ bytes }

end Machine

/-- The host of a machine in memory. -/
def Host.inMemory
    (surroundings : Surroundings)
    (properties : PropertyTable)
    (manual : Manual) : Host (StateM Machine) where
  files := Access.tree.map Machine.onTree
  readInput? := Machine.readInput?
  passLine := Machine.passLine
  write bytes := modify fun machine => machine.wrote bytes
  surroundings := surroundings
  properties := properties
  manual := manual

end CallScript.CommandLine
