import CallScript.CommandLine.Run

/-!
# The program

The command line over the files, the variables and the standard streams of a
machine.  Nothing is decided here: the arguments are handed to
`runArguments`, and its ending gives the exit code.
-/

namespace CallScript.CommandLine

open CallScript.Files
open CallScript.Pattern

/-- Whether an action ends without an error. -/
def succeeds (action : IO Unit) : IO Bool := do
  try
    action
    return true
  catch _ => return false

/-- Access to the files of the machine. -/
def machineFiles : Access IO where
  hasEntry path := succeeds (discard (IO.FS.realPath path))
  read? path := do
    try
      return some (← IO.FS.readBinFile path)
    catch _ => return none
  save path contents := succeeds do
    let parent := parentPath path
    unless parent.isEmpty do
      IO.FS.createDirAll parent
    IO.FS.writeBinFile path contents

/-- The bytes of a stream up to its end. -/
partial def readToEnd (stream : IO.FS.Stream) (read : ByteArray) : IO ByteArray := do
  let bytes ← stream.read 65536
  if bytes.isEmpty then return read else readToEnd stream (read ++ bytes)

/-- Passes over the bytes of a stream up to a line feed or to its end. -/
partial def skipLine (stream : IO.FS.Stream) : IO Unit := do
  let bytes ← stream.read 1
  unless bytes.isEmpty || bytes[0]? == some 10 do
    skipLine stream

/-- The variables of the machine that tell where the configuration is. -/
def machineSurroundings : IO Surroundings := do
  return ⟨← IO.getEnv "FUNCTIONAL_HOME", ← IO.getEnv "FUNCTIONAL_ENV", ← IO.getEnv "HOME"⟩

/-- What a command or a group of commands is for. -/
def purpose : (topic : List String) → String
  | [] => "Functional language front end"
  | ["tokenize"] => "Scan a source file and print its classified tokens"
  | ["blocks"] => "Split a loop/while body into fragments"
  | ["call"] => "Call one standard library built-in with literal arguments"
  | ["config"] => "Manage the configuration file"
  | ["config", "show"] => "Show the effective configuration"
  | ["config", "init"] => "Write a config file with the defaults"
  | ["config", "path"] => "Print where the config file lives"
  | _ => "Print help on a command"

/-- The texts about the program, without the lists of its commands and options. -/
def shortManual : Manual where
  help topic := purpose topic ++ "\n\nUsage: " ++ " ".intercalate ("functional" :: topic) ++ "\n"
  version := "functional 0.1.0\n"

/-- The machine as a command finds it. -/
def machine : IO (Host IO) := do
  let stdin ← IO.getStdin
  let stdout ← IO.getStdout
  return {
    files := machineFiles
    readInput? := do
      try
        return some (← readToEnd stdin .empty)
      catch _ => return none
    passLine := succeeds (skipLine stdin)
    write bytes := do
      stdout.write bytes.toByteArray
      stdout.flush
    surroundings := ← machineSurroundings
    properties := .basic
    manual := shortManual }

end CallScript.CommandLine

/-- Does what the arguments ask for. -/
def main (arguments : List String) : IO UInt32 := do
  let ending ← CallScript.CommandLine.runArguments (← CallScript.CommandLine.machine) arguments
  IO.eprint ending.errors
  return ending.code
