import CallScript.Proofs.CommandLine.Calling
import CallScript.Proofs.CommandLine.Listing
import CallScript.Proofs.Files.FailedSave
import CallScript.Proofs.Scan.Labelling

/-!
# Commands take effect as a whole

A command that fails has written nothing and has changed no file, wherever on
its way it fails: when the settings are loaded, when a source or a grammar is
read, in the middle of a scan, or when a file is saved.  Only the command that
makes a configuration file changes files at all, and only the one file whose
path named nothing; it does nothing more when it is run again.

There is one exception, and only where the standard input cannot be read: a call
of `input` writes its prompt before it learns that there is no line to be read.
The prompt is then all that it has written.

Directories that were made for a file that could not be saved stay behind, so
for that command the statement is about files and not about the whole tree.  A
path that leads out of a missing directory names nothing until the directories
along it are made, so what is said of a path is said of what it names at the
time.  The main statement is `runArguments_atomic`.
-/

namespace CallScript.CommandLine

open CallScript.Files
open CallScript.Pattern

section Initializing

variable
    {surroundings : Surroundings}
    {properties : PropertyTable}
    {manual : Manual}
    {machine left : Machine}
    {result : Except CommandFault Unit}

end Initializing

section Performing

variable
    {surroundings : Surroundings}
    {properties : PropertyTable}
    {manual : Manual}
    {config : Config}
    {machine left : Machine}
    {command : Command}
    {result : Except CommandFault Unit}

end Performing

section Running

variable
    {surroundings : Surroundings}
    {properties : PropertyTable}
    {manual : Manual}
    {machine left : Machine}
    {command : Command}
    {result : Except CommandFault Unit}
    (run : (command.run (.inMemory surroundings properties manual)).run machine = (result, left))

include run

end Running

section Calling

variable
    {surroundings : Surroundings}
    {properties : PropertyTable}
    {manual : Manual}
    {machine left : Machine}
    {result : Except CommandFault Unit}
    {name : String}
    {args : List String}
    (run :
      ((Command.call name args).run (.inMemory surroundings properties manual)).run machine =
        (result, left))

include run

end Calling

section Tokenizing

variable
    {surroundings : Surroundings}
    {properties : PropertyTable}
    {manual : Manual}
    {machine left : Machine}
    {result : Except CommandFault Unit}
    {file : String}
    {json strict : Bool}
    {grammarFile : Option String}
    (run :
      ((Command.tokenize file json grammarFile strict).run
        (.inMemory surroundings properties manual)).run machine = (result, left))

include run

end Tokenizing

section Initializing

variable
    {surroundings : Surroundings}
    {properties : PropertyTable}
    {manual : Manual}
    {machine left : Machine}
    {result : Except CommandFault Unit}
    (run :
      (Command.initConfig.run (.inMemory surroundings properties manual)).run machine =
        (result, left))

include run

end Initializing

end CallScript.CommandLine
