/-!
# Requests

What the arguments of the program ask for: that a command is run, or that help
or the version is shown.  Arguments that ask for nothing of this are used
wrongly.

The arguments of a command are read from left to right.  Options may stand
anywhere, none of them twice; two dashes end them.  The first mistake and the
first question for help decide, whichever of them comes first.
-/

namespace CallScript.CommandLine

/-- A command of the program. -/
inductive Command where
  /-- Scans a source and lists its tokens. -/
  | tokenize (file : String) (json : Bool) (grammar : Option String) (strict : Bool)
  /-- Lists the fragments of a body. -/
  | blocks (body : String)
  /-- Calls a built-in with arguments that are typed as literals. -/
  | call (name : String) (args : List String)
  /-- Shows the configuration. -/
  | showConfig
  /-- Writes a configuration file with the usual settings. -/
  | initConfig
  /-- Shows where the configuration file is. -/
  | configPath
  deriving DecidableEq, Repr

/-- What arguments ask for. -/
inductive Request where
  /-- A command is to be run. -/
  | run (command : Command)
  /-- Help is to be shown on a command or a group of commands, by the names that lead to it. -/
  | help (topic : List String)
  /-- The version of the program is to be shown. -/
  | version
  deriving DecidableEq, Repr

/-- What ends the reading of arguments early. -/
inductive Stop where
  /-- A question for help. -/
  | help
  /-- A mistake. -/
  | misuse
  deriving DecidableEq, Repr

/-- Arguments sorted into options and the rest. -/
structure Sorted where
  /-- The options without a value that are given. -/
  flags : List String
  /-- The options with a value that are given. -/
  values : List (String × String)
  /-- The other arguments in order. -/
  others : List String

/-- The argument is an option; a single dash is not. -/
def isOption (argument : String) : Bool :=
  argument.toList.head? == some '-' && argument != "-"

/-- The option asks for help; of several letters behind one dash the first one counts. -/
def asksForHelp (argument : String) : Bool :=
  argument == "--help" || ['-', 'h'].isPrefixOf argument.toList

/-- The option asks for the version. -/
def asksForVersion (argument : String) : Bool :=
  argument == "--version" || ['-', 'V'].isPrefixOf argument.toList

/-- The option and its value, when both stand in one argument. -/
def joinedOption? (argument : String) : Option (String × String) :=
  match argument.toList.dropWhile (· ≠ '=') with
  | _ :: value => some (String.ofList (argument.toList.takeWhile (· ≠ '=')), String.ofList value)
  | [] => none

namespace Sorted

/-- No arguments. -/
def none : Sorted :=
  ⟨[], [], []⟩

/-- The value of an option, if it is given. -/
def value? (sorted : Sorted) (option : String) : Option String :=
  (sorted.values.find? fun given => given.1 == option).map Prod.snd

/-- The arguments with one more option without a value. -/
def addFlag (flag : String) (sorted : Sorted) : Except Stop Sorted :=
  if sorted.flags.contains flag then .error .misuse
  else .ok { sorted with flags := flag :: sorted.flags }

/-- The arguments with one more option with a value; the value is not empty. -/
def addValue (option value : String) (sorted : Sorted) : Except Stop Sorted :=
  if value.isEmpty || sorted.values.any fun given => given.1 == option then .error .misuse
  else .ok { sorted with values := (option, value) :: sorted.values }

end Sorted

/-- How a command is used. -/
structure Usage where
  /-- The options without a value. -/
  flags : List String
  /-- The options with a value. -/
  valued : List String
  /-- The largest number of other arguments, if there is one. -/
  most : Option Nat
  /-- The command with its arguments, unless one of them is missing. -/
  command? : Sorted → Option Command

namespace Usage

/-- The arguments with one more at the end that is not an option. -/
def addOther (usage : Usage) (sorted : Sorted) (argument : String) : Except Stop Sorted :=
  if usage.most.any fun most => most ≤ sorted.others.length then .error .misuse
  else .ok { sorted with others := sorted.others ++ [argument] }

/-- Sorts arguments behind those that are sorted already. -/
def sort (usage : Usage) (sorted : Sorted) : List String → Except Stop Sorted
  | [] => .ok sorted
  | argument :: rest =>
      if argument = "--" then rest.foldlM usage.addOther sorted
      else if !isOption argument then
        (usage.addOther sorted argument).bind fun sorted => usage.sort sorted rest
      else if asksForHelp argument then .error .help
      else if usage.flags.contains argument then
        (sorted.addFlag argument).bind fun sorted => usage.sort sorted rest
      else if usage.valued.contains argument then
        match rest with
        | value :: rest =>
            if isOption value then .error .misuse
            else (sorted.addValue argument value).bind fun sorted => usage.sort sorted rest
        | [] => .error .misuse
      else
        match joinedOption? argument with
        | some (option, value) =>
            if usage.valued.contains option then
              (sorted.addValue option value).bind fun sorted => usage.sort sorted rest
            else .error .misuse
        | none => .error .misuse

/-- The command that scans a source. -/
def tokenize : Usage where
  flags := ["--json", "--strict"]
  valued := ["--grammar"]
  most := some 1
  command? sorted :=
    sorted.others.head?.map fun file =>
      .tokenize file (sorted.flags.contains "--json") (sorted.value? "--grammar")
        (sorted.flags.contains "--strict")

/-- The command that lists the fragments of a body. -/
def blocks : Usage where
  flags := []
  valued := []
  most := some 1
  command? sorted := sorted.others.head?.map .blocks

/-- The command that calls a built-in. -/
def call : Usage where
  flags := []
  valued := []
  most := none
  command? sorted := sorted.others.head?.map fun name => .call name sorted.others.tail

/-- A command without arguments. -/
def bare (command : Command) : Usage where
  flags := []
  valued := []
  most := some 0
  command? _ := some command

/-- The usage of the command to which names lead. -/
def named? : (names : List String) → Option Usage
  | ["tokenize"] => some tokenize
  | ["blocks"] => some blocks
  | ["call"] => some call
  | ["config", "show"] => some (bare .showConfig)
  | ["config", "init"] => some (bare .initConfig)
  | ["config", "path"] => some (bare .configPath)
  | _ => none

end Usage

namespace Request

/-- Help on a topic, if there is such a topic. -/
def ofTopic? (topic : List String) : Option Request :=
  if (Usage.named? topic).isSome || [[], ["config"], ["help"], ["config", "help"]].contains topic
  then some (.help topic)
  else none

/-- The request of a command to which names lead, with the arguments behind the names. -/
def ofCommand? (names arguments : List String) : Option Request := do
  let usage ← Usage.named? names
  match usage.sort .none arguments with
  | .ok sorted => return .run (← usage.command? sorted)
  | .error .help => return .help names
  | .error .misuse => none

/-- What arguments ask for, unless they are used wrongly. -/
def ofArguments? : List String → Option Request
  | [] => none
  | "help" :: topic => ofTopic? topic
  | "config" :: "help" :: topic => ofTopic? ("config" :: topic)
  | "config" :: action :: arguments =>
      if asksForHelp action then some (.help ["config"])
      else ofCommand? ["config", action] arguments
  | name :: arguments =>
      if asksForHelp name then some (.help [])
      else if asksForVersion name then some .version
      else ofCommand? [name] arguments

end Request

end CallScript.CommandLine
