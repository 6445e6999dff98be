import CallScript.CommandLine.Command
import CallScript.Config.File
import CallScript.Session.Call

/-!
# Running a command

A command runs on a host, which gives it the files, the standard streams and
the variables of the surrounding system.  The configuration is loaded before
anything else.  What a command writes goes to the standard output at once, so
a command that fails later on leaves it there; the output takes all bytes.

A command is done or fails, and the ending determines the exit code and the
text of the standard error.
-/

namespace CallScript.CommandLine

open CallScript.Files
open CallScript.Pattern

/-- Why a command fails. -/
inductive CommandFault where
  /-- The source cannot be read, or its bytes are not text. -/
  | unreadableSource
  /-- A file of the configuration cannot be used. -/
  | config (fault : ConfigFault)
  /-- The grammar or the source is at fault. -/
  | scan (fault : Fault)
  /-- No built-in has the name. -/
  | unknownBuiltin (name : String)
  /-- A call could not write its output or read its input. -/
  | call (failure : CallFailure)
  deriving DecidableEq, Repr

namespace CommandFault

/-- The fault in words. -/
def message : CommandFault → String
  | .unreadableSource => "IOError: the source cannot be read as text"
  | .config fault => fault.message
  | .scan fault => fault.diagnostic.display
  | .unknownBuiltin name => "UnknownBuiltin: " ++ name ++ " is not a standard library name"
  | .call failure => "IOError: " ++ failure.message

/-- A fault on the way to a grammar. -/
def ofGrammar : GrammarFault → CommandFault
  | .config fault => .config fault
  | .rules fault => .scan fault

end CommandFault

/-- How the program ends. -/
inductive Ending where
  /-- What was asked for is done. -/
  | done
  /-- A command failed. -/
  | failed (fault : CommandFault)
  /-- The arguments are used wrongly. -/
  | misused
  deriving DecidableEq, Repr

namespace Ending

/-- The exit code. -/
def code : Ending → UInt32
  | .done => 0
  | .failed _ => 1
  | .misused => 2

/-- The text of the standard error. -/
def errors : Ending → String
  | .done => ""
  | .failed fault => fault.message ++ "\n"
  | .misused => "The arguments do not make up a command.\n"

/-- The ending of a command. -/
def ofResult : Except CommandFault Unit → Ending
  | .ok () => .done
  | .error fault => .failed fault

end Ending

/-- The texts that the program shows about itself. -/
structure Manual where
  /-- The help on a topic. -/
  help : (topic : List String) → String
  /-- The version. -/
  version : String

/-- What a command finds outside the program. -/
structure Host (m : Type → Type) where
  /-- The files. -/
  files : Access m
  /-- The bytes of the standard input up to its end, unless reading it fails. -/
  readInput? : m (Option ByteArray)
  /-- Passes over a line of the standard input, and tells whether it could be read. -/
  passLine : m Bool
  /-- Writes bytes to the standard output. -/
  write : (bytes : List UInt8) → m Unit
  /-- The variables of the surrounding system. -/
  surroundings : Surroundings
  /-- The properties that the patterns of a grammar may name. -/
  properties : PropertyTable
  /-- The texts about the program. -/
  manual : Manual

/-- Texts as lines. -/
def linesOf (texts : List String) : String :=
  String.join (texts.map fun text => text ++ "\n")

/-- The record of a token. -/
def tokenToJson (token : Token) : Json :=
  .object [(some "text", .ofString token.text), (some "kind", .ofString token.kind)]

/-- The tokens as the text of a listing, one a line or as one JSON array. -/
def listing (json : Bool) (tokens : List Token) : String :=
  if json then (Json.array (tokens.map tokenToJson)).render ++ "\n"
  else linesOf (tokens.map Token.line)

/-- The settings with those of a command line put in their place. -/
def adjusted (config : Config) (grammar : Option String) (strict : Bool) : Config :=
  { config with
    grammar := grammar.orElse fun _ => config.grammar
    strictStrings := config.strictStrings || strict }

/-- The tokens of a source under the settings. -/
def tokensOf
    (config : Config)
    (grammar : Except GrammarFault Grammar)
    (source : String) : Except CommandFault (List Token) := do
  let grammar ← grammar.mapError .ofGrammar
  (grammar.scan config.scanOptions source).mapError .scan

variable {m : Type → Type} [Monad m]

/-- Writes a text to the standard output. -/
def Host.print (host : Host m) (text : String) : m (Except CommandFault Unit) := do
  host.write text.toUTF8.toList
  return .ok ()

/-- Awaits a line of the standard input. -/
def Host.awaitLine (host : Host m) : m (Except CommandFault Unit) := do
  if ← host.passLine then return .ok () else return .error (.call .unreadableInput)

/-- The text of a source file, or of the standard input. -/
def readSource? (host : Host m) (file : String) : m (Option String) := do
  if file = "-" then return (← host.readInput?).bind String.fromUTF8?
  else host.files.readText? file

/-- Lists tokens, unless there is a fault in their place. -/
def Host.list
    (host : Host m)
    (json : Bool) : Except CommandFault (List Token) → m (Except CommandFault Unit)
  | .error fault => return .error fault
  | .ok tokens => host.print (listing json tokens)

/-- Scans a source and lists its tokens. -/
def tokenize
    (host : Host m)
    (config : Config)
    (file : String)
    (json : Bool) : m (Except CommandFault Unit) := do
  match ← readSource? host file with
  | none => return .error .unreadableSource
  | some source =>
      let grammar ← config.selectGrammar host.properties host.files
      host.list json (tokensOf config grammar source)

/--
Calls a built-in on its own and shows its outcome.  What the call writes is
written before the line that it asks for is awaited.
-/
def callBuiltin
    (host : Host m)
    (config : Config)
    (name : String)
    (args : List String) : m (Except CommandFault Unit) := do
  match Builtin.named? name with
  | none => return .error (.unknownBuiltin name)
  | some builtin =>
      let session : Session Unit := .start config.admission [] none ()
      let args := args.map fun literal => some (Value.ofLiteral literal)
      let (ended, result) := session.call .idle builtin args
      host.write ended.output.stored
      match result with
      | .error failure => return .error (.call failure)
      | .ok .terminate => host.awaitLine
      | .ok outcome => host.print (shown outcome.value? ++ "\n")

/-- Writes a configuration file with the usual settings, unless there is something already. -/
def initConfig (host : Host m) : m (Except CommandFault Unit) := do
  let path := host.surroundings.configPath
  if ← host.files.hasEntry path then
    host.print ("Config file already exists at: " ++ path ++ "\n")
  else
    match ← Config.standard.saveTo host.files path with
    | .ok () => host.print ("Initialized new config file at: " ++ path ++ "\n")
    | .error fault => return .error (.config fault)

/-- Runs a command under the settings. -/
def perform (host : Host m) (config : Config) : Command → m (Except CommandFault Unit)
  | .tokenize file json grammar strict =>
      tokenize host (adjusted config grammar strict) file json
  | .blocks body => host.print (linesOf (blockFragments body))
  | .call name args => callBuiltin host config name args
  | .showConfig => host.print (config.render ++ "\n")
  | .initConfig => initConfig host
  | .configPath => host.print (host.surroundings.configPath ++ "\n")

/-- Runs a command. -/
def Command.run (host : Host m) (command : Command) : m (Except CommandFault Unit) := do
  match ← Config.loadFrom host.files host.surroundings.configPath with
  | .error fault => return .error (.config fault)
  | .ok config => perform host config command

/-- Does what is asked for. -/
def Request.serve (host : Host m) : Request → m (Except CommandFault Unit)
  | .run command => command.run host
  | .help topic => host.print (host.manual.help topic)
  | .version => host.print host.manual.version

/-- Does what the arguments ask for. -/
def runArguments (host : Host m) (arguments : List String) : m Ending :=
  match Request.ofArguments? arguments with
  | some request => Ending.ofResult <$> request.serve host
  | none => return .misused

end CallScript.CommandLine
