import CallScript.Config.Basic
import CallScript.Files.Access
import CallScript.Grammar.BuiltIn
import CallScript.Grammar.File

/-!
# Configuration files

Where the configuration file is, how it is loaded and saved, and the grammar
that the settings select.  A missing configuration file stands for the usual
settings.
-/

namespace CallScript

open CallScript.Files
open CallScript.Pattern

/-- The variables of the surrounding system that tell where the configuration is. -/
structure Surroundings where
  /-- The directory of the configuration, `FUNCTIONAL_HOME`. -/
  home : Option String
  /-- The name of the profile, `FUNCTIONAL_ENV`. -/
  profile : Option String
  /-- The home directory of the user, `HOME`. -/
  userHome : Option String

namespace Surroundings

/-- The directory of the configuration. -/
def configDirectory (surroundings : Surroundings) : String :=
  match surroundings.home with
  | some directory => directory
  | none =>
      joinPath (joinPath (surroundings.userHome.getD ".") ".functional")
        (surroundings.profile.getD "default")

/-- The path of the configuration file. -/
def configPath (surroundings : Surroundings) : String :=
  joinPath surroundings.configDirectory "config.json"

end Surroundings

/-- A fault of a file that the settings come from or name. -/
inductive ConfigFault where
  /-- The file cannot be read or written. -/
  | inaccessible (path : String)
  /-- The text of the file is not a configuration. -/
  | malformed (path : String)
  deriving DecidableEq, Repr

/-- The fault in words. -/
def ConfigFault.message : ConfigFault → String
  | .inaccessible path => "ConfigError: cannot access " ++ path ++ ": it cannot be read or written"
  | .malformed path => "ConfigError: malformed " ++ path ++ ": it is not a configuration"

/-- A fault on the way from the settings to a grammar. -/
inductive GrammarFault where
  /-- The grammar file cannot be read. -/
  | config (fault : ConfigFault)
  /-- The rules do not make a grammar. -/
  | rules (fault : Fault)
  deriving DecidableEq, Repr

namespace Config

variable {m : Type → Type} [Monad m]

/-- Loads the settings from a file. -/
def loadFrom (access : Access m) (path : String) : m (Except ConfigFault Config) := do
  if ← access.hasEntry path then
    match ← access.readText? path with
    | none => return .error (.inaccessible path)
    | some text =>
        match ofText? text with
        | some config => return .ok config
        | none => return .error (.malformed path)
  else return .ok standard

/-- Saves the settings to a file. -/
def saveTo (access : Access m) (config : Config) (path : String) : m (Except ConfigFault Unit) := do
  if ← access.save path config.render.toUTF8 then return .ok ()
  else return .error (.inaccessible path)

variable (table : PropertyTable)

/-- The grammar from the file that the settings name, or else the built-in one. -/
def baseGrammar (access : Access m) (config : Config) : m (Except GrammarFault Grammar) := do
  match config.grammar with
  | none => return .ok Grammar.builtIn
  | some path =>
      match ← access.readText? path with
      | none => return .error (.config (.inaccessible path))
      | some text => return (Grammar.ofText table text).mapError .rules

/-- The grammar with the patterns of the settings exchanged. -/
def overridden (config : Config) (grammar : Grammar) : Except GrammarFault Grammar :=
  match grammar.override table config.overrides with
  | (overridden, none) => .ok overridden
  | (_, some fault) => .error (.rules fault)

/-- The grammar that the settings select. -/
def selectGrammar (access : Access m) (config : Config) : m (Except GrammarFault Grammar) := do
  return (← config.baseGrammar table access).bind (config.overridden table)

end Config

end CallScript
