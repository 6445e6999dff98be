import CallScript.Pattern.Error
import CallScript.Text.Location

/-!
# Faults of grammars and scans

What can go wrong when a grammar is built or a source is scanned, and how it
is reported: under a category, with a message, and with a location when the
fault lies in the source text.
-/

namespace CallScript

open CallScript.Text

/-- The categories under which faults are reported. -/
inductive FaultCategory where
  /-- A string literal is not closed. -/
  | unterminatedString
  /-- A rule is named that the grammar does not have. -/
  | unknownPattern
  /-- A pattern matches the empty text. -/
  | nonTerminatingPattern
  /-- A pattern or a grammar file cannot be read. -/
  | invalidPattern
  /-- A kind is declared twice. -/
  | duplicatePattern
  deriving DecidableEq, Repr

/-- The category in words. -/
def FaultCategory.phrase : FaultCategory → String
  | .unterminatedString => "unterminated string"
  | .unknownPattern => "unknown pattern"
  | .nonTerminatingPattern => "non-terminating pattern"
  | .invalidPattern => "invalid pattern"
  | .duplicatePattern => "duplicate pattern"

/-- A fault as it is reported. -/
structure Diagnostic where
  /-- The category of the fault. -/
  category : FaultCategory
  /-- What is wrong. -/
  message : String
  /-- Where in the source it is wrong, if it is there at all. -/
  location : Option Location
  deriving DecidableEq, Repr

namespace Diagnostic

/-- The line of the fault, zero when it lies outside the source. -/
def line (diagnostic : Diagnostic) : Nat :=
  diagnostic.location.elim 0 Location.line

/-- The column of the fault, zero when it lies outside the source. -/
def column (diagnostic : Diagnostic) : Nat :=
  diagnostic.location.elim 0 Location.column

/-- The report as text. -/
def display (diagnostic : Diagnostic) : String :=
  "ScanError: " ++ diagnostic.message ++ "\n  --> " ++ toString diagnostic.line ++ ":" ++
    toString diagnostic.column

/--
The report of a fault at a distance in bytes from the start of a source; there
is none when the distance falls inside a character.
-/
def atByte?
    (category : FaultCategory)
    (message : String)
    (source : String)
    (bytes : Nat) : Option Diagnostic :=
  (Location.atByte? source.toList bytes).map fun location => ⟨category, message, some location⟩

end Diagnostic

/-- A fault of a grammar or a scan. -/
inductive Fault where
  /-- A kind is declared twice. -/
  | declaredTwice (kind : String)
  /-- The pattern of a kind cannot be read. -/
  | unreadablePattern (kind pattern : String) (cause : Pattern.PatternError)
  /-- The pattern of a kind matches the empty text. -/
  | matchesEmpty (kind pattern : String)
  /-- The grammar has no rule of a kind. -/
  | undeclared (kind : String)
  /-- The text of a grammar file is not a list of rules. -/
  | malformedGrammar
  /-- The pattern of the words that a scan looks for cannot be read. -/
  | unreadableWords (cause : Pattern.PatternError)
  /-- A quote in the source opens no string literal. -/
  | openQuote (location : Location)
  deriving DecidableEq, Repr

/-- How a fault is reported. -/
def Fault.diagnostic : Fault → Diagnostic
  | .declaredTwice kind => ⟨.duplicatePattern, kind ++ " is declared twice", none⟩
  | .unreadablePattern kind pattern cause =>
      ⟨.invalidPattern,
        "pattern " ++ pattern ++ " for " ++ kind ++ " does not compile: " ++ cause.message, none⟩
  | .matchesEmpty kind pattern =>
      ⟨.nonTerminatingPattern,
        "pattern " ++ pattern ++ " for " ++ kind ++ " matches the empty string", none⟩
  | .undeclared kind => ⟨.unknownPattern, kind ++ " is not declared by the grammar", none⟩
  | .malformedGrammar =>
      ⟨.invalidPattern, "malformed grammar: the text is not a list of rules", none⟩
  | .unreadableWords cause => ⟨.invalidPattern, cause.message, none⟩
  | .openQuote location =>
      ⟨.unterminatedString, "string literal is never closed", some location⟩

end CallScript
