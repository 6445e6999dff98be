import CallScript.Grammar.Basic
import CallScript.Json.Printer
import CallScript.Json.Reader
import CallScript.Json.Record

/-!
# Grammar files

A grammar file is a JSON array of rules, each of which is a record of the
kind and the pattern.
-/

namespace CallScript

open CallScript.Pattern

namespace Grammar

/-- The kind and the pattern that a record of a grammar file holds. -/
def entryOfJson? (json : Json) : Option (String × String) :=
  match json.record? ["kind", "pattern"] with
  | some [some kind, some pattern] => do
      let kind ← kind.string?
      let pattern ← pattern.string?
      return (kind, pattern)
  | _ => none

/-- The kinds and the patterns that the text of a grammar file holds. -/
def entriesOfText? (text : String) : Option (List (String × String)) :=
  match Json.read? text.toList with
  | some (.array elements) => elements.mapM entryOfJson?
  | _ => none

/-- The grammar of the text of a grammar file. -/
def ofText (table : PropertyTable) (text : String) : Except Fault Grammar :=
  match entriesOfText? text with
  | some entries => ofEntries table entries
  | none => .error .malformedGrammar

/-- The record of a rule in a grammar file. -/
def entryToJson (entry : String × String) : Json :=
  .object [(some "kind", .ofString entry.1), (some "pattern", .ofString entry.2)]

/-- The rules of the grammar as they stand in a grammar file. -/
def toJson (grammar : Grammar) : Json :=
  .array (grammar.entries.map entryToJson)

end Grammar

end CallScript
