import CallScript.Environment
import CallScript.Json.Printer
import CallScript.Json.Reader
import CallScript.Json.Record
import CallScript.Scan.Tokens

/-!
# The configuration

The settings of the program, and their form in a configuration file: a JSON
record of nine fields.  A field that the file does not give keeps its usual
value; the file that is written gives every field.
-/

namespace CallScript

/-- The settings of the program. -/
structure Config where
  /-- The grammar file to be used instead of the built-in grammar. -/
  grammar : Option String
  /-- The kind of the tokens that stand for gaps. -/
  defaultKind : String
  /-- The kind of the matches that are left out. -/
  whitespaceKind : String
  /-- The kind of the matches that are never promoted. -/
  stringKind : String
  /-- A gap must not hold a double quote. -/
  strictStrings : Bool
  /-- Where in a match a word of the vocabulary is looked for. -/
  reservedMatch : ReservedMatch
  /-- Words of the vocabulary are found in either case. -/
  caseInsensitive : Bool
  /-- Which names may be bound. -/
  admission : Admission
  /-- Patterns to be exchanged in the grammar, by kind. -/
  overrides : NameMap String
  deriving DecidableEq

namespace Config

/-- The usual settings. -/
def standard : Config where
  grammar := none
  defaultKind := invalidKind
  whitespaceKind := CallScript.whitespaceKind
  stringKind := CallScript.stringKind
  strictStrings := false
  reservedMatch := .contains
  caseInsensitive := true
  admission := .permissive
  overrides := .empty

/-- The options of a scan under these settings. -/
def scanOptions (config : Config) : ScanOptions where
  defaultKind := config.defaultKind
  whitespaceKind := config.whitespaceKind
  stringKind := config.stringKind
  reservedMatch := config.reservedMatch
  caseInsensitive := config.caseInsensitive
  strictStrings := config.strictStrings

/-! ## Reading -/

/-- The fields of the record, in order. -/
def fields : List String :=
  ["grammar", "default_kind", "whitespace_kind", "string_kind", "strict_strings",
    "reserved_match", "reserved_case_insensitive", "admission", "pattern_overrides"]

/-- The value of a field, or its usual value when the field is not given. -/
def fieldOr {α : Type} (usual : α) (read? : Json → Option α) : Option Json → Option α
  | none => some usual
  | some json => read? json

/-- Reads a path that may be missing. -/
def pathOfJson? : Json → Option (Option String)
  | .null => some none
  | json => json.string?.map some

/-- Reads where a word of the vocabulary is looked for. -/
def reservedMatchOfJson? (json : Json) : Option ReservedMatch :=
  match json.choice? with
  | some "contains" => some .contains
  | some "exact" => some .exact
  | _ => none

/-- Reads a policy of admission. -/
def admissionOfJson? (json : Json) : Option Admission :=
  match json.choice? with
  | some "permissive" => some .permissive
  | some "reject_reserved" => some .rejectReserved
  | _ => none

/-- Reads a binding of a map from names to texts. -/
def overrideOfMember? (member : Option String × Json) : Option (String × String) := do
  let kind ← member.1
  let pattern ← member.2.string?
  return (kind, pattern)

/-- Reads a map from names to texts; a later member with the same name counts. -/
def overridesOfJson? : Json → Option (NameMap String)
  | .object members => (members.mapM overrideOfMember?).map NameMap.ofList
  | _ => none

/-- Reads the settings from a record. -/
def ofJson? (json : Json) : Option Config :=
  match json.record? fields with
  | some
      [grammar, defaultKind, whitespaceKind, stringKind, strictStrings, reservedMatch,
        caseInsensitive, admission, overrides] => do
      return {
        grammar := ← fieldOr standard.grammar pathOfJson? grammar
        defaultKind := ← fieldOr standard.defaultKind Json.string? defaultKind
        whitespaceKind := ← fieldOr standard.whitespaceKind Json.string? whitespaceKind
        stringKind := ← fieldOr standard.stringKind Json.string? stringKind
        strictStrings := ← fieldOr standard.strictStrings Json.bool? strictStrings
        reservedMatch := ← fieldOr standard.reservedMatch reservedMatchOfJson? reservedMatch
        caseInsensitive := ← fieldOr standard.caseInsensitive Json.bool? caseInsensitive
        admission := ← fieldOr standard.admission admissionOfJson? admission
        overrides := ← fieldOr standard.overrides overridesOfJson? overrides }
  | _ => none

/-- Reads the settings from the text of a configuration file. -/
def ofText? (text : String) : Option Config := do
  ofJson? (← Json.read? text.toList)

/-! ## Writing -/

/-- The name of a way of looking for words. -/
def reservedMatchName : ReservedMatch → String
  | .contains => "contains"
  | .exact => "exact"

/-- The name of a policy of admission. -/
def admissionName : Admission → String
  | .permissive => "permissive"
  | .rejectReserved => "reject_reserved"

/-- The settings as a record. -/
def toJson (config : Config) : Json :=
  .object
    [(some "grammar", config.grammar.elim .null Json.ofString),
      (some "default_kind", .ofString config.defaultKind),
      (some "whitespace_kind", .ofString config.whitespaceKind),
      (some "string_kind", .ofString config.stringKind),
      (some "strict_strings", .bool config.strictStrings),
      (some "reserved_match", .ofString (reservedMatchName config.reservedMatch)),
      (some "reserved_case_insensitive", .bool config.caseInsensitive),
      (some "admission", .ofString (admissionName config.admission)),
      (some "pattern_overrides",
        .object (config.overrides.entries.map fun entry =>
          (some entry.1, Json.ofString entry.2)))]

/-- The text of a configuration file with these settings. -/
def render (config : Config) : String :=
  config.toJson.render

end Config

end CallScript
