import CallScript.Config.Basic
import CallScript.Proofs.Json.Record

/-!
# Settings

One field of the configuration with a value for it, how the value is written in a file, and the
configuration with the field replaced.  Replacements of different fields can be exchanged.

For each of the nine fields there are laws for its reader and for what the configuration holds:
the values that are written for the field are the ones that are read, and only the settings of
the field change what is held.  `IsField` puts them together; everything about a record follows
from them for all fields at once.
-/

namespace CallScript.Config

/-! ## Settings -/

/-- A field of the configuration with a value for it. -/
inductive Setting where
  /-- The grammar file, or none. -/
  | grammar (path : Option String)
  /-- The kind of the tokens that stand for gaps. -/
  | defaultKind (kind : String)
  /-- The kind of the matches that are left out. -/
  | whitespaceKind (kind : String)
  /-- The kind of the matches that are never promoted. -/
  | stringKind (kind : String)
  /-- Whether a gap must not hold a double quote. -/
  | strictStrings (on : Bool)
  /-- Where in a match a word of the vocabulary is looked for. -/
  | reservedMatch (reservedMatch : ReservedMatch)
  /-- Whether words of the vocabulary are found in either case. -/
  | caseInsensitive (on : Bool)
  /-- Which names may be bound. -/
  | admission (admission : Admission)
  /-- Patterns to be exchanged in the grammar, by kind. -/
  | overrides (overrides : NameMap String)

/-- A choice is written as its name, or as an object that gives the name the value null. -/
inductive IsChoice (name : String) : Json → Prop where
  | name : IsChoice name (.ofString name)
  | tagged : IsChoice name (.object [(some name, .null)])

theorem choice?_eq_some_iff
    {name : String}
    {json : Json} :
    json.choice? = some name ↔ IsChoice name json := by
  constructor
  · intro chosen
    rw [Json.choice?.eq_def] at chosen
    split at chosen
    · cases chosen
      exact .name
    · cases chosen
      exact .tagged
    · cases chosen
  · intro choice
    cases choice with
    | name => rfl
    | tagged => rfl

theorem string?_eq_some
    {json : Json}
    {text : String}
    (read : json.string? = some text) :
    json = .ofString text := by
  cases json with
  | string content => exact congrArg Json.string read
  | _ => cases read

theorem bool?_eq_some
    {json : Json}
    {value : Bool}
    (read : json.bool? = some value) :
    json = .bool value := by
  cases json with
  | bool content => exact congrArg Json.bool (Option.some.inj read)
  | _ => cases read

namespace Setting

/-- The name of the field. -/
def field : Setting → String
  | .grammar _ => "grammar"
  | .defaultKind _ => "default_kind"
  | .whitespaceKind _ => "whitespace_kind"
  | .stringKind _ => "string_kind"
  | .strictStrings _ => "strict_strings"
  | .reservedMatch _ => "reserved_match"
  | .caseInsensitive _ => "reserved_case_insensitive"
  | .admission _ => "admission"
  | .overrides _ => "pattern_overrides"

/-- How the value is written in a file. -/
inductive IsWritten : Setting → Json → Prop where
  | noGrammar : IsWritten (.grammar none) .null
  | grammar (path : String) : IsWritten (.grammar (some path)) (.ofString path)
  | defaultKind (kind : String) : IsWritten (.defaultKind kind) (.ofString kind)
  | whitespaceKind (kind : String) : IsWritten (.whitespaceKind kind) (.ofString kind)
  | stringKind (kind : String) : IsWritten (.stringKind kind) (.ofString kind)
  | strictStrings (on : Bool) : IsWritten (.strictStrings on) (.bool on)
  | reservedMatch
      {reservedMatch : ReservedMatch}
      {json : Json}
      (choice : IsChoice (reservedMatchName reservedMatch) json) :
      IsWritten (.reservedMatch reservedMatch) json
  | caseInsensitive (on : Bool) : IsWritten (.caseInsensitive on) (.bool on)
  | admission
      {admission : Admission}
      {json : Json}
      (choice : IsChoice (admissionName admission) json) :
      IsWritten (.admission admission) json
  | overrides
      (texts : List (String × String)) :
      IsWritten (.overrides (.ofList texts))
        (.object (texts.map fun entry => (some entry.1, .ofString entry.2)))

end Setting

/-- The value is written for the field with the name. -/
def IsValueOf (name : String) (json : Json) : Prop :=
  ∃ setting : Setting, setting.field = name ∧ setting.IsWritten json

/-- The settings with one field replaced by its value. -/
def set (config : Config) : Setting → Config
  | .grammar path => { config with grammar := path }
  | .defaultKind kind => { config with defaultKind := kind }
  | .whitespaceKind kind => { config with whitespaceKind := kind }
  | .stringKind kind => { config with stringKind := kind }
  | .strictStrings on => { config with strictStrings := on }
  | .reservedMatch place => { config with reservedMatch := place }
  | .caseInsensitive on => { config with caseInsensitive := on }
  | .admission policy => { config with admission := policy }
  | .overrides patterns => { config with overrides := patterns }

/-- Settings of different fields can be exchanged. -/
theorem set_comm
    {first second : Setting}
    (apart : first.field ≠ second.field)
    (config : Config) :
    (config.set first).set second = (config.set second).set first := by
  cases first <;> cases second <;> first | rfl | exact absurd rfl apart

/-- The settings with the fields replaced do not depend on the order of the replacements. -/
theorem foldl_set_perm
    {settings others : List Setting}
    (permuted : settings.Perm others)
    (distinct : (settings.map Setting.field).Nodup)
    (config : Config) :
    settings.foldl set config = others.foldl set config := by
  apply permuted.foldl_eq'
  intro first inFirst second inSecond config
  by_cases same : first.field = second.field
  · rw [List.inj_on_of_nodup_map distinct inFirst inSecond same]
  · exact set_comm same config

/-! ## Fields -/

/--
The field has the name and the reader, and the configuration holds its value: exactly the values
that are written for the field are read, and only its own settings change what it holds.
-/
structure IsField {α : Type} (name : String) (read? : Json → Option α) (value : Config → α) :
    Prop where
  known : name ∈ fields
  reads :
    ∀ {setting json},
      setting.field = name →
        setting.IsWritten json → ∀ config : Config, read? json = some (value (config.set setting))
  writes : ∀ {json content}, read? json = some content → IsValueOf name json
  keeps :
    ∀ {setting}, setting.field ≠ name → ∀ config : Config, value (config.set setting) = value config

section Field

variable
    {α : Type}
    {name : String}
    {read? : Json → Option α}
    {value : Config → α}
    (isField : IsField name read? value)

include isField

theorem IsField.foldl_set
    {settings : List Setting}
    (absent : name ∉ settings.map Setting.field)
    (config : Config) :
    value (settings.foldl set config) = value config := by
  induction settings generalizing config with
  | nil => rfl
  | cons setting settings ih =>
      rw [List.map_cons, List.mem_cons, not_or] at absent
      rw [List.foldl_cons, ih absent.2, isField.keeps (Ne.symm absent.1)]

/-- What a record has for the field is written for it, when it is read. -/
theorem IsField.isValueOf
    {usual content : α}
    {given : Option Json}
    (read : fieldOr usual read? given = some content) :
    ∀ json ∈ given, IsValueOf name json := by
  rintro json ⟨⟩
  exact isField.writes read

end Field

theorem overridesOfJson?_texts
    (texts : List (String × String)) :
    overridesOfJson? (.object (texts.map fun entry => (some entry.1, Json.ofString entry.2))) =
      some (NameMap.ofList texts) := by
  have bindings :
      (texts.map fun entry => (some entry.1, Json.ofString entry.2)).mapM overrideOfMember? =
        some (texts.map id) := by
    rw [List.mapM_map]
    exact Json.mapM_eq_some_map fun _ _ => rfl
  rw [overridesOfJson?, bindings, List.map_id, Option.map_some]

theorem overrideOfMember?_eq_some
    {member : Option String × Json}
    {entry : String × String}
    (read : overrideOfMember? member = some entry) :
    member = (some entry.1, .ofString entry.2) := by
  rcases member with ⟨key, json⟩
  simp only [overrideOfMember?, Option.bind_eq_bind, Option.bind_eq_some_iff] at read
  obtain ⟨kind, rfl, pattern, text, last⟩ := read
  cases last
  rw [string?_eq_some text]

/-- A map that is read is written as an object of texts. -/
theorem exists_texts
    {json : Json}
    {overrides : NameMap String}
    (read : overridesOfJson? json = some overrides) :
    ∃ texts : List (String × String),
      json = .object (texts.map fun entry => (some entry.1, .ofString entry.2)) := by
  cases json with
  | object members =>
      rw [overridesOfJson?, Option.map_eq_some_iff] at read
      obtain ⟨texts, bindings, -⟩ := read
      refine ⟨texts, congrArg Json.object ?_⟩
      exact Json.eq_map_of_mapM_eq_some (fun _ _ => overrideOfMember?_eq_some) bindings
  | _ => cases read

theorem isField_grammar : IsField "grammar" pathOfJson? Config.grammar where
  known := by decide
  reads := by
    intro setting json same written config
    cases written with
    | noGrammar => rfl
    | grammar path => rfl
    | _ => simp [Setting.field] at same
  writes := by
    intro json content read
    cases json with
    | null => exact ⟨_, rfl, .noGrammar⟩
    | string path =>
        cases path with
        | none => cases read
        | some path => exact ⟨_, rfl, .grammar path⟩
    | _ => cases read
  keeps := by
    intro setting apart config
    cases setting with
    | grammar => exact absurd rfl apart
    | _ => rfl

theorem isField_defaultKind : IsField "default_kind" Json.string? Config.defaultKind where
  known := by decide
  reads := by
    intro setting json same written config
    cases written with
    | defaultKind kind => rfl
    | _ => simp [Setting.field] at same
  writes := by
    intro json content read
    obtain rfl := string?_eq_some read
    exact ⟨_, rfl, .defaultKind content⟩
  keeps := by
    intro setting apart config
    cases setting with
    | defaultKind => exact absurd rfl apart
    | _ => rfl

theorem isField_whitespaceKind : IsField "whitespace_kind" Json.string? Config.whitespaceKind where
  known := by decide
  reads := by
    intro setting json same written config
    cases written with
    | whitespaceKind kind => rfl
    | _ => simp [Setting.field] at same
  writes := by
    intro json content read
    obtain rfl := string?_eq_some read
    exact ⟨_, rfl, .whitespaceKind content⟩
  keeps := by
    intro setting apart config
    cases setting with
    | whitespaceKind => exact absurd rfl apart
    | _ => rfl

theorem isField_stringKind : IsField "string_kind" Json.string? Config.stringKind where
  known := by decide
  reads := by
    intro setting json same written config
    cases written with
    | stringKind kind => rfl
    | _ => simp [Setting.field] at same
  writes := by
    intro json content read
    obtain rfl := string?_eq_some read
    exact ⟨_, rfl, .stringKind content⟩
  keeps := by
    intro setting apart config
    cases setting with
    | stringKind => exact absurd rfl apart
    | _ => rfl

theorem isField_strictStrings : IsField "strict_strings" Json.bool? Config.strictStrings where
  known := by decide
  reads := by
    intro setting json same written config
    cases written with
    | strictStrings on => rfl
    | _ => simp [Setting.field] at same
  writes := by
    intro json content read
    obtain rfl := bool?_eq_some read
    exact ⟨_, rfl, .strictStrings content⟩
  keeps := by
    intro setting apart config
    cases setting with
    | strictStrings => exact absurd rfl apart
    | _ => rfl

theorem isField_reservedMatch :
    IsField "reserved_match" reservedMatchOfJson? Config.reservedMatch where
  known := by decide
  reads := by
    intro setting json same written config
    cases written with
    | @reservedMatch place json choice =>
        rw [reservedMatchOfJson?, choice?_eq_some_iff.2 choice]
        cases place with
        | contains => rfl
        | exact => rfl
    | _ => simp [Setting.field] at same
  writes := by
    intro json content read
    rw [reservedMatchOfJson?] at read
    split at read
    · rename_i chosen
      exact ⟨.reservedMatch .contains, rfl, .reservedMatch (choice?_eq_some_iff.1 chosen)⟩
    · rename_i chosen
      exact ⟨.reservedMatch .exact, rfl, .reservedMatch (choice?_eq_some_iff.1 chosen)⟩
    · cases read
  keeps := by
    intro setting apart config
    cases setting with
    | reservedMatch => exact absurd rfl apart
    | _ => rfl

theorem isField_caseInsensitive :
    IsField "reserved_case_insensitive" Json.bool? Config.caseInsensitive where
  known := by decide
  reads := by
    intro setting json same written config
    cases written with
    | caseInsensitive on => rfl
    | _ => simp [Setting.field] at same
  writes := by
    intro json content read
    obtain rfl := bool?_eq_some read
    exact ⟨_, rfl, .caseInsensitive content⟩
  keeps := by
    intro setting apart config
    cases setting with
    | caseInsensitive => exact absurd rfl apart
    | _ => rfl

theorem isField_admission : IsField "admission" admissionOfJson? Config.admission where
  known := by decide
  reads := by
    intro setting json same written config
    cases written with
    | @admission policy json choice =>
        rw [admissionOfJson?, choice?_eq_some_iff.2 choice]
        cases policy with
        | permissive => rfl
        | rejectReserved => rfl
    | _ => simp [Setting.field] at same
  writes := by
    intro json content read
    rw [admissionOfJson?] at read
    split at read
    · rename_i chosen
      exact ⟨.admission .permissive, rfl, .admission (choice?_eq_some_iff.1 chosen)⟩
    · rename_i chosen
      exact ⟨.admission .rejectReserved, rfl, .admission (choice?_eq_some_iff.1 chosen)⟩
    · cases read
  keeps := by
    intro setting apart config
    cases setting with
    | admission => exact absurd rfl apart
    | _ => rfl

theorem isField_overrides : IsField "pattern_overrides" overridesOfJson? Config.overrides where
  known := by decide
  reads := by
    intro setting json same written config
    cases written with
    | overrides texts => exact overridesOfJson?_texts texts
    | _ => simp [Setting.field] at same
  writes := by
    intro json content read
    obtain ⟨texts, rfl⟩ := exists_texts read
    exact ⟨_, rfl, .overrides texts⟩
  keeps := by
    intro setting apart config
    cases setting with
    | overrides => exact absurd rfl apart
    | _ => rfl

end CallScript.Config
