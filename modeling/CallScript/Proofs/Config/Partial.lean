import CallScript.Config.File
import CallScript.Proofs.Config.Settings
import CallScript.Proofs.Files.Save
import CallScript.Proofs.Json.RoundTrip

/-!
# Configuration files with some of the fields

A configuration file may give any of the nine fields, in any order, between members with other
names and any values.  What the members of an object give is described without the reader, as a
list of settings.  By induction on the members, a record has for each field what the settings
give, and no field is given twice when all of them are read.  So exactly the objects that give
settings of different fields are read, as the usual settings with the given fields replaced; this
is `ofJson?_object_eq_some_iff`.

As settings of different fields can be exchanged, the order of the members does not matter, and
the members with other names do not occur in the result at all.  The main statement is
`loadFrom_of_gives`.
-/

namespace CallScript.Config

open CallScript.Files

/-! ## What the members of an object give -/

/--
The members give the settings, each once for every member of its field; members with other names
may stand anywhere between them.
-/
inductive Gives : List (Option String × Json) → List Setting → Prop where
  | nil : Gives [] []
  | setting
      {setting : Setting}
      {json : Json}
      {members : List (Option String × Json)}
      {settings : List Setting}
      (written : setting.IsWritten json)
      (behind : Gives members settings) :
      Gives ((some setting.field, json) :: members) (setting :: settings)
  | other
      {key : String}
      (json : Json)
      {members : List (Option String × Json)}
      {settings : List Setting}
      (unknown : key ∉ fields)
      (behind : Gives members settings) :
      Gives ((some key, json) :: members) settings

section Members

variable
    {members : List (Option String × Json)}
    {settings : List Setting}
    (gives : Gives members settings)

include gives

theorem Gives.isSome_key
    {member : Option String × Json}
    (listed : member ∈ members) :
    member.1.isSome = true := by
  induction gives with
  | nil => cases listed
  | setting written behind ih =>
      rcases List.mem_cons.1 listed with rfl | later
      · rfl
      · exact ih later
  | other json unknown behind ih =>
      rcases List.mem_cons.1 listed with rfl | later
      · rfl
      · exact ih later

/-- A field has as many values as there are settings for it. -/
theorem Gives.length_valuesOf
    {name : String}
    (known : name ∈ fields) :
    (Json.valuesOf members name).length = (settings.map Setting.field).count name := by
  induction gives with
  | nil => rfl
  | @setting setting json members settings written behind ih =>
      rw [List.map_cons]
      by_cases same : setting.field = name
      · subst same
        rw [Json.valuesOf_cons_self, List.length_cons, ih, List.count_cons_self]
      · rw [Json.valuesOf_cons_of_ne same, ih, List.count_cons_of_ne same]
  | @other key json members settings unknown behind ih =>
      have apart : key ≠ name := by
        rintro rfl
        exact unknown known
      rw [Json.valuesOf_cons_of_ne apart, ih]

/-- A field that no setting is for has no values. -/
theorem Gives.valuesOf_eq_nil_iff
    {name : String}
    (known : name ∈ fields) :
    Json.valuesOf members name = [] ↔ name ∉ settings.map Setting.field := by
  rw [← List.length_eq_zero_iff, gives.length_valuesOf known, List.count_eq_zero]

end Members

/-! ## Records -/

/-- The field is given at most once and has the value from the settings, or else the old one. -/
theorem IsField.exists_field?
    {α : Type}
    {name : String}
    {read? : Json → Option α}
    {value : Config → α}
    (isField : IsField name read? value)
    {members : List (Option String × Json)}
    {settings : List Setting}
    (gives : Gives members settings)
    (distinct : (settings.map Setting.field).Nodup)
    (config : Config) :
    ∃ given,
      Json.field? members name = some given ∧
        fieldOr (value config) read? given = some (value (settings.foldl set config)) := by
  induction gives generalizing config with
  | nil => exact ⟨none, rfl, rfl⟩
  | @setting setting json members settings written behind ih =>
      rw [List.map_cons, List.nodup_cons] at distinct
      by_cases same : setting.field = name
      · subst same
        refine ⟨some json, Json.field?_cons_self_eq_some_iff.2 ⟨rfl, ?_⟩, ?_⟩
        · exact (behind.valuesOf_eq_nil_iff isField.known).2 distinct.1
        · rw [List.foldl_cons, isField.foldl_set distinct.1]
          exact isField.reads rfl written config
      · obtain ⟨given, found, reads⟩ := ih distinct.2 (config.set setting)
        refine ⟨given, ?_, ?_⟩
        · rwa [Json.field?_cons_of_ne same]
        · rwa [isField.keeps same] at reads
  | @other key json members settings unknown behind ih =>
      have apart : key ≠ name := by
        rintro rfl
        exact unknown isField.known
      obtain ⟨given, found, reads⟩ := ih distinct config
      refine ⟨given, ?_, reads⟩
      rwa [Json.field?_cons_of_ne apart]

/-- The members make a record whose fields are read as the usual settings with the given ones. -/
theorem ofJson?_object_of_gives
    {members : List (Option String × Json)}
    {settings : List Setting}
    (gives : Gives members settings)
    (distinct : (settings.map Setting.field).Nodup) :
    ofJson? (.object members) = some (settings.foldl set standard) := by
  obtain ⟨grammar, hasGrammar, readGrammar⟩ :=
    isField_grammar.exists_field? gives distinct standard
  obtain ⟨defaultKind, hasDefaultKind, readDefaultKind⟩ :=
    isField_defaultKind.exists_field? gives distinct standard
  obtain ⟨whitespaceKind, hasWhitespaceKind, readWhitespaceKind⟩ :=
    isField_whitespaceKind.exists_field? gives distinct standard
  obtain ⟨stringKind, hasStringKind, readStringKind⟩ :=
    isField_stringKind.exists_field? gives distinct standard
  obtain ⟨strictStrings, hasStrictStrings, readStrictStrings⟩ :=
    isField_strictStrings.exists_field? gives distinct standard
  obtain ⟨reservedMatch, hasReservedMatch, readReservedMatch⟩ :=
    isField_reservedMatch.exists_field? gives distinct standard
  obtain ⟨caseInsensitive, hasCaseInsensitive, readCaseInsensitive⟩ :=
    isField_caseInsensitive.exists_field? gives distinct standard
  obtain ⟨admission, hasAdmission, readAdmission⟩ :=
    isField_admission.exists_field? gives distinct standard
  obtain ⟨overrides, hasOverrides, readOverrides⟩ :=
    isField_overrides.exists_field? gives distinct standard
  have named : (members.all fun member => member.1.isSome) = true :=
    List.all_eq_true.2 fun member listed => gives.isSome_key listed
  have record :
      (Json.object members).record? fields =
        some
          [grammar, defaultKind, whitespaceKind, stringKind, strictStrings, reservedMatch,
            caseInsensitive, admission, overrides] := by
    rw [Json.record?, if_pos named]
    simp [fields, hasGrammar, hasDefaultKind, hasWhitespaceKind, hasStringKind, hasStrictStrings,
      hasReservedMatch, hasCaseInsensitive, hasAdmission, hasOverrides]
  rw [ofJson?, record]
  simp only [readGrammar, readDefaultKind, readWhitespaceKind, readStringKind, readStrictStrings,
    readReservedMatch, readCaseInsensitive, readAdmission, readOverrides]
  rfl

/--
Members with names give settings of different fields when every field is given at most once, with
a value that is written for it.
-/
theorem exists_gives
    {members : List (Option String × Json)}
    (named : ∀ member ∈ members, member.1.isSome = true)
    (proper :
      ∀ name ∈ fields,
        ∃ given, Json.field? members name = some given ∧ ∀ json ∈ given, IsValueOf name json) :
    ∃ settings, Gives members settings ∧ (settings.map Setting.field).Nodup := by
  induction members with
  | nil => exact ⟨[], .nil, List.nodup_nil⟩
  | cons member members ih =>
      rcases member with ⟨key, json⟩
      rw [List.forall_mem_cons] at named
      obtain ⟨key, rfl⟩ := Option.isSome_iff_exists.1 named.1
      have others :
          ∀ name ∈ fields,
            key ≠ name →
              ∃ given,
                Json.field? members name = some given ∧ ∀ json ∈ given, IsValueOf name json := by
        intro name known apart
        rw [← Json.field?_cons_of_ne apart json members]
        exact proper name known
      by_cases known : key ∈ fields
      · obtain ⟨given, found, written⟩ := proper key known
        obtain ⟨rfl, single⟩ := Json.field?_cons_self_eq_some_iff.1 found
        obtain ⟨setting, rfl, isWritten⟩ := written json rfl
        obtain ⟨settings, gives, distinct⟩ := ih named.2 <| by
          intro name knownName
          by_cases same : setting.field = name
          · subst same
            exact ⟨none, by rw [Json.field?, single], by rintro other ⟨⟩⟩
          · exact others name knownName same
        refine ⟨setting :: settings, .setting isWritten gives, ?_⟩
        rw [List.map_cons, List.nodup_cons]
        exact ⟨(gives.valuesOf_eq_nil_iff known).1 single, distinct⟩
      · obtain ⟨settings, gives, distinct⟩ := ih named.2 <| by
          intro name knownName
          refine others name knownName ?_
          rintro rfl
          exact known knownName
        exact ⟨settings, .other json known gives, distinct⟩

/-- An object that is read as a configuration gives settings of different fields. -/
theorem exists_gives_of_ofJson?
    {members : List (Option String × Json)}
    {config : Config}
    (read : ofJson? (.object members) = some config) :
    ∃ settings, Gives members settings ∧ (settings.map Setting.field).Nodup := by
  rw [ofJson?] at read
  split at read
  case h_2 => cases read
  rename_i grammar defaultKind whitespaceKind stringKind strictStrings reservedMatch
    caseInsensitive admission overrides record
  simp only [Option.bind_eq_bind, Option.bind_eq_some_iff] at read
  obtain ⟨_, readGrammar, _, readDefaultKind, _, readWhitespaceKind, _, readStringKind, _,
    readStrictStrings, _, readReservedMatch, _, readCaseInsensitive, _, readAdmission, _,
    readOverrides, -⟩ := read
  rw [Json.record?] at record
  split_ifs at record with named
  refine exists_gives (List.all_eq_true.1 named) ?_
  simp only [fields, List.mapM_cons, List.mapM_nil, Option.pure_def, Option.bind_eq_bind,
    Option.bind_some, Option.bind_eq_some_iff, Option.some.injEq, exists_exists_and_eq_and,
    exists_exists_and_exists_and_eq_and, ↓existsAndEq, and_true, List.cons.injEq,
    exists_eq_right_right] at record
  obtain ⟨hasGrammar, hasDefaultKind, hasWhitespaceKind, hasStringKind, hasStrictStrings,
    hasReservedMatch, hasCaseInsensitive, hasAdmission, hasOverrides⟩ := record
  simp only [fields, List.forall_mem_cons, List.not_mem_nil, IsEmpty.forall_iff, implies_true,
    and_true]
  exact ⟨⟨_, hasGrammar, isField_grammar.isValueOf readGrammar⟩,
    ⟨_, hasDefaultKind, isField_defaultKind.isValueOf readDefaultKind⟩,
    ⟨_, hasWhitespaceKind, isField_whitespaceKind.isValueOf readWhitespaceKind⟩,
    ⟨_, hasStringKind, isField_stringKind.isValueOf readStringKind⟩,
    ⟨_, hasStrictStrings, isField_strictStrings.isValueOf readStrictStrings⟩,
    ⟨_, hasReservedMatch, isField_reservedMatch.isValueOf readReservedMatch⟩,
    ⟨_, hasCaseInsensitive, isField_caseInsensitive.isValueOf readCaseInsensitive⟩,
    ⟨_, hasAdmission, isField_admission.isValueOf readAdmission⟩,
    ⟨_, hasOverrides, isField_overrides.isValueOf readOverrides⟩⟩

/-- Exactly the objects that give settings of different fields are read, with these settings. -/
theorem ofJson?_object_eq_some_iff
    {members : List (Option String × Json)}
    {config : Config} :
    ofJson? (.object members) = some config ↔
      ∃ settings,
        Gives members settings ∧
          (settings.map Setting.field).Nodup ∧ settings.foldl set standard = config := by
  constructor
  · intro read
    obtain ⟨settings, gives, distinct⟩ := exists_gives_of_ofJson? read
    rw [ofJson?_object_of_gives gives distinct] at read
    exact ⟨settings, gives, distinct, Option.some.inj read⟩
  · rintro ⟨settings, gives, distinct, rfl⟩
    exact ofJson?_object_of_gives gives distinct

/-! ## Files -/

/-- A file with a text is loaded as the configuration that the text means, if it means one. -/
theorem run_loadFrom_of_read?
    {text : String}
    {tree : Tree}
    {path : String}
    (reads : tree.read? path = some text.toUTF8) :
    (loadFrom Access.tree path).run tree =
      ((ofText? text).elim (.error (ConfigFault.malformed path)) .ok, tree) := by
  have decoded : (tree.read? path).bind String.fromUTF8? = some text := by
    rw [reads]
    exact dif_pos text.isValidUTF8
  rw [loadFrom, StateT.run_bind, Access.run_hasEntry, Tree.hasEntry_of_read? reads]
  show StateT.run (if true = true then _ else _) tree = _
  rw [if_pos rfl, StateT.run_bind, Access.run_readText?, decoded]
  dsimp only [bind]
  cases ofText? text with
  | none => rfl
  | some config => rfl

/-- At the path there is a file whose text is an object with the members. -/
def HoldsObject
    (tree : Tree)
    (path : String)
    (members : List (Option String × Json)) : Prop :=
  ∃ text : String,
    tree.read? path = some text.toUTF8 ∧ Json.Spells text.toList (.padded (.object members))

/-- A file with an object is loaded as the configuration that the object means, if it means one. -/
theorem run_loadFrom_of_holdsObject
    {tree : Tree}
    {path : String}
    {members : List (Option String × Json)}
    (holds : HoldsObject tree path members) :
    (loadFrom Access.tree path).run tree =
      ((ofJson? (.object members)).elim (.error (ConfigFault.malformed path)) .ok, tree) := by
  obtain ⟨text, stored, spelled⟩ := holds
  rw [run_loadFrom_of_read? stored, ofText?, Json.read?_eq_some_iff.2 spelled]
  rfl

/--
A file with an object that gives some fields, each at most once, and has any other members with
names of their own is loaded as the usual settings with the given fields replaced.  Another file
that gives the same fields the same values is loaded as the same, whatever the order is and
whatever else it holds.  A field that is given more than once is a fault of the file, whatever
its values are.
-/
theorem loadFrom_of_gives
    {tree : Tree}
    {path : String}
    {members : List (Option String × Json)}
    (holds : HoldsObject tree path members) :
    (∀ settings,
      Gives members settings →
        (settings.map Setting.field).Nodup →
          (loadFrom Access.tree path).run tree = (.ok (settings.foldl set standard), tree) ∧
            ∀ {otherTree : Tree} {other otherMembers otherSettings},
              HoldsObject otherTree other otherMembers →
                Gives otherMembers otherSettings →
                  settings.Perm otherSettings →
                    (loadFrom Access.tree other).run otherTree =
                      (.ok (settings.foldl set standard), otherTree)) ∧
      ∀ field ∈ fields,
        2 ≤ (members.map Prod.fst).count (some field) →
          (loadFrom Access.tree path).run tree = (.error (.malformed path), tree) := by
  constructor
  · intro settings gives distinct
    refine ⟨?_, ?_⟩
    · rw [run_loadFrom_of_holdsObject holds,
        ofJson?_object_eq_some_iff.2 ⟨settings, gives, distinct, rfl⟩]
      rfl
    · intro otherTree other otherMembers otherSettings otherHolds otherGives permuted
      have otherDistinct : (otherSettings.map Setting.field).Nodup :=
        (permuted.map Setting.field).nodup_iff.1 distinct
      have sameConfig := (foldl_set_perm permuted distinct standard).symm
      rw [run_loadFrom_of_holdsObject otherHolds,
        ofJson?_object_eq_some_iff.2 ⟨otherSettings, otherGives, otherDistinct, sameConfig⟩]
      rfl
  · intro field known repeated
    rw [run_loadFrom_of_holdsObject holds, ofJson?,
      Json.record?_eq_none_of_repeated known repeated]
    rfl

/--
The first file has an escape in the name of a field, a choice in its long form, white space, and a
member with another name whose value holds half of a surrogate pair as a key.  The second file
gives the same fields in another order, and the third gives a field twice.
-/
theorem loadFrom_of_gives_nested :
    let nested : String :=
      "\x7b\"x\":[\x7b\"\\ud800\":-0.5e+3\x7d],\n" ++
        "\"\\u0061dmission\":\x7b\"reject_reserved\":null\x7d ,\"strict_strings\":true\x7d"
    let exchanged : List (Option String × Json) :=
      [(some "strict_strings", .bool true), (some "admission", .ofString "reject_reserved")]
    let twice : List (Option String × Json) :=
      [(some "admission", .null), (some "x", .null), (some "admission", .null)]
    let tree : Tree :=
      ((Tree.empty.put ⟨.above 0, ["a".toList]⟩ (.file nested.toUTF8)).put
        ⟨.above 0, ["b".toList]⟩ (.file (Json.object exchanged).render.toUTF8)).put
          ⟨.above 0, ["c".toList]⟩ (.file (Json.object twice).render.toUTF8)
    let config : Config := { standard with strictStrings := true, admission := .rejectReserved }
    (loadFrom Access.tree "a").run tree = (.ok config, tree) ∧
      (loadFrom Access.tree "b").run tree = (.ok config, tree) ∧
        (loadFrom Access.tree "c").run tree = (.error (.malformed "c"), tree) := by
  intro nested exchanged twice tree config
  have zero : Json.IsWhole ['0'] := ⟨by decide, fun _ => rfl⟩
  have five : Json.IsDigits ['5'] := by decide
  have three : Json.IsDigits ['3'] := by decide
  have number : Json.IsNumber ['-', '0', '.', '5', 'e', '+', '3'] :=
    .intro .minus zero (.point five) (.signed (.inl rfl) (.inl rfl) three)
  have half : Json.SpellsParts ['\\', 'u', 'd', '8', '0', '0'] [.ofCode 0xD800] :=
    .code rfl .nil
  have unknown : Json.Spells _ (.value (.array [.object [(none, .number _)]])) :=
    .array (.lastElement (.bare
      (.object (.lastMember (.bare (.quoted half)) (.bare (.number number))))))
  have parts : Json.SpellsParts
      (['\\', 'u', '0', '0', '6', '1'] ++ "dmission".toList.flatMap Json.writtenChar)
      (.ofCode 0x61 :: "dmission".toList.map .character) :=
    .code rfl (Json.spellsParts_flatMap_writtenChar _)
  have escaped : Json.SpellsString _ (some "admission") := .quoted parts
  have written (name : String) : Json.SpellsKey _ (some name) :=
    .bare (Json.spellsString_writtenString name)
  have tagged : Json.Spells _ (.value (.object [(some "reject_reserved", .null)])) :=
    .object (.lastMember (written "reject_reserved") (.bare .null))
  have lineFeed : Json.IsBlank ['\n'] := by decide
  have space : Json.IsBlank [' '] := by decide
  have spelled : Json.Spells _ (.padded (.object _)) :=
    .bare (.object (.member (written "x") (.bare unknown)
      (.member (.padded lineFeed escaped Json.isBlank_nil)
        (.padded Json.isBlank_nil tagged space)
        (.lastMember (written "strict_strings") (.bare .true)))))
  have holdsNested : HoldsObject tree "a"
      [(some "x", .array [.object [(none, .number ['-', '0', '.', '5', 'e', '+', '3'])]]),
        (some "admission", .object [(some "reject_reserved", .null)]),
        (some "strict_strings", .bool true)] := by
    refine ⟨nested, rfl, ?_⟩
    convert spelled using 1
    decide +kernel
  have holdsExchanged : HoldsObject tree "b" exchanged := by
    refine ⟨_, rfl, Json.read?_eq_some_iff.1 (Json.IsTextual.read?_render (.object ?_ ?_))⟩
    · decide
    · exact List.forall_mem_cons.2 ⟨.bool true, List.forall_mem_singleton.2 (.ofString _)⟩
  have holdsTwice : HoldsObject tree "c" twice := by
    refine ⟨_, rfl, Json.read?_eq_some_iff.1 (Json.IsTextual.read?_render (.object ?_ ?_))⟩
    · decide
    · exact List.forall_mem_cons.2
        ⟨.null, List.forall_mem_cons.2 ⟨.null, List.forall_mem_singleton.2 .null⟩⟩
  have long : (Setting.admission .rejectReserved).IsWritten
      (.object [(some "reject_reserved", .null)]) := .admission .tagged
  have short : (Setting.admission .rejectReserved).IsWritten (.ofString "reject_reserved") :=
    .admission .name
  have strict : (Setting.strictStrings true).IsWritten (.bool true) := .strictStrings true
  have other : "x" ∉ fields := by decide
  obtain ⟨same, permuted⟩ := (loadFrom_of_gives holdsNested).1
    [.admission .rejectReserved, .strictStrings true]
    (.other _ other (.setting long (.setting strict .nil))) (by decide)
  refine ⟨same, ?_, ?_⟩
  · exact permuted holdsExchanged (.setting strict (.setting short .nil)) (.swap _ _ _)
  · exact (loadFrom_of_gives holdsTwice).2 "admission" (by decide) (by decide)

/-- A key whose escapes denote no text is a fault of the file, whatever else the file gives. -/
theorem run_loadFrom_of_key
    {tree : Tree}
    {path : String}
    {members : List (Option String × Json)}
    (holds : HoldsObject tree path members)
    {json : Json}
    (listed : (none, json) ∈ members) :
    (loadFrom Access.tree path).run tree = (.error (.malformed path), tree) := by
  rw [run_loadFrom_of_holdsObject holds, ofJson?, Json.record?_eq_none_of_key fields listed]
  rfl

/--
The names of the other members have to be texts: the only key of this file is half of a surrogate
pair.  It is none of the fields, but the file is not loaded as the usual settings.
-/
theorem loadFrom_halfPair :
    let members : List (Option String × Json) := [(none, .number ['0'])]
    let tree : Tree :=
      Tree.empty.put ⟨.above 0, ["a".toList]⟩ (.file "\x7b\"\\ud800\":0\x7d".toUTF8)
    HoldsObject tree "a" members ∧
      (∀ member ∈ members, ∀ field ∈ fields, member.1 ≠ some field) ∧
        (loadFrom Access.tree "a").run tree = (.error (.malformed "a"), tree) ∧
          (loadFrom Access.tree "a").run tree ≠ (.ok standard, tree) := by
  intro members tree
  have zero : Json.IsWhole ['0'] := ⟨by decide, fun _ => rfl⟩
  have half : Json.SpellsParts ['\\', 'u', 'd', '8', '0', '0'] [.ofCode 0xD800] :=
    .code rfl .nil
  have spelled : Json.Spells _ (.padded (.object members)) :=
    .bare (.object (.lastMember (.bare (.quoted half))
      (.bare (.number (.intro .missing zero .missing .missing)))))
  have holds : HoldsObject tree "a" members := by
    refine ⟨"\x7b\"\\ud800\":0\x7d", rfl, ?_⟩
    convert spelled using 1
    decide +kernel
  have fault := run_loadFrom_of_key holds List.mem_cons_self
  refine ⟨holds, by decide, fault, ?_⟩
  rw [fault]
  rintro ⟨⟩

end CallScript.Config
