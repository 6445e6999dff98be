import CallScript.Proofs.Config.Partial
import CallScript.Proofs.NameMap.Order

/-!
# Loading what was saved

The record that the settings are written as gives every field, with its own
value, so the settings are read back from it, and the record from its text.
Together with the laws of saving this says that settings which were saved to a
file are loaded from it again, and that no other file is touched.

The main statement is `loadFrom_of_saveTo`.
-/

namespace CallScript.Config

open CallScript.Files

/-- A setting for every field, with the value that the configuration holds. -/
def settings (config : Config) : List Setting :=
  [.grammar config.grammar, .defaultKind config.defaultKind,
    .whitespaceKind config.whitespaceKind, .stringKind config.stringKind,
    .strictStrings config.strictStrings, .reservedMatch config.reservedMatch,
    .caseInsensitive config.caseInsensitive, .admission config.admission,
    .overrides config.overrides]

/-- The settings are read back from the record that they are written as. -/
theorem ofJson?_toJson
    {config : Config}
    (ordered : config.overrides.IsOrdered) :
    ofJson? config.toJson = some config := by
  have grammar : (Setting.grammar config.grammar).IsWritten
      (config.grammar.elim .null Json.ofString) := by
    cases config.grammar with
    | none => exact .noGrammar
    | some path => exact .grammar path
  have overrides := Setting.IsWritten.overrides config.overrides.entries
  rw [ordered.ofList_entries] at overrides
  have gives : Gives _ config.settings :=
    .setting grammar <| .setting (.defaultKind _) <| .setting (.whitespaceKind _) <|
      .setting (.stringKind _) <| .setting (.strictStrings _) <|
        .setting (.reservedMatch .name) <| .setting (.caseInsensitive _) <|
          .setting (.admission .name) <| .setting overrides .nil
  have distinct : (config.settings.map Setting.field).Nodup := by
    show fields.Nodup
    decide
  have replaced : config.settings.foldl set standard = config := by
    simp only [settings, List.foldl_cons, List.foldl_nil, set]
  rw [toJson]
  exact ofJson?_object_eq_some_iff.2 ⟨config.settings, gives, distinct, replaced⟩

theorem isTextual_toJson
    (config : Config) :
    config.toJson.IsTextual := by
  have grammar : (config.grammar.elim .null Json.ofString).IsTextual := by
    cases config.grammar with
    | none => exact .null
    | some path => exact .ofString path
  rw [toJson]
  refine .object ?_ ?_
  · simp only [List.forall_mem_cons, Option.isSome_some, List.not_mem_nil, IsEmpty.forall_iff,
      implies_true, and_self]
  · simp only [List.forall_mem_cons, List.not_mem_nil, IsEmpty.forall_iff, implies_true, and_true]
    exact ⟨grammar, .ofString _, .ofString _, .ofString _, .bool _, .ofString _, .bool _,
      .ofString _, Json.isTextual_texts config.overrides.entries⟩

theorem ofText?_render
    {config : Config}
    (ordered : config.overrides.IsOrdered) :
    ofText? config.render = some config := by
  rw [ofText?, render, config.isTextual_toJson.read?_render]
  exact ofJson?_toJson ordered

theorem run_saveTo
    (config : Config)
    (tree : Tree)
    (path : String) :
    (config.saveTo Access.tree path).run tree =
      (if (tree.save path config.render.toUTF8).2 then .ok ()
        else .error (ConfigFault.inaccessible path),
        (tree.save path config.render.toUTF8).1) := by
  rw [saveTo]
  generalize config.render.toUTF8 = contents
  rw [StateT.run_bind, Access.run_save]
  cases (tree.save path contents).2 with
  | true => rfl
  | false => rfl

/-- A file with the text of a configuration is loaded as that configuration. -/
theorem run_loadFrom
    {config : Config}
    {text : String}
    (means : ofText? text = some config)
    {tree : Tree}
    {path : String}
    (reads : tree.read? path = some text.toUTF8) :
    (loadFrom Access.tree path).run tree = (.ok config, tree) := by
  rw [run_loadFrom_of_read? reads, means]
  rfl

/--
Settings that were saved successfully are loaded again from the same path.  At
every other place there is a file exactly if there was one, with the same
contents, and every path that does not name the saved file still reads what it
read.
-/
theorem loadFrom_of_saveTo
    {config : Config}
    (ordered : config.overrides.IsOrdered)
    {tree saved : Tree}
    {path : String}
    (done : (config.saveTo Access.tree path).run tree = (.ok (), saved)) :
    (loadFrom Access.tree path).run saved = (.ok config, saved) ∧
      (∀ place,
        saved.place? path ≠ some place →
          ∀ contents,
            saved.entry? place = some (.file contents) ↔
              tree.entry? place = some (.file contents)) ∧
      ∀ other,
        saved.place? other ≠ saved.place? path →
          ∀ contents, tree.read? other = some contents → saved.read? other = some contents := by
  have written : tree.save path config.render.toUTF8 = (saved, true) := by
    rw [run_saveTo] at done
    rcases outcome : tree.save path config.render.toUTF8 with ⟨after, succeeded⟩
    rw [outcome] at done
    cases succeeded with
    | false => cases done
    | true =>
        cases done
        rfl
  refine ⟨run_loadFrom (ofText?_render ordered) (Tree.read?_of_save written), ?_, ?_⟩
  · intro place elsewhere contents
    exact Tree.entry?_of_save written elsewhere contents
  · intro other elsewhere contents reads
    exact Tree.read?_of_save_of_ne written elsewhere reads

/-- Quotes, controls and letters of all kinds, next to a file that stays as it is. -/
theorem loadFrom_of_saveTo_special :
    let config : Config :=
      { standard with
        grammar := some "r\u00e9gles \"1\".json"
        defaultKind := "a\x00\x1f\tb"
        whitespaceKind := "\\u0041"
        stringKind := ""
        reservedMatch := .exact
        admission := .rejectReserved
        overrides := .ofList [("b", "\n"), ("a", "[0-9]"), ("b", "/\x7f")] }
    let tree : Tree := Tree.empty.put ⟨.above 0, ["notes".toList]⟩ (.file "text".toUTF8)
    let saved : Tree := (tree.save "etc/../etc/config.json" config.render.toUTF8).1
    (config.saveTo Access.tree "etc/../etc/config.json").run tree = (.ok (), saved) ∧
      (loadFrom Access.tree "etc/../etc/config.json").run saved = (.ok config, saved) ∧
      saved.read? "notes" = some "text".toUTF8 := by
  intro config tree saved
  have done :
      (config.saveTo Access.tree "etc/../etc/config.json").run tree = (.ok (), saved) := by
    have succeeded : (tree.save "etc/../etc/config.json" config.render.toUTF8).2 = true := by
      decide +kernel
    rw [run_saveTo, succeeded, if_pos rfl]
  have ordered : config.overrides.IsOrdered := NameMap.isOrdered_ofList _
  obtain ⟨loaded, -, kept⟩ := loadFrom_of_saveTo ordered done
  refine ⟨done, loaded, kept "notes" ?_ "text".toUTF8 rfl⟩
  decide +kernel

end CallScript.Config
