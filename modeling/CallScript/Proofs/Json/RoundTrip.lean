import CallScript.Json.Printer
import CallScript.Proofs.Json.Spelling

/-!
# Reading back what was written

A value without numbers, in which every string and every key has a content, is
spelled by its own text, and so it is read back from it.  Strings come first,
character by character; then a value at any level, by induction on the value,
with the elements of an array and the members of an object put together from
the first one to the closing bracket.

The main statement is `read?_written`.
-/

namespace CallScript.Json

open CallScript.Text

/-! ## Strings -/

theorem hexCode?_hexPadded :
    ∀ value < 32,
      ∃ first second third fourth,
        hexPadded 4 value = [first, second, third, fourth] ∧
          hexCode? first second third fourth = some value := by
  intro value small
  refine ⟨_, _, _, _, rfl, ?_⟩
  revert value
  decide

/-- A written character spells a part of its own. -/
theorem spellsParts_writtenChar_append
    (character : Char)
    {text : List Char}
    {parts : List StringPart}
    (behind : SpellsParts text parts) :
    SpellsParts (writtenChar character ++ text) (.character character :: parts) := by
  rw [writtenChar]
  split_ifs with quote backslash backspace tabulator lineFeed formFeed carriageReturn control
  · subst quote
    exact .escaped rfl behind
  · subst backslash
    exact .escaped rfl behind
  · subst backspace
    exact .escaped rfl behind
  · subst tabulator
    exact .escaped rfl behind
  · subst lineFeed
    exact .escaped rfl behind
  · subst formFeed
    exact .escaped rfl behind
  · subst carriageReturn
    exact .escaped rfl behind
  · rcases hexCode?_hexPadded character.toNat control with
      ⟨first, second, third, fourth, digits, code⟩
    have part : StringPart.ofCode character.toNat = .character character := by
      have low : ¬0xD800 ≤ character.toNat := by omega
      have lower : ¬0xDC00 ≤ character.toNat := by omega
      simp [StringPart.ofCode, low, lower]
    rw [digits, ← part]
    exact .code code behind
  · exact .plain quote backslash control behind

theorem spellsParts_flatMap_writtenChar
    (text : List Char) :
    SpellsParts (text.flatMap writtenChar) (text.map StringPart.character) := by
  induction text with
  | nil => exact .nil
  | cons character text ih =>
      rw [List.flatMap_cons, List.map_cons]
      exact spellsParts_writtenChar_append character ih

theorem textOf?_map_character
    (text : List Char) :
    textOf? (text.map StringPart.character) = some text := by
  induction text with
  | nil => rfl
  | cons character text ih => rw [List.map_cons, textOf?, ih, Option.map_some]

/-- A text is spelled by the string that it is written as. -/
theorem spellsString_writtenString
    (text : String) :
    SpellsString (writtenString text.toList) (some text) := by
  have content :
      (textOf? (text.toList.map StringPart.character)).map String.ofList = some text := by
    rw [textOf?_map_character, Option.map_some, String.ofList_toList]
  rw [← content]
  exact .quoted (spellsParts_flatMap_writtenChar text.toList)

/-! ## Values -/

/-- A value without numbers, in which every string and every key has a content. -/
inductive IsTextual : Json → Prop
  | null : IsTextual .null
  | bool (value : Bool) : IsTextual (.bool value)
  | ofString (text : String) : IsTextual (.ofString text)
  | array
      {elements : List Json}
      (textual : ∀ element ∈ elements, IsTextual element) :
      IsTextual (.array elements)
  | object
      {members : List (Option String × Json)}
      (keys : ∀ member ∈ members, member.1.isSome = true)
      (textual : ∀ member ∈ members, IsTextual member.2) :
      IsTextual (.object members)

/-- An object whose values are texts is textual. -/
theorem isTextual_texts
    (texts : List (String × String)) :
    (Json.object (texts.map fun entry => (some entry.1, .ofString entry.2))).IsTextual := by
  constructor
  · intro member listed
    rcases List.mem_map.1 listed with ⟨entry, -, rfl⟩
    rfl
  · intro member listed
    rcases List.mem_map.1 listed with ⟨entry, -, rfl⟩
    exact .ofString entry.2

theorem isBlank_newLine
    (level : Nat) :
    IsBlank (newLine level) := by
  intro character listed
  rcases List.mem_cons.1 listed with rfl | behind
  · rfl
  · rw [List.eq_of_mem_replicate behind]
    rfl

/-- The elements of an array, each on a line of its own, up to the closing bracket. -/
theorem spells_writtenElements
    {level : Nat}
    {element : Json}
    {elements : List Json}
    (spelled : Spells (element.written level) (.value element))
    (others : ∀ other ∈ elements, Spells (other.written level) (.value other))
    (outer : Nat) :
    Spells (newLine level ++ element.written level ++ (writtenElements level elements ++
        newLine outer))
      (.elements (element :: elements)) := by
  induction elements generalizing element with
  | nil => exact .lastElement (.padded (isBlank_newLine level) spelled (isBlank_newLine outer))
  | cons second elements ih =>
      rw [List.forall_mem_cons] at others
      have later := Spells.element (.padded (isBlank_newLine level) spelled isBlank_nil)
        (ih others.1 others.2)
      simpa [writtenElements] using later

theorem spellsKey_writtenString
    (level : Nat)
    (key : String) :
    SpellsKey (newLine level ++ writtenString key.toList) (some key) := by
  have named : SpellsKey (newLine level ++ writtenString key.toList ++ []) (some key) :=
    .padded (isBlank_newLine level) (spellsString_writtenString key) isBlank_nil
  rwa [List.append_nil] at named

/-- The members of an object, each on a line of its own, up to the closing brace. -/
theorem spells_writtenMembers
    {level : Nat}
    (key : String)
    {value : Json}
    {members : List (Option String × Json)}
    (spelled : Spells (value.written level) (.value value))
    (keys : ∀ member ∈ members, member.1.isSome = true)
    (others : ∀ member ∈ members, Spells (member.2.written level) (.value member.2))
    (outer : Nat) :
    Spells (newLine level ++ writtenString key.toList ++ ':' :: ([' '] ++ value.written level ++
        (writtenMembers level members ++ newLine outer)))
      (.members ((some key, value) :: members)) := by
  have named := spellsKey_writtenString level key
  have space : IsBlank [' '] := by decide
  induction members generalizing key value with
  | nil => exact .lastMember named (.padded space spelled (isBlank_newLine outer))
  | cons second members ih =>
      rcases second with ⟨secondKey, second⟩
      rw [List.forall_mem_cons] at keys others
      obtain ⟨secondKey, rfl⟩ := Option.isSome_iff_exists.1 keys.1
      have later := Spells.member named (.padded space spelled isBlank_nil)
        (ih secondKey others.1 keys.2 others.2 (spellsKey_writtenString level secondKey))
      simpa [writtenMembers] using later

/-- A textual value is spelled by its own text. -/
theorem IsTextual.spells
    {json : Json}
    (textual : json.IsTextual)
    (level : Nat) :
    Spells (json.written level) (.value json) := by
  induction textual generalizing level with
  | null => exact .null
  | bool value =>
      cases value with
      | false => exact .false
      | true => exact .true
  | ofString text => exact .string (spellsString_writtenString text)
  | @array elements textual ih =>
      cases elements with
      | nil => exact .emptyArray isBlank_nil
      | cons element elements =>
          rw [List.forall_mem_cons] at ih
          have inside := Spells.array
            (spells_writtenElements (ih.1 (level + 1)) (fun other listed =>
              ih.2 other listed (level + 1)) level)
          simpa [written] using inside
  | @object members keys textual ih =>
      cases members with
      | nil => exact .emptyObject isBlank_nil
      | cons member members =>
          rcases member with ⟨key, value⟩
          rw [List.forall_mem_cons] at keys ih
          obtain ⟨key, rfl⟩ := Option.isSome_iff_exists.1 keys.1
          have inside := Spells.object
            (spells_writtenMembers key (ih.1 (level + 1)) keys.2 (fun other listed =>
              ih.2 other listed (level + 1)) level)
          simpa [written] using inside

/-- A textual value is what its text is read as, also with white space behind it. -/
theorem read?_written_append
    {json : Json}
    (textual : json.IsTextual)
    (level : Nat)
    {rest : List Char}
    (blank : dropSpace rest = []) :
    read? (json.written level ++ rest) = some json := by
  obtain ⟨space, isBlank, whole⟩ := exists_dropSpace rest
  rw [blank, List.append_nil] at whole
  rw [read?_eq_some_iff, whole]
  exact .padded isBlank_nil (textual.spells level) isBlank

/-- A textual value is what its text is read as. -/
theorem read?_written
    {json : Json}
    (textual : json.IsTextual)
    (level : Nat) :
    read? (json.written level) = some json := by
  have whole := read?_written_append textual level (show dropSpace [] = [] from rfl)
  rwa [List.append_nil] at whole

theorem IsTextual.read?_render
    {json : Json}
    (textual : json.IsTextual) :
    read? json.render.toList = some json := by
  rw [render, String.toList_ofList]
  exact read?_written textual 0

end CallScript.Json
