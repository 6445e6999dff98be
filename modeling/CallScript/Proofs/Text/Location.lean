import CallScript.Text.Location

/-!
# Places of a text

A location that is computed from the text in front of a place is the line and
the column of that place, and the distance of the place in bytes leads to the
same location.
-/

namespace CallScript.Text

/--
A line and a column, both counted from one, of the place behind a text: the
line is told by the line feeds, and the column by the characters behind the
last of them.
-/
structure IsPlaceBehind (passed : List Char) (location : Location) : Prop where
  /-- One line more than line feeds. -/
  line : location.line = passed.count '\n' + 1
  /-- One column more than characters in the last line. -/
  column :
    ∃ finished current : List Char,
      passed = finished ++ current ∧
        (finished = [] ∨ finished.getLast? = some '\n') ∧
        '\n' ∉ current ∧
        location.column = current.length + 1

/-- A text ends with its last line, which begins behind a line feed or with the text itself. -/
theorem exists_append_lastLine
    (text : List Char) :
    ∃ finished,
      text = finished ++ lastLine text ∧ (finished = [] ∨ finished.getLast? = some '\n') := by
  refine ⟨(text.reverse.dropWhile (· ≠ '\n')).reverse, ?_, ?_⟩
  · rw [lastLine, ← List.reverse_append, List.takeWhile_append_dropWhile, List.reverse_reverse]
  · have first := List.head?_dropWhile_not (fun character => decide (character ≠ '\n')) text.reverse
    rw [List.getLast?_reverse]
    cases finished : text.reverse.dropWhile (· ≠ '\n') with
    | nil => exact .inl rfl
    | cons character rest =>
        rw [finished] at first
        exact .inr (by simpa using first)

theorem lineFeed_notMem_lastLine
    (text : List Char) :
    '\n' ∉ lastLine text := by
  intro member
  rw [lastLine, List.mem_reverse] at member
  have kept := List.all_eq_true.1 List.all_takeWhile _ member
  simp at kept

/-- The location behind a text is the line and the column of that place. -/
theorem Location.behind_isPlaceBehind
    (passed : List Char) :
    IsPlaceBehind passed (Location.behind passed) := by
  rcases exists_append_lastLine passed with ⟨finished, divided, lineFeed⟩
  constructor
  · rfl
  · exact ⟨finished, lastLine passed, divided, lineFeed, lineFeed_notMem_lastLine passed, rfl⟩

theorem beforeByte?_utf8ByteSize
    (passed rest : List Char) :
    beforeByte? (passed ++ rest) (String.ofList passed).utf8ByteSize = some passed := by
  induction passed with
  | nil => simp [beforeByte?]
  | cons character passed ih =>
      have bytes :
          (String.ofList (character :: passed)).utf8ByteSize =
            character.utf8Size + (String.ofList passed).utf8ByteSize := by
        rw [String.ofList_cons, String.utf8ByteSize_append, String.utf8ByteSize_singleton]
      have positive := character.utf8Size_pos
      obtain ⟨further, size⟩ :
          ∃ further, (String.ofList (character :: passed)).utf8ByteSize = further + 1 :=
        ⟨(String.ofList (character :: passed)).utf8ByteSize - 1, by omega⟩
      have fits : character.utf8Size ≤ further + 1 := by omega
      have left :
          further + 1 - character.utf8Size = (String.ofList passed).utf8ByteSize := by
        omega
      rw [size, List.cons_append, beforeByte?, if_pos fits, left, ih]
      rfl

theorem Location.atByte?_utf8ByteSize
    (passed rest : List Char) :
    Location.atByte? (passed ++ rest) (String.ofList passed).utf8ByteSize =
      some (Location.behind passed) := by
  rw [Location.atByte?, beforeByte?_utf8ByteSize]
  rfl

end CallScript.Text
