import CallScript.Fault
import CallScript.Proofs.Text.Location

/-!
# The way to a location

A location can be walked to: past the line feeds in front of its line, and then past characters
of that line.  The walk to the location of a place passes exactly what stands in front of the
place, so the location of a byte offset leads back to the offset.  Farther offsets have later
locations, line by line and column by column.  The main statement is
`Diagnostic.atByte?_locates`.
-/

namespace CallScript

open CallScript.Text

namespace Text

/--
What is passed on the way past a number of line feeds and then past a number of other
characters.  There is no such way when the text ends too early, or when a line feed stands
among the other characters.
-/
def walk? : (lines columns : Nat) → (source : List Char) → Option (List Char)
  | 0, 0, _ => some []
  | _, _, [] => none
  | 0, columns + 1, character :: rest =>
      if character = '\n' then none
      else (walk? 0 columns rest).map (character :: ·)
  | lines + 1, columns, character :: rest =>
      (walk? (if character = '\n' then lines else lines + 1) columns rest).map (character :: ·)

/-! ## Walks -/

@[simp]
theorem walk?_zero
    (source : List Char) :
    walk? 0 0 source = some [] := by
  rw [walk?]

theorem walk?_within_line
    {current : List Char}
    (oneLine : '\n' ∉ current)
    (rest : List Char) :
    walk? 0 current.length (current ++ rest) = some current := by
  induction current with
  | nil => exact walk?_zero rest
  | cons character current ih =>
      obtain ⟨visible, further⟩ := not_or.1 (mt List.mem_cons.2 oneLine)
      rw [List.length_cons, List.cons_append, walk?, if_neg (Ne.symm visible), ih further]
      rfl

theorem walk?_past_lines
    {finished : List Char}
    (ended : finished = [] ∨ finished.getLast? = some '\n')
    (columns : Nat)
    (rest : List Char) :
    walk? (finished.count '\n') columns (finished ++ rest) =
      (walk? 0 columns rest).map (finished ++ ·) := by
  induction finished with
  | nil => simp
  | cons character finished ih =>
      have last : (character :: finished).getLast? = some '\n' :=
        ended.resolve_left (List.cons_ne_nil _ _)
      have laterEnded : finished = [] ∨ finished.getLast? = some '\n' := by
        cases finished with
        | nil => exact .inl rfl
        | cons second finished => exact .inr (List.getLast?_cons_cons ▸ last)
      by_cases lineFeed : character = '\n'
      · rw [lineFeed, List.count_cons_self, List.cons_append, walk?, if_pos rfl, ih laterEnded,
          Option.map_map]
        rfl
      · -- The line feed that ends the text is still to come.
        have ahead : '\n' ∈ finished := by
          rcases List.mem_cons.1 (List.mem_of_getLast? last) with here | later
          · exact absurd here.symm lineFeed
          · exact later
        have later := ih laterEnded
        obtain ⟨lines, counted⟩ :=
          Nat.exists_eq_add_one.2 (List.count_pos_iff.2 ahead)
        rw [counted] at later
        rw [List.count_cons_of_ne lineFeed, counted, List.cons_append, walk?, if_neg lineFeed,
          later, Option.map_map]
        rfl

/-- The walk to the location of a place passes what stands in front of the place. -/
theorem walk?_behind
    (passed rest : List Char) :
    walk? ((Location.behind passed).line - 1) ((Location.behind passed).column - 1)
        (passed ++ rest) =
      some passed := by
  obtain ⟨finished, divided, ended⟩ := exists_append_lastLine passed
  have oneLine := lineFeed_notMem_lastLine passed
  show walk? (passed.count '\n') (lastLine passed).length (passed ++ rest) = some passed
  generalize lastLine passed = current at divided oneLine ⊢
  rw [divided, List.count_append, List.count_eq_zero.2 oneLine, Nat.add_zero, List.append_assoc,
    walk?_past_lines ended, walk?_within_line oneLine]
  rfl

/-! ## The order of locations -/

theorem lastLine_append
    (front : List Char)
    {back : List Char}
    (oneLine : '\n' ∉ back) :
    lastLine (front ++ back) = lastLine front ++ back := by
  have noLineFeed : ∀ character ∈ back.reverse, decide (character ≠ '\n') = true := by
    intro character member
    rw [decide_eq_true_iff]
    rintro rfl
    exact oneLine (List.mem_reverse.1 member)
  rw [lastLine, List.reverse_append, List.takeWhile_append_of_pos noLineFeed, List.reverse_append,
    List.reverse_reverse]
  rfl

/-- A place farther on is on a later line, or farther on the same one. -/
theorem Location.behind_lt
    (passed : List Char)
    {further : List Char}
    (nonempty : further ≠ []) :
    (behind passed).line < (behind (passed ++ further)).line ∨
      (behind passed).line = (behind (passed ++ further)).line ∧
        (behind passed).column < (behind (passed ++ further)).column := by
  simp only [behind]
  by_cases oneLine : '\n' ∈ further
  · left
    have lineFeeds := List.count_pos_iff.2 oneLine
    rw [List.count_append]
    omega
  · right
    have characters := List.length_pos_iff.2 nonempty
    rw [List.count_append, List.count_eq_zero.2 oneLine, lastLine_append passed oneLine,
      List.length_append]
    omega

/-! ## Offsets in bytes -/

/-- A distance beyond the end stands for the end. -/
theorem beforeByte?_of_le
    {source : List Char}
    {bytes : Nat}
    (beyond : (String.ofList source).utf8ByteSize ≤ bytes) :
    beforeByte? source bytes = some source := by
  induction source generalizing bytes with
  | nil =>
      cases bytes with
      | zero => rfl
      | succ bytes => rfl
  | cons character source ih =>
      have positive := character.utf8Size_pos
      rw [String.ofList_cons, String.utf8ByteSize_append, String.utf8ByteSize_singleton] at beyond
      obtain ⟨further, rfl⟩ : ∃ further, bytes = further + 1 :=
        Nat.exists_eq_add_one.2 (by omega)
      rw [beforeByte?, if_pos (by omega), ih (by omega)]
      rfl

theorem utf8ByteSize_of_append
    {shorter longer : String}
    {further : List Char}
    (divided : longer.toList = shorter.toList ++ further) :
    longer.utf8ByteSize = shorter.utf8ByteSize + (String.ofList further).utf8ByteSize := by
  have joined : longer = shorter ++ String.ofList further := by
    rw [← String.toList_inj, String.toList_append, String.toList_ofList, divided]
  rw [joined, String.utf8ByteSize_append]

/-- Of two beginnings of a text, the one with fewer bytes is a part of the other. -/
theorem exists_append_of_utf8ByteSize_lt
    {front back otherFront otherBack : String}
    (same : front ++ back = otherFront ++ otherBack)
    (shorter : front.utf8ByteSize < otherFront.utf8ByteSize) :
    ∃ further, further ≠ [] ∧ otherFront.toList = front.toList ++ further := by
  have sameText : front.toList ++ back.toList = otherFront.toList ++ otherBack.toList := by
    rw [← String.toList_append, ← String.toList_append, same]
  rcases List.append_eq_append_iff.1 sameText with
    ⟨further, divided, -⟩ | ⟨further, divided, -⟩
  · refine ⟨further, ?_, divided⟩
    rintro rfl
    rw [List.append_nil, String.toList_inj] at divided
    rw [divided] at shorter
    exact Nat.lt_irrefl _ shorter
  · have longer := utf8ByteSize_of_append divided
    omega

end Text

namespace Diagnostic

variable
    (category : FaultCategory)
    (message : String)

theorem atByte?_append
    (before after : String) :
    atByte? category message (before ++ after) before.utf8ByteSize =
      some ⟨category, message, some (Location.behind before.toList)⟩ := by
  have located := Location.atByte?_utf8ByteSize before.toList after.toList
  rw [String.ofList_toList] at located
  rw [atByte?, String.toList_append, located]
  rfl

theorem atByte?_of_le
    {source : String}
    {bytes : Nat}
    (beyond : source.utf8ByteSize ≤ bytes) :
    atByte? category message source bytes =
      atByte? category message source source.utf8ByteSize := by
  have whole
      {distance : Nat}
      (reached : source.utf8ByteSize ≤ distance) :
      beforeByte? source.toList distance = some source.toList := by
    apply beforeByte?_of_le
    rwa [String.ofList_toList]
  rw [atByte?, atByte?, Location.atByte?, Location.atByte?, whole beyond, whole (Nat.le_refl _)]

/-- The line and the column of the report. -/
def place (diagnostic : Diagnostic) : Nat × Nat :=
  (diagnostic.line, diagnostic.column)

section Order

variable
    {category message}
    {source : String}
    {first second : Nat}
    {earlier later : Diagnostic}
    (firstValid : (⟨first⟩ : String.Pos.Raw).IsValid source)
    (secondValid : (⟨second⟩ : String.Pos.Raw).IsValid source)
    (firstReport : atByte? category message source first = some earlier)
    (secondReport : atByte? category message source second = some later)

include firstValid secondValid firstReport secondReport

/-- The place of a report grows with the distance. -/
theorem place_lt
    (ahead : first < second) :
    Prod.Lex (· < ·) (· < ·) earlier.place later.place := by
  rw [String.Pos.Raw.isValid_iff_exists_append] at firstValid secondValid
  obtain ⟨front, back, rfl, firstEnd⟩ := firstValid
  obtain ⟨otherFront, otherBack, same, secondEnd⟩ := secondValid
  obtain rfl : first = front.utf8ByteSize := congrArg String.Pos.Raw.byteIdx firstEnd
  obtain rfl : second = otherFront.utf8ByteSize := congrArg String.Pos.Raw.byteIdx secondEnd
  obtain ⟨further, nonempty, divided⟩ := exists_append_of_utf8ByteSize_lt same ahead
  rw [atByte?_append, Option.some_inj] at firstReport
  rw [same, atByte?_append, Option.some_inj, divided] at secondReport
  subst firstReport secondReport
  rw [Prod.lex_def]
  exact Location.behind_lt front.toList nonempty

/-- Different distances are reported at different places. -/
theorem place_ne
    (different : first ≠ second) :
    earlier.place ≠ later.place := by
  intro same
  rcases Nat.lt_or_gt_of_ne different with ahead | behind
  · have order := place_lt firstValid secondValid firstReport secondReport ahead
    rw [same, Prod.lex_def] at order
    omega
  · have order := place_lt secondValid firstValid secondReport firstReport behind
    rw [same, Prod.lex_def] at order
    omega

end Order

/--
The report of a fault at any distance that does not cut a character.  Its line is told by the
line feeds in front of it, and the walk past these and past the characters that its column
counts ends at this distance.  A larger distance is reported at a later place, so that different
distances have different places.  A distance beyond the end of the source is reported like the
end.
-/
theorem atByte?_locates
    (category : FaultCategory)
    (message source : String) :
    (∀ bytes : Nat,
      (⟨bytes⟩ : String.Pos.Raw).IsValid source →
        ∃ before after location,
          source = before ++ after ∧
            before.utf8ByteSize = bytes ∧
            atByte? category message source bytes = some ⟨category, message, some location⟩ ∧
            0 < location.line ∧
            0 < location.column ∧
            location.line - 1 = before.toList.count '\n' ∧
            walk? (location.line - 1) (location.column - 1) source.toList =
              some before.toList) ∧
      (∀ (first second : Nat) (earlier later : Diagnostic),
        (⟨first⟩ : String.Pos.Raw).IsValid source →
          (⟨second⟩ : String.Pos.Raw).IsValid source →
            atByte? category message source first = some earlier →
              atByte? category message source second = some later →
                (first < second → Prod.Lex (· < ·) (· < ·) earlier.place later.place) ∧
                  (first ≠ second → earlier.place ≠ later.place)) ∧
      ∀ bytes,
        source.utf8ByteSize ≤ bytes →
          atByte? category message source bytes =
            atByte? category message source source.utf8ByteSize := by
  refine ⟨?_, ?_, fun bytes => atByte?_of_le category message⟩
  · intro bytes valid
    rw [String.Pos.Raw.isValid_iff_exists_append] at valid
    obtain ⟨before, after, rfl, reached⟩ := valid
    obtain rfl : bytes = before.utf8ByteSize := congrArg String.Pos.Raw.byteIdx reached
    refine ⟨before, after, Location.behind before.toList, rfl, rfl, ?_, ?_, ?_, rfl, ?_⟩
    · exact atByte?_append category message before after
    · exact Nat.succ_pos _
    · exact Nat.succ_pos _
    · rw [String.toList_append]
      exact walk?_behind before.toList after.toList
  · intro first second earlier later firstValid secondValid firstReport secondReport
    exact
      ⟨place_lt firstValid secondValid firstReport secondReport,
        place_ne firstValid secondValid firstReport secondReport⟩

/-- A character of two bytes is one column wide; behind the line feed the columns start again. -/
theorem atByte?_locates_secondLine :
    let source := "é\nab"
    let report (line column : Nat) : Diagnostic :=
      ⟨.unterminatedString, "open string", some ⟨line, column⟩⟩
    let report? := atByte? .unterminatedString "open string" source
    (⟨2⟩ : String.Pos.Raw).IsValid source ∧
      (⟨4⟩ : String.Pos.Raw).IsValid source ∧
      report? 2 = some (report 1 2) ∧
      report? 4 = some (report 2 2) ∧
      (∃ before : String,
        before.utf8ByteSize = 4 ∧
          before.toList.count '\n' = 1 ∧ walk? 1 1 source.toList = some before.toList) ∧
      Prod.Lex (· < ·) (· < ·) (report 1 2).place (report 2 2).place ∧
      report? 9 = report? 5 := by
  intro source report report?
  have secondValid : (⟨2⟩ : String.Pos.Raw).IsValid source :=
    String.Pos.Raw.isValid_iff_exists_append.2 ⟨"é", "\nab", by decide +kernel, rfl⟩
  have fourthValid : (⟨4⟩ : String.Pos.Raw).IsValid source :=
    String.Pos.Raw.isValid_iff_exists_append.2 ⟨"é\na", "b", by decide +kernel, rfl⟩
  have second : report? 2 = some (report 1 2) := by decide +kernel
  have fourth : report? 4 = some (report 2 2) := by decide +kernel
  obtain ⟨located, ordered, beyond⟩ := atByte?_locates .unterminatedString "open string" source
  refine ⟨secondValid, fourthValid, second, fourth, ?_, ?_, ?_⟩
  · obtain ⟨before, after, location, -, reached, reported, -, -, lines, walk⟩ :=
      located 4 fourthValid
    obtain rfl : ⟨2, 2⟩ = location := by
      simpa [report] using fourth.symm.trans reported
    exact ⟨before, reached, lines.symm, walk⟩
  · exact (ordered 2 4 _ _ secondValid fourthValid second fourth).1 (by decide)
  · exact beyond 9 (by decide +kernel)

end Diagnostic

end CallScript
