import CallScript.Proofs.Block.Division
import CallScript.Proofs.Block.Fragments
import Mathlib.Data.List.Chain
import Mathlib.Data.List.Forall2

/-!
# The lines of a block

A block has one line for each piece of its body between single spaces.  The
fragments of a line are what the division of the trimmed piece leaves: the texts
between the runs of delimiters and the last unit of each run.  So units and texts
take turns, and nothing but units is lost.  The main statement is
`Block.lines_ofBody`.
-/

namespace CallScript.Block

open CallScript.Text

/-- The text is a unit. -/
def IsUnit (text : List Char) : Prop :=
  ∃ unit : Delimiter, text = unit.text

theorem IsUnit.paren_mem
    {text : List Char}
    (isUnit : IsUnit text) :
    '(' ∈ text ∨ ')' ∈ text := by
  rcases isUnit with ⟨unit, rfl⟩
  cases unit with
  | openingBrace | closingBrace | opening | closing => decide

theorem IsDividedBehind.not_isUnit
    {front first : List Char}
    {parts : List Part}
    (divided : IsDividedBehind front first parts) :
    ¬ IsUnit first := by
  intro isUnit
  have parenless : IsParenless first := by
    cases parts with
    | nil => exact divided
    | cons part parts => exact divided.1
  rcases isUnit.paren_mem with opening | closing
  · exact parenless.1 opening
  · exact parenless.2 closing

/-- One of two fragments is a unit and the other one is not. -/
def AreUnlike (left right : List Char) : Prop :=
  IsUnit left ↔ ¬ IsUnit right

theorem Division.line_of_ne_nil
    {first : List Char}
    (nonempty : first ≠ [])
    (parts : List Part) :
    Division.line ⟨first, parts⟩ = first :: Division.line ⟨[], parts⟩ := by
  simp [line, pieces, nonempty]

theorem Division.line_cons
    (part : Part)
    (parts : List Part) :
    Division.line ⟨[], part :: parts⟩ =
      part.kept.text :: Division.line ⟨part.text, parts⟩ := by
  simp [line, pieces, part.kept.text_ne_nil]

theorem areUnlike_of_not_isUnit
    {text : List Char}
    (noUnit : ¬ IsUnit text)
    (unit : Delimiter) :
    AreUnlike unit.text text ∧ AreUnlike text unit.text := by
  have isUnit : IsUnit unit.text := ⟨unit, rfl⟩
  exact ⟨iff_of_true isUnit noUnit, iff_of_false noUnit (not_not_intro isUnit)⟩

theorem IsDividedBehind.isChain_cons_line
    {front first : List Char}
    {parts : List Part}
    (divided : IsDividedBehind front first parts)
    (apart : parts ≠ [] → first ≠ [])
    (unit : Delimiter) :
    (unit.text :: Division.line ⟨first, parts⟩).IsChain AreUnlike := by
  induction parts generalizing front first unit with
  | nil =>
      by_cases empty : first = []
      · subst empty
        exact .singleton _
      · rw [Division.line_of_ne_nil empty]
        exact .cons_cons (areUnlike_of_not_isUnit divided.not_isUnit unit).1 (.singleton _)
  | cons part parts ih =>
      rw [Division.line_of_ne_nil (apart (List.cons_ne_nil _ _)), Division.line_cons]
      have before := areUnlike_of_not_isUnit divided.not_isUnit unit
      have behind := areUnlike_of_not_isUnit divided.not_isUnit part.kept
      rcases divided with ⟨-, -, partApart, later⟩
      exact .cons_cons before.1 (.cons_cons behind.2 (ih later partApart part.kept))

/-- In a line, units and texts take turns. -/
theorem IsDividedBehind.isChain_line
    {front first : List Char}
    {parts : List Part}
    (divided : IsDividedBehind front first parts) :
    (Division.line ⟨first, parts⟩).IsChain AreUnlike := by
  by_cases empty : first = []
  · subst empty
    cases parts with
    | nil => exact .nil
    | cons part parts =>
        rw [Division.line_cons]
        exact divided.2.2.2.isChain_cons_line divided.2.2.1 part.kept
  · exact (divided.isChain_cons_line (fun _ => empty) .opening).tail

theorem Division.flatten_line
    (division : Division) :
    division.line.flatten = division.remainder := by
  rw [line, List.flatten_filter_not_isEmpty, pieces, remainder, List.flatten_cons,
    ← List.flatMap_id, List.flatMap_assoc]
  simp

theorem Division.mem_whole_of_mem_line
    {division : Division}
    {fragment : List Char}
    {character : Char}
    (listed : fragment ∈ division.line)
    (inside : character ∈ fragment) :
    character ∈ division.whole := by
  rw [line, List.mem_filter, pieces, List.mem_cons, List.mem_flatMap] at listed
  rw [whole, List.mem_append, List.mem_flatMap]
  rcases listed.1 with rfl | ⟨part, listed, among⟩
  · exact .inl inside
  · refine .inr ⟨part, listed, ?_⟩
    simp only [List.mem_cons, List.not_mem_nil, or_false] at among
    rcases among with rfl | rfl
    · simp [Part.run, inside]
    · exact List.mem_append_right _ inside

/-- The fragments are those of a piece of a body between two spaces. -/
structure IsLineOf (piece : List Char) (line : List (List Char)) : Prop where
  /--
  The piece is trimmed and divided at its maximal runs of delimiters, in the only
  way; of each run, all units but the last are lost, and nothing else is.
  -/
  divided :
    ∃ chunk division,
      IsTrimmed piece chunk ∧
        (∀ other : Division, other.Divides chunk ↔ other = division) ∧
        line = division.line ∧
        line.flatten = division.remainder
  /-- Units and texts take turns. -/
  alternating : line.IsChain AreUnlike

/--
A block has a line for every piece of its body between single spaces, once the line
feeds are removed.  The lines hold nothing but the fragments that the division
of the pieces leaves, and these are the fragments of the block.
-/
theorem lines_ofBody
    (body : String) :
    ∃ pieces : List (List Char),
      pieces ≠ [] ∧
        [' '].intercalate pieces = body.toList.filter (· ≠ '\n') ∧
        (∀ piece ∈ pieces, ' ' ∉ piece) ∧
        List.Forall₂ (fun piece line => IsLineOf piece (line.map String.toList)) pieces
          (ofBody body).lines ∧
        (∀ fragment ∈ blockFragments body,
          fragment ≠ "" ∧ ' ' ∉ fragment.toList ∧ '\n' ∉ fragment.toList) ∧
        blockFragments body = (ofBody body).lines.flatten := by
  have divided (piece : List Char) :
      ∃ division : Division,
        (∀ other : Division, other.Divides (trim piece) ↔ other = division) ∧
          chunkFragments piece = division.line := by
    rcases exists_divides (trim piece) with ⟨division, unique, cut⟩
    exact ⟨division, unique, by rw [chunkFragments, cut, Division.line]⟩
  refine ⟨chunks body.toList, List.splitOn_ne_nil _ _, List.intercalate_splitOn _,
    fun piece => separator_notMem_of_mem_splitOn, ?_, ?_, rfl⟩
  · rw [ofBody, List.forall₂_map_right_iff, List.forall₂_same]
    intro piece _
    rcases divided piece with ⟨division, unique, line⟩
    have own := (unique division).2 rfl
    rw [List.map_map, String.toList_comp_ofList, List.map_id, line]
    exact ⟨⟨trim piece, division, isTrimmed_trim piece, unique, rfl, division.flatten_line⟩,
      own.2.isChain_line⟩
  · intro fragment listed
    rw [fragments_ofBody, List.mem_map] at listed
    rcases listed with ⟨text, listed, rfl⟩
    rcases List.mem_flatMap.1 listed with ⟨piece, pieceListed, inLine⟩
    rcases divided piece with ⟨division, unique, line⟩
    rw [line] at inLine
    have nonempty : text ≠ [] := by
      simpa using (List.mem_filter.1 inLine).2
    have inPiece (character : Char) (inside : character ∈ text) : character ∈ piece := by
      have inWhole := Division.mem_whole_of_mem_line inLine inside
      rw [((unique division).2 rfl).1] at inWhole
      exact mem_of_mem_trim inWhole
    rw [String.toList_ofList]
    refine ⟨by simpa using nonempty, fun inside => ?_, fun inside => ?_⟩
    · exact separator_notMem_of_mem_splitOn pieceListed (inPiece ' ' inside)
    · have kept := mem_of_mem_splitOn pieceListed (inPiece '\n' inside)
      simp at kept

end CallScript.Block
