import CallScript.Proofs.Block.Lines

/-!
# Cutting again

The fragments of every line are put together, and the lines are joined by single
spaces.  This gives a body again: in every chunk, each run of delimiters is reduced
to its last unit.  The new body is cut at the same spaces and has nothing to trim,
but a chunk can be divided otherwise than before, where a unit that was dropped has
kept a closing brace apart from a closing parenthesis.  The two then make one unit.

This is the only way in which the fragments can change.  The main statement is
`Block.blockFragments_rejoined_iff`.
-/

namespace CallScript.Block

open CallScript.Block.Delimiter
open CallScript.Pattern
open CallScript.Text

/-- The lines of a body, each put together from its fragments, with spaces between them. -/
def rejoined (body : String) : String :=
  " ".intercalate ((ofBody body).lines.map String.join)

/--
Directly behind a closing brace there is a maximal run of delimiters that begins
with one of the characters and whose last unit is a closing parenthesis.
-/
def HasLooseBrace (starts text : List Char) : Prop :=
  ∃ front lost back,
    text = front ++ ['}'] ++ textOf (lost ++ [.closing]) ++ back ∧
      IsMaximalRun (front ++ ['}']) (textOf (lost ++ [.closing])) back ∧
      ∃ start ∈ starts, (textOf (lost ++ [.closing])).head? = some start

/-! ## Divisions that lose nothing -/

/-- The part with its last unit only. -/
def Part.bare (part : Part) : Part :=
  { part with lost := [] }

@[simp]
theorem Part.run_bare
    (part : Part) :
    part.bare.run = part.kept.text := by
  simp [bare, run]

/-- A run ends with the unit that is kept. -/
theorem Part.run_eq
    (part : Part) :
    part.run = textOf part.lost ++ part.kept.text := by
  simp [run]

namespace Division

variable
    (first : List Char)
    (part : Part)
    (parts : List Part)

@[simp]
theorem remainder_nil :
    remainder ⟨first, []⟩ = first := by
  simp [remainder]

@[simp]
theorem remainder_cons :
    remainder ⟨first, part :: parts⟩ =
      first ++ (part.kept.text ++ remainder ⟨part.text, parts⟩) := by
  simp [remainder]

theorem whole_map_bare :
    whole ⟨first, parts.map Part.bare⟩ = remainder ⟨first, parts⟩ := by
  rw [whole, remainder, List.flatMap_map]
  simp [Part.bare, Part.run]

theorem line_map_bare :
    line ⟨first, parts.map Part.bare⟩ = line ⟨first, parts⟩ := by
  rw [line, line, pieces, pieces, List.flatMap_map]
  rfl

theorem length_whole :
    (whole ⟨first, parts⟩).length =
      (remainder ⟨first, parts⟩).length + (parts.flatMap fun part => textOf part.lost).length := by
  induction parts generalizing first with
  | nil => simp
  | cons part parts ih =>
      simp only [whole_cons, remainder_cons, part.run_eq, List.length_append, ih,
        List.flatMap_cons]
      omega

/-- A division that loses no character has no unit to lose. -/
theorem map_bare_of_whole_eq
    (lossless : whole ⟨first, parts⟩ = remainder ⟨first, parts⟩) :
    parts.map Part.bare = parts := by
  have lengths := length_whole first parts
  rw [lossless] at lengths
  have nothing : parts.flatMap (fun part => textOf part.lost) = [] :=
    List.eq_nil_of_length_eq_zero (by omega)
  refine (List.map_congr_left fun part listed => ?_).trans (List.map_id parts)
  ext1
  · have lost := List.flatMap_eq_nil_iff.1 nothing part listed
    by_contra some
    exact textOf_ne_nil (Ne.symm some) lost
  · rfl
  · rfl

theorem getLast?_remainder
    (division : Division) :
    division.remainder.getLast? = division.whole.getLast? := by
  rcases division with ⟨first, parts⟩
  induction parts generalizing first with
  | nil => simp
  | cons part parts ih =>
      have kept := List.getLast?_eq_some_getLast part.kept.text_ne_nil
      simp [part.run_eq, ih, kept, List.getLast?_append]

end Division

/-- The first character is that of the chunk, or it belongs to a unit. -/
theorem Division.head?_remainder
    (division : Division) :
    division.remainder.head? = division.whole.head? ∨
      ∃ unit : Delimiter, division.remainder.head? = unit.text.head? := by
  rcases division with ⟨first, parts⟩
  cases first with
  | cons character first => exact .inl rfl
  | nil =>
      cases parts with
      | nil => exact .inl rfl
      | cons part parts =>
          refine .inr ⟨part.kept, ?_⟩
          rw [remainder_cons, List.nil_append, List.head?_append_of_ne_nil _ part.kept.text_ne_nil]

/-- What is left of a trimmed chunk is trimmed. -/
theorem trim_remainder
    {text : List Char}
    {division : Division}
    (divides : division.Divides (trim text)) :
    trim division.remainder = division.remainder := by
  have trimmed := isTrimmed_trim text
  rw [← divides.1] at trimmed
  apply trim_eq_self_of_ends
  · intro character starts
    rcases division.head?_remainder with same | ⟨unit, ofUnit⟩
    · exact trimmed.first character (same ▸ starts)
    · rw [ofUnit] at starts
      cases unit with
      | openingBrace | closingBrace | opening | closing =>
          cases starts
          decide
  · intro character ends
    rw [division.getLast?_remainder] at ends
    exact trimmed.last character ends

/-! ## A closing brace in front of a run -/

/-- Only the first character of what follows a plain text matters, and only for a closing brace. -/
theorem IsPlain.followed_iff
    {before : Option Char}
    {text after other : List Char}
    (plain : IsPlain before text after) :
    IsPlain before text other ↔
      ¬ (text.getLast? = some '}' ∧ other.head? = some ')') := by
  constructor
  · rintro otherwise ⟨last, closes⟩
    rcases List.getLast?_eq_some_iff.1 last with ⟨front, rfl⟩
    exact otherwise front '}' [] rfl (.inr (.inr (.inr ⟨rfl, closes⟩)))
  · rintro apart front character back rfl delimits
    have here := plain front character back rfl
    cases back with
    | cons next back => exact here delimits
    | nil =>
        rcases delimits with opening | closing | braced | ⟨rfl, closes⟩
        · exact here (.inl opening)
        · exact here (.inr (.inl closing))
        · exact here (.inr (.inr (.inl braced)))
        · exact apart ⟨List.getLast?_concat, closes⟩

/-- A text that ends with a closing brace has a run behind it that keeps a closing parenthesis. -/
def HasLoosePart (first : List Char) : List Part → Prop
  | [] => False
  | part :: parts =>
      (first.getLast? = some '}' ∧ part.kept = .closing) ∨ HasLoosePart part.text parts

theorem Delimiter.head?_text_append_eq_closing_iff
    (unit : Delimiter)
    (rest : List Char) :
    (unit.text ++ rest).head? = some ')' ↔ unit = .closing := by
  cases unit with
  | openingBrace | closingBrace | opening | closing => simp [text]

/-- The reduced chunk is divided in the same way, unless a brace has come to touch a parenthesis. -/
theorem IsRead.map_bare_iff
    {before : Option Char}
    {first : List Char}
    {parts : List Part}
    (read : IsRead before first parts) :
    IsRead before first (parts.map Part.bare) ↔ ¬ HasLoosePart first parts := by
  induction parts generalizing before first with
  | nil => exact iff_of_true read id
  | cons part parts ih =>
      rcases read with ⟨plain, apart, behind⟩
      have reached :
          lastOr before (first ++ part.bare.run) = lastOr before (first ++ part.run) := by
        rw [part.run_bare, part.run_eq, lastOr_append, ← List.append_assoc, lastOr_append]
        exact lastOr_congr part.kept.text_ne_nil _ _
      have restApart : parts.map Part.bare ≠ [] → part.bare.text ≠ [] := fun some =>
        apart fun none => some (by rw [none, List.map_nil])
      rw [List.map_cons, IsRead, HasLoosePart, not_or, plain.followed_iff, reached,
        part.run_bare, part.kept.head?_text_append_eq_closing_iff, and_iff_right restApart]
      exact and_congr_right' (ih behind)

theorem IsRun.head?
    {run : List Char}
    (isRun : IsRun run) :
    ∃ unit : Delimiter, run.head? = unit.text.head? := by
  rcases isRun with ⟨units, nonempty, rfl⟩
  cases units with
  | nil => exact absurd rfl nonempty
  | cons unit units =>
      exact ⟨unit, by rw [textOf_cons, List.head?_append_of_ne_nil _ unit.text_ne_nil]⟩

/-- A maximal run behind a closing brace does not begin with the parenthesis that it takes. -/
theorem IsMaximalRun.head?_of_brace
    {front run back : List Char}
    (isMaximal : IsMaximalRun (front ++ ['}']) run back) :
    ∃ start ∈ ['(', '}'], run.head? = some start := by
  rcases isMaximal.isRun.head? with ⟨unit, begins⟩
  cases unit with
  | openingBrace | opening => exact ⟨'(', by decide, begins⟩
  | closingBrace => exact ⟨'}', by decide, begins⟩
  | closing =>
      have longer := isMaximal.maximal ['}'] [] ⟨front, rfl⟩ List.nil_prefix
      rw [List.append_nil] at longer
      cases (longer (isMaximal.isRun.brace_cons begins)).1

/-- Behind a maximal run that ends with a closing parenthesis, no character delimits at once. -/
theorem IsMaximalRun.not_isDelimiting
    {front back : List Char}
    {lost : List Delimiter}
    (isMaximal : IsMaximalRun front (textOf (lost ++ [.closing])) back)
    {character : Char}
    {later : List Char}
    (divided : back = character :: later) :
    ¬ IsDelimiting (some ')') character later.head? := by
  have longer (units : List Delimiter) (some : units ≠ []) :
      ¬ textOf units <+: back := by
    intro follows
    have none := isMaximal.maximal [] (textOf units) List.nil_suffix follows
      ⟨lost ++ [.closing] ++ units, by simp, by simp⟩
    exact textOf_ne_nil some none.2
  subst divided
  rintro (rfl | rfl | ⟨-, ⟨⟩⟩ | ⟨rfl, closes⟩)
  · exact longer [.opening] (by simp) ⟨later, rfl⟩
  · exact longer [.closing] (by simp) ⟨later, rfl⟩
  · rcases List.head?_eq_some_iff.1 closes with ⟨tail, rfl⟩
    exact longer [.closingBrace] (by simp) ⟨tail, rfl⟩

theorem IsDividedBehind.hasLooseBrace
    {front first : List Char}
    {parts : List Part}
    (divided : IsDividedBehind front first parts)
    (loose : HasLoosePart first parts) :
    HasLooseBrace ['(', '}'] (front ++ Division.whole ⟨first, parts⟩) := by
  induction parts generalizing front first with
  | nil => cases loose
  | cons part parts ih =>
      rcases divided with ⟨-, isMaximal, -, behind⟩
      rcases loose with ⟨last, keeps⟩ | later
      · rcases List.getLast?_eq_some_iff.1 last with ⟨text, rfl⟩
        rw [← List.append_assoc] at isMaximal
        have run : part.run = textOf (part.lost ++ [.closing]) := by
          rw [Part.run, keeps]
        have starts := isMaximal.head?_of_brace
        rw [run] at isMaximal starts
        exact ⟨front ++ text, part.lost, _, by simp [run], isMaximal, starts⟩
      · have found := ih behind later
        rwa [List.append_assoc, List.append_assoc, ← Division.whole_cons] at found

/-- A closing brace at the end of a division stands behind all its runs. -/
theorem Division.getLast?_of_whole_cons
    {first : List Char}
    {part : Part}
    {parts : List Part}
    (ends : (whole ⟨first, part :: parts⟩).getLast? = some '}') :
    (whole ⟨part.text, parts⟩).getLast? = some '}' := by
  rw [whole_cons, part.run_eq, List.getLast?_append, List.getLast?_append,
    List.getLast?_append] at ends
  cases last : (whole ⟨part.text, parts⟩).getLast? with
  | some character => simpa [last] using ends
  | none =>
      cases kept : part.kept with
      | openingBrace | closingBrace | opening | closing => simp [last, kept, text] at ends

/--
A text that ends with a closing brace, a run in which this brace has no part, and
what comes behind the run are read one after the other.
-/
theorem IsRead.append
    {before : Option Char}
    {first : List Char}
    {parts : List Part}
    (read : IsRead before first parts)
    (ends : (Division.whole ⟨first, parts⟩).getLast? = some '}')
    {next : Part}
    {later : List Part}
    (opens : next.run.head? ≠ some ')')
    (apart : later ≠ [] → next.text ≠ [])
    (behind :
      IsRead (lastOr before (Division.whole ⟨first, parts⟩ ++ next.run)) next.text later) :
    IsRead before first (parts ++ next :: later) := by
  induction parts generalizing before first with
  | nil =>
      rw [Division.whole_nil] at behind
      refine ⟨read.followed_iff.2 ?_, apart, behind⟩
      rintro ⟨-, closes⟩
      rw [List.head?_append_of_ne_nil _ next.run_ne_nil] at closes
      exact opens closes
  | cons part parts ih =>
      rcases read with ⟨plain, partApart, rest⟩
      have restEnds := Division.getLast?_of_whole_cons ends
      rw [Division.whole_cons] at behind
      refine ⟨plain.followed_iff.2 ?_, ?_, ?_⟩
      · rw [List.head?_append_of_ne_nil _ part.run_ne_nil,
          ← List.head?_append_of_ne_nil _ part.run_ne_nil]
        exact plain.followed_iff.1 plain
      · rintro - empty
        have none : parts = [] := by_contra fun some => partApart some empty
        subst none
        rw [Division.whole_nil, empty] at restEnds
        cases restEnds
      · rw [List.append_assoc, List.append_assoc, ← List.append_assoc, lastOr_append] at behind
        exact ih rest restEnds behind

theorem hasLoosePart_append
    {first : List Char}
    {parts : List Part}
    (ends : (Division.whole ⟨first, parts⟩).getLast? = some '}')
    {next : Part}
    (keeps : next.kept = .closing)
    (later : List Part) :
    HasLoosePart first (parts ++ next :: later) := by
  induction parts generalizing first with
  | nil => exact .inl ⟨by simpa using ends, keeps⟩
  | cons part parts ih =>
      exact .inr (ih (Division.getLast?_of_whole_cons ends))

theorem hasLooseBrace_iff
    {division : Division}
    {text : List Char}
    (divides : division.Divides text) :
    HasLooseBrace ['(', '}'] text ↔ HasLoosePart division.first division.parts := by
  constructor
  · rintro ⟨front, lost, back, rfl, isMaximal, -⟩
    -- What stands in front of the run and behind it is divided on its own; put together, this
    -- is the only division of the text.
    rcases exists_isRead none (front ++ ['}']) (by rintro ⟨⟩) with
      ⟨first, parts, frontWhole, frontRead⟩
    have closed : lastOr none (front ++ ['}'] ++ textOf (lost ++ [.closing])) = some ')' := by
      rw [textOf_append, ← List.append_assoc, lastOr_append]
      rfl
    rcases exists_isRead (some ')') back (by rintro ⟨⟩) with ⟨next, later, rfl, backRead⟩
    have ends : (Division.whole ⟨first, parts⟩).getLast? = some '}' := by
      rw [frontWhole, List.getLast?_concat]
    have apart : later ≠ [] → next ≠ [] := by
      rintro nonempty rfl
      rcases List.exists_cons_of_ne_nil nonempty with ⟨part, others, rfl⟩
      rcases List.exists_cons_of_ne_nil part.run_ne_nil with ⟨character, run, starts⟩
      have begins : textOf (part.lost ++ [part.kept]) = [] ++ character :: run := starts
      have divided :
          Division.whole ⟨[], part :: others⟩ =
            character :: (run ++ Division.whole ⟨part.text, others⟩) := by
        rw [Division.whole_cons, starts]
        rfl
      exact isMaximal.not_isDelimiting divided (isDelimiting_of_textOf_eq begins (some ')') _)
    have opens : (Part.mk lost .closing next).run.head? ≠ some ')' := by
      rcases isMaximal.head?_of_brace with ⟨start, among, starts⟩
      rw [Part.run, starts]
      rintro ⟨⟩
      simp at among
    have composed : IsRead none first (parts ++ ⟨lost, .closing, next⟩ :: later) := by
      apply frontRead.append ends opens apart
      rw [frontWhole, Part.run, closed]
      exact backRead
    have wholes :
        Division.whole ⟨first, parts ++ ⟨lost, .closing, next⟩ :: later⟩ =
          front ++ ['}'] ++ textOf (lost ++ [.closing]) ++ Division.whole ⟨next, later⟩ := by
      rw [← frontWhole]
      simp [Division.whole, Part.run]
    rcases Division.divides_iff.1 divides with ⟨whole, read⟩
    rcases composed.unique read (wholes.trans whole.symm) with ⟨same, sameParts⟩
    rw [← same, ← sameParts]
    exact hasLoosePart_append ends rfl later
  · intro loose
    rcases divides with ⟨rfl, divided⟩
    exact divided.hasLooseBrace loose

/-! ## What a line tells of its division -/

/-- A line begins with a unit exactly when its division begins with a run. -/
theorem IsDividedBehind.first_eq_nil_iff
    {front first : List Char}
    {parts : List Part}
    (divided : IsDividedBehind front first parts) :
    first = [] ↔
      ∀ piece, (Division.line ⟨first, parts⟩).head? = some piece → IsUnit piece := by
  constructor
  · rintro rfl piece starts
    cases parts with
    | nil => cases starts
    | cons part parts =>
        rw [Division.line_cons] at starts
        cases starts
        exact ⟨part.kept, rfl⟩
  · intro units
    by_contra nonempty
    rw [Division.line_of_ne_nil nonempty] at units
    exact divided.not_isUnit (units first rfl)

theorem IsDividedBehind.first_eq_of_line_eq
    {front otherFront first otherFirst : List Char}
    {parts otherParts : List Part}
    (divided : IsDividedBehind front first parts)
    (other : IsDividedBehind otherFront otherFirst otherParts)
    (same : Division.line ⟨first, parts⟩ = Division.line ⟨otherFirst, otherParts⟩) :
    first = otherFirst ∧ Division.line ⟨[], parts⟩ = Division.line ⟨[], otherParts⟩ := by
  have firsts : first = [] ↔ otherFirst = [] := by
    rw [divided.first_eq_nil_iff, other.first_eq_nil_iff, same]
  by_cases empty : first = []
  · have otherEmpty := firsts.1 empty
    subst empty otherEmpty
    exact ⟨rfl, same⟩
  · rw [Division.line_of_ne_nil empty, Division.line_of_ne_nil (mt firsts.2 empty)] at same
    exact List.cons.inj same

/-- Apart from the units that are lost, a division is given by its line. -/
theorem IsDividedBehind.eq_of_line_eq
    {front otherFront first otherFirst : List Char}
    {parts otherParts : List Part}
    (divided : IsDividedBehind front first parts)
    (other : IsDividedBehind otherFront otherFirst otherParts)
    (same : Division.line ⟨first, parts⟩ = Division.line ⟨otherFirst, otherParts⟩) :
    first = otherFirst ∧ parts.map Part.bare = otherParts.map Part.bare := by
  induction parts generalizing front otherFront first otherFirst otherParts with
  | nil =>
      rcases divided.first_eq_of_line_eq other same with ⟨firsts, rest⟩
      cases otherParts with
      | nil => exact ⟨firsts, rfl⟩
      | cons otherPart otherParts =>
          rw [Division.line_cons] at rest
          cases rest
  | cons part parts ih =>
      rcases divided.first_eq_of_line_eq other same with ⟨firsts, rest⟩
      rw [Division.line_cons] at rest
      cases otherParts with
      | nil => cases rest
      | cons otherPart otherParts =>
          rw [Division.line_cons] at rest
          rcases List.cons.inj rest with ⟨kept, later⟩
          rcases ih divided.2.2.2 other.2.2.2 later with ⟨text, more⟩
          have runs : part.bare.run = otherPart.bare.run := by
            rw [part.run_bare, otherPart.run_bare, kept]
          have bare : part.bare = otherPart.bare :=
            Part.ext rfl (Part.eq_of_run_eq runs).2 text
          exact ⟨firsts, by rw [List.map_cons, List.map_cons, bare, more]⟩

/-! ## Chunks -/

/-- The fragments of a chunk come back from what they are put together to, in this case only. -/
theorem chunkFragments_flatten_eq_iff
    (piece : List Char) :
    chunkFragments (chunkFragments piece).flatten = chunkFragments piece ↔
      ¬ HasLooseBrace ['(', '}'] (trim piece) := by
  rcases exists_divides (trim piece) with ⟨⟨first, parts⟩, unique, cut⟩
  have divides := (unique _).2 rfl
  have line : chunkFragments piece = Division.line ⟨first, parts⟩ := by
    rw [chunkFragments, cut, Division.line]
  rcases exists_divides (Division.remainder ⟨first, parts⟩) with
    ⟨⟨newFirst, newParts⟩, newUnique, newCut⟩
  have newDivides := (newUnique _).2 rfl
  have newLine :
      chunkFragments (Division.remainder ⟨first, parts⟩) = Division.line ⟨newFirst, newParts⟩ := by
    rw [chunkFragments, trim_remainder divides, newCut, Division.line]
  rw [line, Division.flatten_line, newLine, hasLooseBrace_iff divides]
  have read := (Division.divides_iff.1 divides).2
  rw [← read.map_bare_iff]
  constructor
  · intro same
    rcases newDivides.2.eq_of_line_eq divides.2 same with ⟨rfl, bares⟩
    have lossless :
        Division.whole ⟨newFirst, newParts⟩ = Division.remainder ⟨newFirst, newParts⟩ := by
      rw [newDivides.1, ← Division.whole_map_bare, ← Division.whole_map_bare, bares]
    rw [← bares, Division.map_bare_of_whole_eq newFirst newParts lossless]
    exact (Division.divides_iff.1 newDivides).2
  · intro bareRead
    have again : Division.mk newFirst newParts = ⟨first, parts.map Part.bare⟩ :=
      ((newUnique _).1 (Division.divides_iff.2
        ⟨Division.whole_map_bare first parts, bareRead⟩)).symm
    rw [again, Division.line_map_bare]

theorem IsRead.chunkFragments
    {first : List Char}
    {parts : List Part}
    (read : IsRead none first parts)
    (trimmed : trim (Division.whole ⟨first, parts⟩) = Division.whole ⟨first, parts⟩) :
    chunkFragments (Division.whole ⟨first, parts⟩) = Division.line ⟨first, parts⟩ := by
  rw [Block.chunkFragments, trimmed, read.cutChunk, Division.line]

theorem length_flatten_chunkFragments_le
    (piece : List Char) :
    (chunkFragments piece).flatten.length ≤ piece.length := by
  rcases exists_divides (trim piece) with ⟨⟨first, parts⟩, unique, cut⟩
  have lengths := Division.length_whole first parts
  rw [((unique ⟨first, parts⟩).2 rfl).1] at lengths
  rcases exists_trim piece with ⟨front, behind, -, -, whole⟩
  have trimmed := congrArg List.length whole
  rw [List.length_append, List.length_append] at trimmed
  rw [chunkFragments, cut, ← Division.line, Division.flatten_line]
  omega

theorem mem_of_mem_chunkFragments
    {piece fragment : List Char}
    (listed : fragment ∈ chunkFragments piece) :
    fragment ≠ [] ∧ ∀ character ∈ fragment, character ∈ piece := by
  rcases exists_divides (trim piece) with ⟨division, unique, cut⟩
  rw [chunkFragments, cut, ← Division.line] at listed
  refine ⟨by simpa using (List.mem_filter.1 listed).2, fun character inside => ?_⟩
  have inWhole := Division.mem_whole_of_mem_line listed inside
  rw [((unique division).2 rfl).1] at inWhole
  exact mem_of_mem_trim inWhole

theorem length_flatten_flatMap_le
    {α β : Type}
    {pieces : List α}
    {left right : α → List (List β)}
    (shorter : ∀ piece ∈ pieces, (left piece).flatten.length ≤ (right piece).flatten.length) :
    (pieces.flatMap left).flatten.length ≤ (pieces.flatMap right).flatten.length := by
  induction pieces with
  | nil => exact Nat.le_refl _
  | cons piece pieces ih =>
      rw [List.forall_mem_cons] at shorter
      have later := ih shorter.2
      simp only [List.flatMap_cons, List.flatten_append, List.length_append]
      omega

/--
Two ways of cutting pieces, one of which never gives more characters than the
other, come to the same list only if they come to the same list for each piece.
-/
theorem flatMap_eq_flatMap_iff
    {α β : Type}
    {pieces : List α}
    {left right : α → List (List β)}
    (leftSome : ∀ piece ∈ pieces, ∀ fragment ∈ left piece, fragment ≠ [])
    (rightSome : ∀ piece ∈ pieces, ∀ fragment ∈ right piece, fragment ≠ [])
    (shorter : ∀ piece ∈ pieces, (left piece).flatten.length ≤ (right piece).flatten.length) :
    pieces.flatMap left = pieces.flatMap right ↔ ∀ piece ∈ pieces, left piece = right piece := by
  refine ⟨fun same => ?_, List.flatMap_congr⟩
  induction pieces with
  | nil => simp
  | cons piece pieces ih =>
      rw [List.forall_mem_cons] at leftSome rightSome shorter ⊢
      rw [List.flatMap_cons, List.flatMap_cons] at same
      have nothing (more : List (List β)) (some : ∀ fragment ∈ more, fragment ≠ [])
          (empty : more.flatten.length = 0) : more = [] := by
        rw [List.length_eq_zero_iff, List.flatten_eq_nil_iff] at empty
        exact List.eq_nil_iff_forall_not_mem.2 fun fragment listed =>
          some fragment listed (empty fragment listed)
      have restShorter := length_flatten_flatMap_le shorter.2
      have here : left piece = right piece := by
        rcases List.append_eq_append_iff.1 same with ⟨more, rightLonger, leftRest⟩ |
          ⟨more, leftLonger, rightRest⟩
        · have empty : more = [] := by
            apply nothing
            · intro fragment listed
              exact rightSome.1 fragment (by simp [rightLonger, listed])
            · rw [leftRest, List.flatten_append, List.length_append] at restShorter
              omega
          rw [rightLonger, empty, List.append_nil]
        · have empty : more = [] := by
            apply nothing
            · intro fragment listed
              exact leftSome.1 fragment (by simp [leftLonger, listed])
            · have pieceShorter := shorter.1
              rw [leftLonger, List.flatten_append, List.length_append] at pieceShorter
              omega
          rw [leftLonger, empty, List.append_nil]
      rw [here] at same
      exact ⟨here, ih leftSome.2 rightSome.2 shorter.2 (List.append_cancel_left same)⟩

/-- The pieces of the new body are those of the old one without the units that were lost. -/
theorem chunks_rejoined
    (body : String) :
    chunks (rejoined body).toList =
      (chunks body.toList).map fun piece => (chunkFragments piece).flatten := by
  have joined :
      (rejoined body).toList =
        [' '].intercalate
          ((chunks body.toList).map fun piece => (chunkFragments piece).flatten) := by
    have line (fragments : List (List Char)) :
        (String.join (fragments.map String.ofList)).toList = fragments.flatten := by
      rw [String.toList_join, List.flatMap_map]
      simp
    rw [rejoined, ofBody, String.toList_intercalate, List.map_map, List.map_map]
    exact congrArg _ (List.map_congr_left fun piece _ => line (chunkFragments piece))
  have inPiece (piece : List Char) (character : Char)
      (inside : character ∈ (chunkFragments piece).flatten) : character ∈ piece := by
    rcases List.mem_flatten.1 inside with ⟨fragment, listed, inFragment⟩
    exact (mem_of_mem_chunkFragments listed).2 character inFragment
  have unbroken : (rejoined body).toList.filter (· ≠ '\n') = (rejoined body).toList := by
    rw [List.filter_eq_self]
    intro character inside
    rw [joined] at inside
    rcases mem_intercalate inside with rfl | ⟨text, listed, inText⟩
    · decide
    · rcases List.mem_map.1 listed with ⟨piece, pieceListed, rfl⟩
      have inBody := mem_of_mem_splitOn pieceListed (inPiece piece character inText)
      exact (List.mem_filter.1 inBody).2
  rw [chunks, unbroken, joined]
  apply List.splitOn_intercalate
  · intro text listed
    rcases List.mem_map.1 listed with ⟨piece, pieceListed, rfl⟩
    exact fun inText =>
      separator_notMem_of_mem_splitOn pieceListed (inPiece piece ' ' inText)
  · exact mt List.map_eq_nil_iff.1 (List.splitOn_ne_nil _ _)

/--
Once the lines of a body are put together, they have the same fragments as before
exactly if in no chunk of the body a closing brace stands directly in front of a
maximal run of delimiters that begins with an opening parenthesis or a closing brace
and whose last unit is a closing parenthesis.
-/
theorem blockFragments_rejoined_iff
    (body : String) :
    blockFragments (rejoined body) = blockFragments body ↔
      ∀ piece ∈ chunks body.toList, ¬ HasLooseBrace ['(', '}'] (trim piece) := by
  have distinct : Function.Injective (List.map String.ofList) :=
    List.map_injective_iff.2 fun _ _ => String.ofList_injective
  rw [fragments_ofBody, fragments_ofBody, chunks_rejoined, List.flatMap_map, distinct.eq_iff,
    flatMap_eq_flatMap_iff]
  · simp only [chunkFragments_flatten_eq_iff]
  · exact fun piece _ fragment listed => (mem_of_mem_chunkFragments listed).1
  · exact fun piece _ fragment listed => (mem_of_mem_chunkFragments listed).1
  · exact fun piece _ => length_flatten_chunkFragments_le _

/--
It matters as well when the run begins with a closing brace: two closing braces and
two closing parentheses have a brace and a parenthesis as their fragments, which are
put together to one unit, although no run begins with an opening parenthesis.
-/
theorem blockFragments_rejoined_closingBraces :
    blockFragments "\x7d\x7d))" = ["\x7d", ")"] ∧
      blockFragments (rejoined "\x7d\x7d))") = ["\x7d)"] ∧
      ¬ (blockFragments (rejoined "\x7d\x7d))") = blockFragments "\x7d\x7d))" ↔
          ∀ piece ∈ chunks "\x7d\x7d))".toList, ¬ HasLooseBrace ['('] (trim piece)) := by
  have read : IsRead none ['}'] [⟨[.closingBrace], .closing, []⟩] := by
    simp [IsRead, isPlain_cons_iff, isPlain_nil, IsDelimiting, Part.run, text]
  have readAgain : IsRead none [] [⟨[], .closingBrace, []⟩] := by
    simp [IsRead, isPlain_nil]
  have cut : chunkFragments ['}', '}', ')', ')'] = [['}'], [')']] :=
    read.chunkFragments (by decide)
  have cutAgain : chunkFragments ['}', ')'] = [['}', ')']] :=
    readAgain.chunkFragments (by decide)
  have only : chunks "\x7d\x7d))".toList = [['}', '}', ')', ')']] := by decide
  have fragments : blockFragments "\x7d\x7d))" = ["\x7d", ")"] := by
    rw [fragments_ofBody, only, List.flatMap_singleton, cut]
    rfl
  have again : blockFragments (rejoined "\x7d\x7d))") = ["\x7d)"] := by
    rw [fragments_ofBody, chunks_rejoined, only, List.map_singleton, cut]
    rw [List.flatMap_singleton]
    rw [show [['}'], [')']].flatten = ['}', ')'] from rfl, cutAgain]
    rfl
  refine ⟨fragments, again, fun same => ?_⟩
  rw [fragments, again] at same
  refine absurd (same.2 fun piece listed loose => ?_) (by decide)
  rcases loose with ⟨front, lost, back, whole, -, start, among, starts⟩
  rw [List.mem_singleton] at among
  subst among
  have inPiece : '(' ∈ trim piece := by
    rw [whole]
    exact List.mem_append_left _ (List.mem_append_right _ (List.mem_of_mem_head? starts))
  exact absurd (mem_of_mem_splitOn listed (mem_of_mem_trim inPiece)) (by decide)

end CallScript.Block
