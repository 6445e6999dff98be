import Mathlib.Algebra.GroupWithZero.Nat
import CallScript.Vocabulary

/-!
# Reading a choice of words

A word is escaped before it becomes a part of a pattern, so that every sign in
it stands for itself.  This file follows the reader over such a pattern.  The
main statement, `readPieces_words`, says that a group of escaped words with
bars between them is read as the choice of these words, whatever signs the
words hold and whatever properties are known.
-/

namespace CallScript.Pattern

open CallScript.Text

variable
    {table : PropertyTable}

/-- A sign that may be escaped and has no other meaning behind a backslash. -/
theorem readEscape_patternSign
    (mode : Mode)
    {sign : Char}
    (special : isPatternSign sign = true)
    (rest : List Char) :
    readEscape table mode (sign :: rest) = .ok (.literal sign, rest) := by
  have escapable :
      ("\\.+*?()|[]\x7b\x7d^$#&-~".toList.all fun other =>
          !other.isDigit && isEscapable other) =
        true := by
    decide
  have known := List.all_eq_true.1 escapable sign (by simpa [isPatternSign] using special)
  obtain ⟨noDigit, escapes⟩ : sign.isDigit = false ∧ isEscapable sign = true := by
    simpa using known
  simp [readEscape, noDigit, escapes]

theorem Mode.significant_of_unspaced
    {mode : Mode}
    (unspaced : mode.spaced = false)
    (text : List Char) :
    mode.significant text = text := by
  simp [Mode.significant, unspaced]

def Mode.literalPiece (mode : Mode) (character : Char) : Piece :=
  Atom.piece mode (.literal character)

/-- The level with the characters of a word behind its pieces. -/
def Level.pushWord (mode : Mode) (level : Level) (word : List Char) : Level :=
  word.foldl (fun level character => level.push (mode.literalPiece character)) level

/-- The alternative that a word is read as. -/
def Mode.wordPiece (mode : Mode) (word : List Char) : Piece where
  expr := Expr.inSequence (word.map mode.letter)
  depth := depthOf (word.reverse.map mode.literalPiece)
  repeatable := true

section Reading

variable
    {mode : Mode}
    (unspaced : mode.spaced = false)
    (rounds : Nat)
    (outer : List Level)
    (level : Level)
    (count : Nat)
    (names : List (List Char))

include unspaced

/-- A character that is no sign of the pattern language stands for itself. -/
theorem readPieces_plain
    {character : Char}
    (plain : isPatternSign character = false)
    (rest : List Char) :
    readPieces table (rounds + 1) outer level mode count names (character :: rest) =
      readPieces table rounds outer (level.push (mode.literalPiece character)) mode count names
        rest := by
  simp only [readPieces, Mode.significant_of_unspaced unspaced]
  split
  case h_1 =>
    rename_i equal
    cases equal
  case h_14 =>
    rename_i equal
    cases equal
    rfl
  all_goals
    rename_i equal
    cases equal
    exact absurd plain (by decide)

theorem readPieces_escape
    {sign : Char}
    (special : isPatternSign sign = true)
    (rest : List Char) :
    readPieces table (rounds + 1) outer level mode count names ('\\' :: sign :: rest) =
      readPieces table rounds outer (level.push (mode.literalPiece sign)) mode count names
        rest := by
  simp only [readPieces, Mode.significant_of_unspaced unspaced,
    readEscape_patternSign mode special]
  rfl

/-- An escaped word is read as the characters of the word, each standing for itself. -/
theorem readPieces_escaped
    (word rest : List Char) :
    readPieces table (word.length + rounds) outer level mode count names (escaped word ++ rest) =
      readPieces table rounds outer (level.pushWord mode word) mode count names rest := by
  induction word generalizing level with
  | nil => simp [escaped, Level.pushWord]
  | cons character word ih =>
      have shorter : (character :: word).length + rounds = word.length + rounds + 1 := by
        simp only [List.length_cons]
        omega
      have later := ih (level.push (mode.literalPiece character))
      rw [shorter]
      cases special : isPatternSign character with
      | true =>
          have split :
              escaped (character :: word) ++ rest =
                '\\' :: character :: (escaped word ++ rest) := by
            simp [escaped, special]
          rw [split, readPieces_escape unspaced _ outer level count names special, later]
          rfl
      | false =>
          have split :
              escaped (character :: word) ++ rest = character :: (escaped word ++ rest) := by
            simp [escaped, special]
          rw [split, readPieces_plain unspaced _ outer level count names special, later]
          rfl

theorem readPieces_bar
    (rest : List Char) :
    readPieces table (rounds + 1) outer level mode count names ('|' :: rest) =
      readPieces table rounds outer level.finishBranch mode count names rest := by
  simp only [readPieces, Mode.significant_of_unspaced unspaced]

theorem readPieces_close
    (parent : Level)
    (restored : level.outerMode = mode)
    (rest : List Char) :
    readPieces table (rounds + 1) (parent :: outer) level mode count names (')' :: rest) =
      readPieces table rounds outer
        (parent.push ⟨level.close.expr, level.close.depth + 1, true⟩) mode count names rest := by
  simp only [readPieces, Mode.significant_of_unspaced unspaced, restored]

end Reading

/-- What a level with finished alternatives means, the last alternative first. -/
def Level.choicePiece (number : Option Nat) (branches : List Piece) : Piece :=
  let body := Expr.asChoice (branches.reverse.map Piece.expr)
  { expr := (number.map fun number => Expr.group number body).getD body
    depth := depthOf branches
    repeatable := true }

theorem Level.expr_choicePiece
    (mode : Mode)
    (number : Nat)
    (words : List (List Char)) :
    (choicePiece (some number) (words.map mode.wordPiece).reverse).expr =
      .group number
        (Expr.asChoice
          (words.map fun word => Expr.inSequence (word.map mode.letter))) := by
  simp [choicePiece, Mode.wordPiece, Function.comp_def]

theorem Level.pushWord_eq
    (mode : Mode)
    (level : Level)
    (word : List Char) :
    level.pushWord mode word =
      { level with pieces := word.reverse.map mode.literalPiece ++ level.pieces } := by
  induction word generalizing level with
  | nil => rfl
  | cons character word ih =>
      rw [pushWord, List.foldl_cons, ← pushWord, ih]
      simp [Level.push]

/-- The word that is read in a fresh alternative becomes that alternative. -/
theorem Level.finishBranch_pushWord
    (mode outerMode : Mode)
    (branches : List Piece)
    (number : Option Nat)
    (word : List Char) :
    (Level.pushWord mode ⟨branches, [], outerMode, number⟩ word).finishBranch =
      ⟨mode.wordPiece word :: branches, [], outerMode, number⟩ := by
  have letters :
      (word.reverse.map mode.literalPiece).reverse.map Piece.expr =
        word.map mode.letter := by
    simp [Mode.literalPiece, Atom.piece, Function.comp_def]
  simp only [pushWord_eq, finishBranch, List.append_nil, letters]
  rfl

theorem Level.close_pushWord
    (mode outerMode : Mode)
    (branches : List Piece)
    (number : Option Nat)
    (word : List Char) :
    (Level.pushWord mode ⟨branches, [], outerMode, number⟩ word).close =
      Level.choicePiece number (mode.wordPiece word :: branches) := by
  rw [close, finishBranch_pushWord, pushWord_eq]
  rfl

/-- Escaped words with bars between them, up to the end of their group. -/
theorem readPieces_alternatives
    (table : PropertyTable)
    {mode : Mode}
    (unspaced : mode.spaced = false)
    (rounds : Nat)
    (outer : List Level)
    (parent : Level)
    (branches : List Piece)
    (number : Option Nat)
    (count : Nat)
    (names : List (List Char))
    (first : List Char)
    (words : List (List Char))
    (rest : List Char) :
    readPieces table (((first :: words).map fun word => word.length + 1).sum + rounds)
        (parent :: outer) ⟨branches, [], mode, number⟩ mode count names
        (['|'].intercalate ((first :: words).map escaped) ++ ')' :: rest) =
      let whole :=
        Level.choicePiece number (((first :: words).map mode.wordPiece).reverse ++ branches)
      readPieces table rounds outer (parent.push ⟨whole.expr, whole.depth + 1, true⟩) mode count
        names rest := by
  induction words generalizing first branches with
  | nil =>
      have one :
          (([first] : List (List Char)).map fun word => word.length + 1).sum + rounds =
            first.length + (rounds + 1) := by
        simp only [List.map_cons, List.map_nil, List.sum_cons, List.sum_nil]
        omega
      have text :
          ['|'].intercalate ([first].map escaped) ++ ')' :: rest =
            escaped first ++ ')' :: rest := by
        simp [List.intercalate]
      rw [one, text, readPieces_escaped unspaced,
        readPieces_close unspaced _ _ _ _ _ _ (by rw [Level.pushWord_eq]),
        Level.close_pushWord]
      rfl
  | cons second words ih =>
      have more :
          ((first :: second :: words).map fun word => word.length + 1).sum + rounds =
            first.length +
              (((second :: words).map fun word => word.length + 1).sum + rounds + 1) := by
        simp only [List.map_cons, List.sum_cons]
        omega
      have text :
          ['|'].intercalate ((first :: second :: words).map escaped) ++ ')' :: rest =
            escaped first ++
              '|' :: (['|'].intercalate ((second :: words).map escaped) ++ ')' :: rest) := by
        simp [List.intercalate]
      rw [more, text, readPieces_escaped unspaced, readPieces_bar unspaced,
        Level.finishBranch_pushWord, ih]
      simp only [List.map_cons, List.reverse_cons, List.append_assoc, List.cons_append,
        List.nil_append]

/-- A group whose text does not begin with a question mark is counted. -/
theorem readGroupStart_counted
    {mode : Mode}
    (unspaced : mode.spaced = false)
    (names : List (List Char))
    {text : List Char}
    (plain : text.head? ≠ some '?') :
    readGroupStart mode names text = .ok (.opened true mode names, text) := by
  simp only [readGroupStart, Mode.significant_of_unspaced unspaced]
  split
  case h_8 => rfl
  all_goals simp at plain

/-- No choice of escaped words begins with a question mark. -/
theorem head?_intercalate_escaped
    (first : List Char)
    (words : List (List Char))
    (rest : List Char) :
    (['|'].intercalate ((first :: words).map escaped) ++ ')' :: rest).head? ≠ some '?' := by
  cases first with
  | nil =>
      cases words with
      | nil => simp [escaped, List.intercalate]
      | cons second words => simp [escaped, List.intercalate]
  | cons character word =>
      have startsWithWord :
          ∃ tail,
            ['|'].intercalate (((character :: word) :: words).map escaped) ++ ')' :: rest =
              escaped (character :: word) ++ tail := by
        cases words with
        | nil => exact ⟨')' :: rest, by simp [List.intercalate]⟩
        | cons second words =>
            refine ⟨'|' :: (['|'].intercalate ((second :: words).map escaped) ++ ')' :: rest), ?_⟩
            simp [List.intercalate]
      rcases startsWithWord with ⟨tail, startsWith⟩
      rw [startsWith]
      cases special : isPatternSign character with
      | true => simp [escaped, special]
      | false =>
          have noMark : character ≠ '?' := by
            rintro rfl
            exact absurd special (by decide)
          simp [escaped, special, noMark]

/-- A group of escaped words with bars between them is the choice of the words. -/
theorem readPieces_words
    {mode : Mode}
    (unspaced : mode.spaced = false)
    (rounds : Nat)
    (level : Level)
    (names : List (List Char))
    (first : List Char)
    (words : List (List Char))
    (rest : List Char) :
    readPieces table (((first :: words).map fun word => word.length + 1).sum + rounds + 1)
        [] level mode 0 names
        ('(' :: (['|'].intercalate ((first :: words).map escaped) ++ ')' :: rest)) =
      let whole := Level.choicePiece (some 1) ((first :: words).map mode.wordPiece).reverse
      readPieces table rounds [] (level.push ⟨whole.expr, whole.depth + 1, true⟩) mode 1 names
        rest := by
  have opened :=
    readGroupStart_counted unspaced names (head?_intercalate_escaped first words rest)
  have inside :=
    readPieces_alternatives table unspaced rounds [] level [] (some 1) 1 names first words rest
  rw [List.append_nil] at inside
  rw [← inside]
  simp only [readPieces, Mode.significant_of_unspaced unspaced, opened]
  rfl

theorem length_le_escaped
    (word : List Char) :
    word.length ≤ (escaped word).length := by
  induction word with
  | nil => exact Nat.zero_le _
  | cons character word ih =>
      have split :
          escaped (character :: word) =
            (if isPatternSign character then ['\\', character] else [character]) ++
              escaped word := by
        rfl
      rw [split, List.length_append]
      cases isPatternSign character <;> simp <;> omega

theorem rounds_le_length
    (first : List Char)
    (words : List (List Char)) :
    ((first :: words).map fun word => word.length + 1).sum ≤
      (['|'].intercalate ((first :: words).map escaped)).length + 1 := by
  induction words generalizing first with
  | nil =>
      have firstFits := length_le_escaped first
      simpa [List.intercalate] using firstFits
  | cons second words ih =>
      have firstFits := length_le_escaped first
      have restFits := ih second
      have text :
          ['|'].intercalate ((first :: second :: words).map escaped) =
            escaped first ++ '|' :: ['|'].intercalate ((second :: words).map escaped) := by
        simp [List.intercalate]
      rw [text, List.length_append, List.length_cons, List.map_cons, List.sum_cons]
      omega

theorem depthOf_le
    {pieces : List Piece}
    {bound : Nat}
    (shallow : ∀ piece ∈ pieces, piece.depth ≤ bound) :
    depthOf pieces ≤ bound + 1 := by
  have maximum :
      ∀ (depths : List Nat) (start : Nat),
        start ≤ bound → (∀ depth ∈ depths, depth ≤ bound) → depths.foldl max start ≤ bound := by
    intro depths
    induction depths with
    | nil => exact fun _ startLe _ => startLe
    | cons depth depths ih =>
        intro start startLe depthsLe
        apply ih
        · exact Nat.max_le.2 ⟨startLe, depthsLe depth List.mem_cons_self⟩
        · exact fun other member => depthsLe other (List.mem_cons_of_mem _ member)
  have piecesLe : (pieces.map Piece.depth).foldl max 0 ≤ bound := by
    apply maximum _ _ (Nat.zero_le _)
    intro depth member
    rcases List.mem_map.1 member with ⟨piece, pieceMember, rfl⟩
    exact shallow piece pieceMember
  simp only [depthOf]
  split
  · exact Nat.zero_le _
  · rename_i piece
    exact Nat.le_succ_of_le (shallow piece List.mem_cons_self)
  · omega

theorem depth_choicePiece_le
    (mode : Mode)
    (number : Option Nat)
    (words : List (List Char)) :
    (Level.choicePiece number (words.map mode.wordPiece).reverse).depth ≤ 2 := by
  apply depthOf_le
  intro piece member
  rcases List.mem_map.1 (List.mem_reverse.1 member) with ⟨word, -, rfl⟩
  apply depthOf_le
  intro letter letterMember
  rcases List.mem_map.1 letterMember with ⟨character, -, rfl⟩
  exact Nat.le_refl 0

theorem readPieces_nil
    {mode : Mode}
    (unspaced : mode.spaced = false)
    (rounds : Nat)
    (level : Level)
    (count : Nat)
    (names : List (List Char)) :
    readPieces table (rounds + 1) [] level mode count names [] = .ok level.close := by
  simp only [readPieces, Mode.significant_of_unspaced unspaced]
  rfl

/-- A pattern is read as what its pieces mean when it is neither too deep nor too large. -/
theorem Expr.readIn_eq_ok
    {mode : Mode}
    {source : List Char}
    {whole : Piece}
    (pieces :
      readPieces table (source.length + 1) [] ⟨[], [], mode, none⟩ mode 0 [] source = .ok whole)
    (shallow : whole.depth ≤ depthLimit)
    (fits : whole.expr.fits = true) :
    Expr.readIn table mode source = .ok whole.expr := by
  simp only [Expr.readIn, pieces, bind, Except.bind, fits]
  rw [if_neg (Nat.not_lt.2 shallow)]
  rfl

/-- What a group of words is read as. -/
def Mode.wordsExpr (mode : Mode) (words : List (List Char)) : Expr :=
  .group 1
    (Expr.asChoice
      (words.map fun word => Expr.inSequence (word.map mode.letter)))

/--
A group of words in front of the rest of a pattern is read in at most as many
rounds as it has characters; the piece that it is read as is not nested deeply.
-/
theorem readPieces_wordsPattern
    (table : PropertyTable)
    {mode : Mode}
    (unspaced : mode.spaced = false)
    (first : List Char)
    (words : List (List Char)) :
    ∃ extra depth,
      depth ≤ 3 ∧
        ∀ rounds level names rest,
          readPieces table ((wordsPattern (first :: words)).length + rounds) [] level mode 0 names
              (wordsPattern (first :: words) ++ rest) =
            readPieces table (extra + rounds) []
              (level.push ⟨mode.wordsExpr (first :: words), depth, true⟩) mode 1 names rest := by
  rcases Nat.exists_eq_add_of_le (rounds_le_length first words) with ⟨extra, enough⟩
  refine ⟨extra,
    (Level.choicePiece (some 1) ((first :: words).map mode.wordPiece).reverse).depth + 1,
    Nat.succ_le_succ (depth_choicePiece_le mode (some 1) (first :: words)), ?_⟩
  intro rounds level names rest
  have size :
      (wordsPattern (first :: words)).length + rounds =
        ((first :: words).map fun word => word.length + 1).sum + (extra + rounds) + 1 := by
    simp only [wordsPattern, List.length_cons, List.length_append, List.length_nil] at enough ⊢
    omega
  have text :
      wordsPattern (first :: words) ++ rest =
        '(' :: (['|'].intercalate ((first :: words).map escaped) ++ ')' :: rest) := by
    simp [wordsPattern]
  rw [size, text, readPieces_words unspaced, Mode.wordsExpr, ← Level.expr_choicePiece]

/-- A group of words is read as the choice of the words. -/
theorem Expr.readIn_words
    (table : PropertyTable)
    {mode : Mode}
    (unspaced : mode.spaced = false)
    (first : List Char)
    (words : List (List Char))
    (fits : (mode.wordsExpr (first :: words)).fits = true) :
    Expr.readIn table mode (wordsPattern (first :: words)) =
      .ok (mode.wordsExpr (first :: words)) := by
  rcases readPieces_wordsPattern table unspaced first words with ⟨extra, depth, shallow, read⟩
  have start := read 1 ⟨[], [], mode, none⟩ [] []
  rw [List.append_nil, readPieces_nil unspaced] at start
  apply Expr.readIn_eq_ok start _ fits
  exact Nat.le_trans shallow (by decide)

/-- A group of words between the signs for the ends of the text is read as such. -/
theorem Expr.readIn_wholeWords
    (table : PropertyTable)
    {mode : Mode}
    (unspaced : mode.spaced = false)
    (first : List Char)
    (words : List (List Char))
    (fits :
      (Expr.sequenceOf
        [.edge mode.start, mode.wordsExpr (first :: words), .edge mode.finish]).fits = true) :
    Expr.readIn table mode ('^' :: (wordsPattern (first :: words) ++ ['$'])) =
      .ok
        (Expr.sequenceOf
          [.edge mode.start, mode.wordsExpr (first :: words), .edge mode.finish]) := by
  rcases readPieces_wordsPattern table unspaced first words with ⟨extra, depth, shallow, read⟩
  have startRead :
      ∀ rounds level names rest,
        readPieces table (rounds + 1) [] level mode 0 names ('^' :: rest) =
          readPieces table rounds [] (level.push ⟨.edge mode.start, 0, true⟩) mode 0 names
            rest := by
    intro rounds level names rest
    simp only [readPieces, Mode.significant_of_unspaced unspaced]
  have finishRead :
      ∀ rounds level names rest,
        readPieces table (rounds + 1) [] level mode 1 names ('$' :: rest) =
          readPieces table rounds [] (level.push ⟨.edge mode.finish, 0, true⟩) mode 1 names
            rest := by
    intro rounds level names rest
    simp only [readPieces, Mode.significant_of_unspaced unspaced]
  have size :
      ('^' :: (wordsPattern (first :: words) ++ ['$'])).length + 1 =
        (wordsPattern (first :: words)).length + 2 + 1 := by
    simp
  have start :
      readPieces table (('^' :: (wordsPattern (first :: words) ++ ['$'])).length + 1) []
          ⟨[], [], mode, none⟩ mode 0 [] ('^' :: (wordsPattern (first :: words) ++ ['$'])) =
        .ok
          ((((Level.mk [] [] mode none).push ⟨.edge mode.start, 0, true⟩).push
            ⟨mode.wordsExpr (first :: words), depth, true⟩).push
              ⟨.edge mode.finish, 0, true⟩).close := by
    rw [size, startRead, read, show extra + 2 = extra + 1 + 1 from rfl, finishRead,
      readPieces_nil unspaced]
  apply Expr.readIn_eq_ok start _ fits
  have three :
      depthOf
          [⟨.edge mode.finish, 0, true⟩, ⟨mode.wordsExpr (first :: words), depth, true⟩,
            ⟨.edge mode.start, 0, true⟩] ≤
        4 := by
    apply depthOf_le
    simpa using shallow
  exact Nat.le_trans three (by decide)

end CallScript.Pattern
