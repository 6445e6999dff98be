import CallScript.Proofs.Vocabulary.Reading

/-!
# The direct lexer of the language

The language has a lexer of its own, without patterns and without a search: it
goes through a source once, from left to right.  The first character of the
text behind the cursor decides what is read there, and how far.  Where nothing
can be read, the character belongs to a gap, and characters of a gap that stand
side by side become one token.
-/

namespace CallScript.Lexer

open CallScript.Text

def isAsciiLetter (character : Char) : Bool :=
  ('a' ≤ character && character ≤ 'z') || ('A' ≤ character && character ≤ 'Z')

/-- The character may stand in a string literal. -/
def isLiteralChar (character : Char) : Bool :=
  isAsciiLetter character || isBlank character || isDecimalDigit character

def isNameStart (character : Char) : Bool :=
  isAsciiLetter character || character == '_'

def isNameChar (character : Char) : Bool :=
  isNameStart character || character.isDigit

def isOperatorSign (character : Char) : Bool :=
  ['-', '+', '*', '/', '%', '<', '>', '=', '!'].contains character

/-- The kind of a character that is a token of its own. -/
def delimiterKind? (character : Char) : Option String :=
  if character = '(' then some "LPAREN"
  else if character = ')' then some "RPAREN"
  else if character = '{' then some "LBRACE"
  else if character = '}' then some "RBRACE"
  else if character = ',' then some "COMMA"
  else none

/-- The rest of a string literal behind its first quote. -/
def literalBody? (text : List Char) : Option (List Char) :=
  let inner := text.takeWhile isLiteralChar
  match text.dropWhile isLiteralChar with
  | '"' :: _ => if inner.isEmpty then none else some (inner ++ ['"'])
  | _ => none

/-- A number at the start of a text: digits, and a point with further digits behind it. -/
def number (text : List Char) : List Char :=
  let whole := text.takeWhile isDecimalDigit
  match text.dropWhile isDecimalDigit with
  | '.' :: rest =>
      let fraction := rest.takeWhile isDecimalDigit
      if fraction.isEmpty then whole else whole ++ '.' :: fraction
  | _ => whole

/-- What is read at the start of a text: its kind and its characters. -/
def lexeme? : List Char → Option (String × List Char)
  | [] => none
  | character :: rest =>
      let text := character :: rest
      if character = '"' then (literalBody? rest).map fun body => (stringKind, '"' :: body)
      else if isBlank character then some (whitespaceKind, text.takeWhile isBlank)
      else if isDecimalDigit character then some ("NUMBER", number text)
      else if isNameStart character then some ("BAREWORD", text.takeWhile isNameChar)
      else
        match delimiterKind? character with
        | some kind => some (kind, [character])
        | none =>
            if isOperatorSign character then some ("OPERATOR", text.takeWhile isOperatorSign)
            else none

/-- What may be read at the start of a text, by the kind of its first character. -/
inductive Reads : List Char → String → List Char → Prop where
  | literal
      {rest body : List Char}
      (closed : literalBody? rest = some body) :
      Reads ('"' :: rest) stringKind ('"' :: body)
  | blank
      {character : Char}
      {rest : List Char}
      (first : isBlank character = true) :
      Reads (character :: rest) whitespaceKind (character :: rest.takeWhile isBlank)
  | number
      {character : Char}
      {rest : List Char}
      (first : isDecimalDigit character = true) :
      Reads (character :: rest) "NUMBER" (number (character :: rest))
  | name
      {character : Char}
      {rest : List Char}
      (first : isNameStart character = true) :
      Reads (character :: rest) "BAREWORD" (character :: rest.takeWhile isNameChar)
  | delimiter
      {character : Char}
      {rest : List Char}
      {kind : String}
      (first : delimiterKind? character = some kind) :
      Reads (character :: rest) kind [character]
  | operator
      {character : Char}
      {rest : List Char}
      (first : isOperatorSign character = true) :
      Reads (character :: rest) "OPERATOR" (character :: rest.takeWhile isOperatorSign)

theorem reads_of_lexeme?
    {source : List Char}
    {kind : String}
    {text : List Char}
    (read : lexeme? source = some (kind, text)) :
    Reads source kind text := by
  cases source with
  | nil => cases read
  | cons character rest =>
      simp only [lexeme?] at read
      split at read
      · rename_i quote
        rcases Option.map_eq_some_iff.1 read with ⟨body, closed, equal⟩
        cases equal
        exact quote ▸ .literal closed
      split at read
      · rename_i first
        rw [List.takeWhile_cons_of_pos first] at read
        cases read
        exact .blank first
      split at read
      · rename_i first
        cases read
        exact .number first
      split at read
      · rename_i first
        have goesOn : isNameChar character = true := by simp [isNameChar, first]
        rw [List.takeWhile_cons_of_pos goesOn] at read
        cases read
        exact .name first
      split at read
      · rename_i first
        cases read
        exact .delimiter first
      split at read
      · rename_i first
        rw [List.takeWhile_cons_of_pos first] at read
        cases read
        exact .operator first
      · cases read

theorem isLiteralChar_quote :
    isLiteralChar '"' = false := by
  decide

theorem literalBody?_of_isLiteralChar_false
    {character : Char}
    (other : isLiteralChar character = false)
    (rest : List Char) :
    literalBody? (character :: rest) = none := by
  have notMember : ¬ isLiteralChar character = true := by simp [other]
  rw [literalBody?, List.takeWhile_cons_of_neg notMember, List.dropWhile_cons_of_neg notMember]
  split
  · rfl
  · rfl

/-- A literal goes on with characters of its own, at least one, and ends at a quote. -/
theorem literalBody?_eq_some
    {text body : List Char} :
    literalBody? text = some body ↔
      ∃ inner rest,
        inner ≠ [] ∧
          (∀ character ∈ inner, isLiteralChar character = true) ∧
          body = inner ++ ['"'] ∧
          text = inner ++ '"' :: rest := by
  constructor
  · intro closed
    rw [literalBody?] at closed
    split at closed
    · rename_i rest quote
      split at closed
      · cases closed
      · rename_i nonempty
        cases closed
        refine ⟨_, rest, by simpa using nonempty, ?_, rfl, ?_⟩
        · exact List.all_eq_true.1 List.all_takeWhile
        · rw [← quote, List.takeWhile_append_dropWhile]
    · cases closed
  · rintro ⟨inner, rest, nonempty, members, rfl, rfl⟩
    rw [literalBody?, List.takeWhile_append_of_pos members, List.dropWhile_append_of_pos members,
      List.takeWhile_cons_of_neg (by simp [isLiteralChar_quote]),
      List.dropWhile_cons_of_neg (by simp [isLiteralChar_quote])]
    simp [nonempty]

/-- A number takes its digits, and perhaps a point with digits behind it. -/
theorem number_cases
    (text : List Char) :
    number text = text.takeWhile isDecimalDigit ∨
      ∃ rest,
        text.dropWhile isDecimalDigit = '.' :: rest ∧
          rest.takeWhile isDecimalDigit ≠ [] ∧
          number text =
            text.takeWhile isDecimalDigit ++ '.' :: rest.takeWhile isDecimalDigit := by
  rw [number]
  split
  · rename_i rest point
    by_cases noFraction : (rest.takeWhile isDecimalDigit).isEmpty = true
    · exact .inl (if_pos noFraction)
    · exact .inr ⟨rest, point, mt List.isEmpty_iff.2 noFraction, if_neg noFraction⟩
  · exact .inl rfl

theorem number_cons
    {character : Char}
    (digit : isDecimalDigit character = true)
    (rest : List Char) :
    number (character :: rest) = character :: number rest := by
  simp only [number, List.takeWhile_cons_of_pos digit, List.dropWhile_cons_of_pos digit]
  split
  · split
    · rfl
    · rfl
  · rfl

theorem Reads.ne_nil
    {source : List Char}
    {kind : String}
    {text : List Char}
    (reads : Reads source kind text) :
    text ≠ [] := by
  cases reads with
  | number first =>
      rw [number_cons first]
      simp
  | literal => simp
  | blank => simp
  | name => simp
  | delimiter => simp
  | operator => simp

/-- What is read stands at the start of the text. -/
theorem Reads.exists_append
    {source : List Char}
    {kind : String}
    {text : List Char}
    (reads : Reads source kind text) :
    ∃ behind, source = text ++ behind := by
  have ofRun (first : Char) (member : Char → Bool) (rest : List Char) :
      ∃ behind, first :: rest = first :: rest.takeWhile member ++ behind :=
    ⟨rest.dropWhile member, by rw [List.cons_append, List.takeWhile_append_dropWhile]⟩
  cases reads with
  | @literal rest body closed =>
      rcases literalBody?_eq_some.1 closed with ⟨inner, behind, -, -, rfl, rfl⟩
      exact ⟨behind, by simp⟩
  | @number character rest first =>
      have digits :=
        List.takeWhile_append_dropWhile (p := isDecimalDigit) (l := character :: rest)
      rcases number_cases (character :: rest) with plain | ⟨behind, point, -, pointed⟩
      · rw [plain]
        exact ⟨_, digits.symm⟩
      · refine ⟨behind.dropWhile isDecimalDigit, ?_⟩
        rw [pointed, List.append_assoc, List.cons_append, List.takeWhile_append_dropWhile,
          ← point, digits]
  | blank => exact ofRun _ _ _
  | name => exact ofRun _ _ _
  | @delimiter character rest => exact ⟨rest, rfl⟩
  | operator => exact ofRun _ _ _

theorem length_drop_lt_of_lexeme?
    {source : List Char}
    {kind : String}
    {text : List Char}
    (read : lexeme? source = some (kind, text)) :
    (source.drop text.length).length < source.length := by
  have taken := List.length_pos_iff.2 (reads_of_lexeme? read).ne_nil
  cases source with
  | nil => simp [lexeme?] at read
  | cons character rest =>
      rw [List.length_drop, List.length_cons]
      omega

def gapTokens (gap : List Char) : List Token :=
  if gap.isEmpty then [] else [⟨String.ofList gap, invalidKind⟩]

/--
The token of what is read.  White space is dropped, and what the usual
classifier accepts is reserved unless it is a string literal.
-/
def lexemeTokens (kind : String) (text : List Char) : List Token :=
  if kind = whitespaceKind then []
  else if kind ≠ stringKind && ScanOptions.standard.classifier.accepts text then
    [⟨String.ofList text, reservedKind⟩]
  else [⟨String.ofList text, kind⟩]

/-- The tokens of a text, when some characters in front of it are a gap so far. -/
def tokensFrom (gap : List Char) : List Char → List Token
  | [] => gapTokens gap
  | character :: rest =>
      match _read : lexeme? (character :: rest) with
      | none => tokensFrom (gap ++ [character]) rest
      | some (kind, text) =>
          gapTokens gap ++ lexemeTokens kind text ++
            tokensFrom [] ((character :: rest).drop text.length)
termination_by source => source.length
decreasing_by
  · exact Nat.lt_succ_self _
  · exact length_drop_lt_of_lexeme? _read

def tokens (source : List Char) : List Token :=
  tokensFrom [] source

end CallScript.Lexer
