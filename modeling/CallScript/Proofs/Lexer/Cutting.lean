import CallScript.Proofs.Lexer.Scan
import CallScript.Proofs.Vocabulary.Letters

/-!
# Cutting a text between tokens

White space, parentheses and braces belong to no longer token, unless it is a
string literal.  A text may therefore be cut in front of such a character when no
literal can reach over the cut, and the tokens of the parts, one after the other,
are the tokens of the text.  The main statements are `Grammar.scan_append`, for a
scan, and, for the tokens without those of parentheses and braces,
`content_append_cons`.
-/

namespace CallScript

open CallScript.Lexer
open CallScript.Text

theorem Text.Ranges.exists_mem_of_containsCode
    {code : Nat}
    {ranges : Ranges}
    (member : ranges.containsCode code = true) :
    ∃ range ∈ ranges, range.1 ≤ code ∧ code ≤ range.2 := by
  induction ranges with
  | nil => cases member
  | cons range ranges ih =>
      rcases range with ⟨first, last⟩
      rw [containsCode] at member
      split at member
      · cases member
      · rename_i reached
        rcases Bool.or_eq_true_iff.1 member with here | later
        · exact ⟨(first, last), List.mem_cons_self, Nat.le_of_not_lt reached, by simpa using here⟩
        · rcases ih later with ⟨range, listed, bounds⟩
          exact ⟨range, List.mem_cons_of_mem _ listed, bounds⟩

namespace Lexer

def isBracket (character : Char) : Bool :=
  ['(', ')', '{', '}'].contains character

/-- The character ends what is read in front of it, unless that is a string literal. -/
def isBoundary (character : Char) : Bool :=
  isBlank character || isBracket character

theorem isBoundary_of_isBlank
    {character : Char}
    (blank : isBlank character = true) :
    isBoundary character = true := by
  rw [isBoundary, blank, Bool.true_or]

theorem isBoundary_of_isBracket
    {character : Char}
    (bracket : isBracket character = true) :
    isBoundary character = true := by
  rw [isBoundary, bracket, Bool.or_true]

theorem isBracket_cases
    {character : Char}
    (bracket : isBracket character = true) :
    character = '(' ∨ character = ')' ∨ character = '{' ∨ character = '}' := by
  simpa [isBracket] using bracket

theorem isDecimalDigit_of_isBoundary
    {character : Char}
    (boundary : isBoundary character = true) :
    isDecimalDigit character = false := by
  have apart :
      ∀ blank ∈ blankRanges, ∀ digit ∈ decimalDigitRanges,
        blank.2 < digit.1 ∨ digit.2 < blank.1 := by
    decide +kernel
  rcases Bool.or_eq_true_iff.1 boundary with blank | bracket
  · rcases Ranges.exists_mem_of_containsCode blank with ⟨range, listed, low, high⟩
    refine Bool.eq_false_iff.2 fun digit => ?_
    rcases Ranges.exists_mem_of_containsCode digit with ⟨other, otherListed, otherLow, otherHigh⟩
    rcases apart range listed other otherListed with less | less
    · omega
    · omega
  · rcases isBracket_cases bracket with rfl | rfl | rfl | rfl <;> decide

/-- The characters that begin a name lie between `A` and `z`. -/
theorem toNat_of_isNameStart
    {character : Char}
    (start : isNameStart character = true) :
    65 ≤ character.toNat ∧ character.toNat ≤ 122 := by
  simp only [isNameStart, isAsciiLetter, Bool.or_eq_true, Bool.and_eq_true, decide_eq_true_eq,
    beq_iff_eq, Char.le_def, UInt32.le_iff_toNat_le] at start
  rcases start with (lower | upper) | rfl
  · exact ⟨Nat.le_trans (by decide) lower.1, lower.2⟩
  · exact ⟨upper.1, Nat.le_trans upper.2 (by decide)⟩
  · decide

theorem isNameChar_of_isBoundary
    {character : Char}
    (boundary : isBoundary character = true) :
    isNameChar character = false := by
  have apart : ∀ range ∈ blankRanges, range.2 < 48 ∨ 122 < range.1 := by
    decide
  rcases Bool.or_eq_true_iff.1 boundary with blank | bracket
  · rcases Ranges.exists_mem_of_containsCode blank with ⟨range, listed, low, high⟩
    refine Bool.eq_false_iff.2 fun name => ?_
    have bounds : 48 ≤ character.toNat ∧ character.toNat ≤ 122 := by
      rcases Bool.or_eq_true_iff.1 name with start | digit
      · have := toNat_of_isNameStart start
        omega
      · simp only [Char.isDigit, Bool.and_eq_true, decide_eq_true_eq,
          UInt32.le_iff_toNat_le] at digit
        exact ⟨digit.1, Nat.le_trans digit.2 (by decide)⟩
    rcases apart range listed with less | less
    · omega
    · omega
  · rcases isBracket_cases bracket with rfl | rfl | rfl | rfl <;> decide

theorem isOperatorSign_of_isBoundary
    {character : Char}
    (boundary : isBoundary character = true) :
    isOperatorSign character = false := by
  have signs :
      (['-', '+', '*', '/', '%', '<', '>', '=', '!'].all fun sign => !isBoundary sign) = true := by
    decide
  refine Bool.eq_false_iff.2 fun sign => ?_
  have inside := List.all_eq_true.1 signs character (List.contains_iff_mem.1 sign)
  rw [boundary] at inside
  cases inside

/-- The text is empty or begins at a boundary. -/
def StartsApart (text : List Char) : Prop :=
  ∀ character ∈ text.head?, isBoundary character = true

section Runs

variable
    {member : Char → Bool}
    {back : List Char}
    (outside : ∀ character ∈ back.head?, member character = false)

include outside

theorem takeWhile_append_of_head?
    (front : List Char) :
    (front ++ back).takeWhile member = front.takeWhile member := by
  have stops : back.takeWhile member = [] := by
    cases back with
    | nil => rfl
    | cons character rest => simp [outside character rfl]
  rw [List.takeWhile_append, stops, List.append_nil]
  split
  · rename_i whole
    exact ((List.takeWhile_prefix member).eq_of_length whole).symm
  · rfl

theorem dropWhile_append_of_head?
    (front : List Char) :
    (front ++ back).dropWhile member = front.dropWhile member ++ back := by
  have stays : back.dropWhile member = back := by
    cases back with
    | nil => rfl
    | cons character rest => simp [outside character rfl]
  rw [List.dropWhile_append, stays]
  split
  · rename_i none
    rw [List.isEmpty_iff.1 none, List.nil_append]
  · rfl

end Runs

/-- A literal is closed by a quote in the text itself when none follows. -/
theorem literalBody?_append
    {back : List Char}
    (quoteless : '"' ∉ back)
    (front : List Char) :
    literalBody? (front ++ back) = literalBody? front := by
  apply Option.ext
  intro body
  rw [literalBody?_eq_some, literalBody?_eq_some]
  constructor
  · rintro ⟨inner, rest, nonempty, members, rfl, whole⟩
    rcases List.append_eq_append_iff.1 whole with ⟨more, -, rfl⟩ | ⟨more, divided, quote⟩
    · simp at quoteless
    · cases more with
      | nil =>
          rw [List.nil_append] at quote
          exact absurd (quote ▸ List.mem_cons_self) quoteless
      | cons character more =>
          rw [List.cons_append, List.cons.injEq] at quote
          exact ⟨inner, more, nonempty, members, rfl, quote.1 ▸ divided⟩
  · rintro ⟨inner, rest, nonempty, members, rfl, rfl⟩
    exact ⟨inner, rest ++ back, nonempty, members, rfl, by simp⟩

section Boundary

variable
    {back : List Char}
    (apart : StartsApart back)

include apart

theorem number_append
    (front : List Char) :
    number (front ++ back) = number front := by
  have noDigit : ∀ character ∈ back.head?, isDecimalDigit character = false :=
    fun character first => isDecimalDigit_of_isBoundary (apart character first)
  rw [number, number, takeWhile_append_of_head? noDigit, dropWhile_append_of_head? noDigit]
  cases front.dropWhile isDecimalDigit with
  | nil =>
      rw [List.nil_append]
      split
      · exact absurd (apart '.' rfl) (by decide)
      · rfl
  | cons character rest =>
      by_cases point : character = '.'
      · subst point
        simp only [List.cons_append, takeWhile_append_of_head? noDigit]
      · simp [point]

/-- What is read in front of a boundary is read without regard to what follows. -/
theorem lexeme?_append
    {character : Char}
    (closed : character = '"' → '"' ∉ back)
    (visible : isBlank character = false)
    (rest : List Char) :
    lexeme? (character :: (rest ++ back)) = lexeme? (character :: rest) := by
  by_cases quote : character = '"'
  · subst quote
    simp only [lexeme?, if_true, literalBody?_append (closed rfl)]
  have noName : ∀ character ∈ back.head?, isNameChar character = false :=
    fun character first => isNameChar_of_isBoundary (apart character first)
  have noSign : ∀ character ∈ back.head?, isOperatorSign character = false :=
    fun character first => isOperatorSign_of_isBoundary (apart character first)
  simp only [lexeme?, if_neg quote, visible, Bool.false_eq_true, if_false,
    ← List.cons_append, number_append apart, takeWhile_append_of_head? noName,
    takeWhile_append_of_head? noSign]

end Boundary

/-- Where something is read, the gap in front of it ends. -/
theorem tokensFrom_of_isSome
    {source : List Char}
    (read : (lexeme? source).isSome = true)
    (gap : List Char) :
    tokensFrom gap source = gapTokens gap ++ tokens source := by
  rcases Option.isSome_iff_exists.1 read with ⟨⟨kind, text⟩, read⟩
  rcases (reads_of_lexeme? read).exists_append with ⟨behind, divided⟩
  cases source with
  | nil => cases read
  | cons character rest =>
      rw [tokens, tokensFrom_of_some read divided, tokensFrom_of_some read divided]
      simp [gapTokens]

theorem lexeme?_of_isBlank
    {character : Char}
    (blank : isBlank character = true)
    (rest : List Char) :
    lexeme? (character :: rest) =
      some (whitespaceKind, character :: rest.takeWhile isBlank) := by
  have notQuote : character ≠ '"' := by
    rintro rfl
    exact absurd blank (by decide)
  simp [lexeme?, notQuote, blank]

theorem tokens_cons_of_isBlank
    {character : Char}
    (blank : isBlank character = true)
    (rest : List Char) :
    tokens (character :: rest) = tokens rest := by
  have divided (first : Char) (rest : List Char) :
      first :: rest = first :: rest.takeWhile isBlank ++ rest.dropWhile isBlank := by
    rw [List.cons_append, List.takeWhile_append_dropWhile]
  have skipped :
      tokens (character :: rest) = tokens (rest.dropWhile isBlank) := by
    rw [tokens, tokensFrom_of_some (lexeme?_of_isBlank blank rest) (divided character rest)]
    rfl
  rw [skipped]
  -- The run of white space goes as far when it is read from its second character on.
  cases rest with
  | nil => rfl
  | cons next rest =>
      by_cases nextBlank : isBlank next = true
      · rw [List.dropWhile_cons_of_pos nextBlank, tokens, tokens,
          tokensFrom_of_some (lexeme?_of_isBlank nextBlank rest) (divided next rest)]
        rfl
      · rw [List.dropWhile_cons_of_neg nextBlank]

theorem tokens_append_of_blank
    {front : List Char}
    (blank : ∀ character ∈ front, isBlank character = true)
    (back : List Char) :
    tokens (front ++ back) = tokens back := by
  induction front with
  | nil => rfl
  | cons character front ih =>
      rw [List.forall_mem_cons] at blank
      rw [List.cons_append, tokens_cons_of_isBlank blank.1, ih blank.2]

def bracketKinds : List String :=
  ["LPAREN", "RPAREN", "LBRACE", "RBRACE"]

theorem lexeme?_of_isBracket
    {character : Char}
    (bracket : isBracket character = true)
    (rest : List Char) :
    ∃ kind ∈ bracketKinds, lexeme? (character :: rest) = some (kind, [character]) := by
  rcases isBracket_cases bracket with rfl | rfl | rfl | rfl
  · exact ⟨"LPAREN", by decide, rfl⟩
  · exact ⟨"RPAREN", by decide, rfl⟩
  · exact ⟨"LBRACE", by decide, rfl⟩
  · exact ⟨"RBRACE", by decide, rfl⟩

theorem isSome_lexeme?_of_isBoundary
    {character : Char}
    (boundary : isBoundary character = true)
    (rest : List Char) :
    (lexeme? (character :: rest)).isSome = true := by
  rcases Bool.or_eq_true_iff.1 boundary with blank | bracket
  · rw [lexeme?_of_isBlank blank]
    rfl
  · rcases lexeme?_of_isBracket bracket rest with ⟨kind, -, read⟩
    rw [read]
    rfl

section Boundary

variable
    {back : List Char}
    (apart : StartsApart back)

include apart

theorem tokensFrom_boundary
    (gap : List Char) :
    tokensFrom gap back = gapTokens gap ++ tokens back := by
  cases back with
  | nil =>
      rw [tokens, tokensFrom_nil, tokensFrom_nil]
      simp [gapTokens]
  | cons character rest =>
      exact tokensFrom_of_isSome (isSome_lexeme?_of_isBoundary (apart character rfl) rest) gap

/-- What is read goes first, whether or not the text is cut at a later boundary. -/
theorem tokensFrom_append_of_some
    {character : Char}
    {rest text behind : List Char}
    {kind : String}
    (closed : character = '"' → '"' ∉ back)
    (read : lexeme? (character :: rest) = some (kind, text))
    (divided : character :: rest = text ++ behind)
    (gap : List Char) :
    tokensFrom gap (character :: (rest ++ back)) =
      gapTokens gap ++ lexemeTokens kind text ++ tokens (behind ++ back) := by
  have whole : character :: (rest ++ back) = text ++ (behind ++ back) := by
    rw [← List.cons_append, divided, List.append_assoc]
  by_cases blank : isBlank character = true
  · -- White space may go on behind the cut, but none of it leaves a token.
    have wholeRead := lexeme?_of_isBlank blank (rest ++ back)
    rw [lexeme?_of_isBlank blank] at read
    cases read
    have blanks : ∀ other ∈ character :: rest.takeWhile isBlank, isBlank other = true := by
      rw [List.forall_mem_cons]
      exact ⟨blank, List.all_eq_true.1 List.all_takeWhile⟩
    rw [tokensFrom_of_isSome (by rw [wholeRead]; rfl), whole, tokens_append_of_blank blanks]
    simp [lexemeTokens]
  · have visible : isBlank character = false := by simpa using blank
    rw [tokensFrom_of_some ((lexeme?_append apart closed visible rest).trans read) whole]
    rfl

/-- A text with quotes on one side only may be cut in front of a boundary. -/
theorem tokensFrom_append
    {front : List Char}
    (quoteless : '"' ∈ front → '"' ∉ back)
    (gap : List Char) :
    tokensFrom gap (front ++ back) = tokensFrom gap front ++ tokens back := by
  fun_induction tokensFrom gap front with
  | case1 gap => exact tokensFrom_boundary apart gap
  | case2 gap character rest unread ih =>
      have closed : character = '"' → '"' ∉ back :=
        fun quote => quoteless (quote ▸ List.mem_cons_self)
      have unreadHere : lexeme? (character :: (rest ++ back)) = none := by
        have visible : isBlank character = false := by
          refine Bool.eq_false_iff.2 fun blank => ?_
          rw [lexeme?_of_isBlank blank] at unread
          cases unread
        rw [lexeme?_append apart closed visible, unread]
      rw [List.cons_append, tokensFrom_of_none unreadHere,
        ih fun inside => quoteless (List.mem_cons_of_mem _ inside)]
  | case3 gap character rest kind text read ih =>
      have divided :
          character :: rest = text ++ (character :: rest).drop text.length := by
        rcases (reads_of_lexeme? read).exists_append with ⟨behind, whole⟩
        rw [whole, List.drop_left]
      have closed : character = '"' → '"' ∉ back :=
        fun quote => quoteless (quote ▸ List.mem_cons_self)
      have behindQuoteless : '"' ∈ (character :: rest).drop text.length → '"' ∉ back :=
        fun inside => quoteless (List.mem_of_mem_drop inside)
      rw [List.cons_append, tokensFrom_append_of_some apart closed read divided,
        tokens, ih behindQuoteless, List.append_assoc _ _ (tokens back)]

end Boundary

/-- The tokens without those of parentheses and braces. -/
def withoutBrackets (tokens : List Token) : List Token :=
  tokens.filter fun token => !bracketKinds.contains token.kind

/-- No parenthesis and no brace is promoted. -/
theorem lexemeTokens_of_isBracket
    {character : Char}
    {kind : String}
    (bracket : isBracket character = true)
    (kindListed : kind ∈ bracketKinds) :
    lexemeTokens kind [character] = [⟨String.ofList [character], kind⟩] := by
  have foreign : ¬ IsVocabularyLetter character := by
    have brackets :
        (['(', ')', '{', '}'].all fun other =>
            vocabularyLetters.all fun letter => fold other != fold letter) =
          true := by
      decide +kernel
    have apart := List.all_eq_true.1 brackets character (List.contains_iff_mem.1 bracket)
    rintro ⟨letter, listed, same⟩
    simpa [same] using List.all_eq_true.1 apart letter listed
  have refused : ScanOptions.standard.classifier.accepts [character] = false :=
    Classifier.accepts_eq_false .contains true stringKind (by simpa using foreign)
  have visible : kind ≠ whitespaceKind := by
    rintro rfl
    exact absurd kindListed (by decide)
  simp [lexemeTokens, visible, refused]

def content (text : List Char) : List Token :=
  withoutBrackets (tokens text)

theorem withoutBrackets_append
    (front back : List Token) :
    withoutBrackets (front ++ back) = withoutBrackets front ++ withoutBrackets back := by
  exact List.filter_append front back

@[simp]
theorem content_nil :
    content [] = [] := by
  rw [content, tokens, tokensFrom_nil]
  rfl

theorem content_cons_of_isBoundary
    {character : Char}
    (boundary : isBoundary character = true)
    (rest : List Char) :
    content (character :: rest) = content rest := by
  rcases Bool.or_eq_true_iff.1 boundary with blank | bracket
  · rw [content, tokens_cons_of_isBlank blank, content]
  · rcases lexeme?_of_isBracket bracket rest with ⟨kind, kindListed, read⟩
    rw [content, tokens, tokensFrom_of_some read rfl, withoutBrackets_append,
      withoutBrackets_append, lexemeTokens_of_isBracket bracket kindListed]
    simp [withoutBrackets, kindListed, gapTokens, content, tokens]

/-- White space, a parenthesis or a brace only separates what stands around it. -/
theorem content_append_cons
    {front : List Char}
    {character : Char}
    (quoteless : '"' ∉ front)
    (boundary : isBoundary character = true)
    (back : List Char) :
    content (front ++ character :: back) = content front ++ content back := by
  have apart : StartsApart (character :: back) := by
    rintro other ⟨⟩
    exact boundary
  rw [← content_cons_of_isBoundary boundary back, content, tokens,
    tokensFrom_append apart fun inside => absurd inside quoteless, withoutBrackets_append]
  rfl

section Boundaries

variable
    {boundaries : List Char}
    (all : ∀ character ∈ boundaries, isBoundary character = true)

include all

theorem content_boundaries_append
    (back : List Char) :
    content (boundaries ++ back) = content back := by
  induction boundaries with
  | nil => rfl
  | cons character boundaries ih =>
      rw [List.forall_mem_cons] at all
      rw [List.cons_append, content_cons_of_isBoundary all.1, ih all.2]

theorem content_boundaries :
    content boundaries = [] := by
  simpa using content_boundaries_append all []

theorem content_append_boundaries_append
    {front : List Char}
    (quoteless : '"' ∉ front)
    (nonempty : boundaries ≠ [])
    (back : List Char) :
    content (front ++ (boundaries ++ back)) = content front ++ content back := by
  cases boundaries with
  | nil => exact absurd rfl nonempty
  | cons character boundaries =>
      rw [List.forall_mem_cons] at all
      rw [List.cons_append, content_append_cons quoteless all.1,
        content_boundaries_append all.2]

end Boundaries

/-- White space only separates what stands around it when no literal reaches over it. -/
theorem tokens_append_blank_append
    {front blank back : List Char}
    (nonempty : blank ≠ [])
    (blanks : ∀ character ∈ blank, isBlank character = true)
    (quoteless : '"' ∈ front → '"' ∉ back) :
    tokens (front ++ (blank ++ back)) = tokens front ++ tokens back := by
  have apart : StartsApart (blank ++ back) := by
    intro character first
    cases blank with
    | nil => exact absurd rfl nonempty
    | cons space rest =>
        cases first
        exact isBoundary_of_isBlank (blanks _ List.mem_cons_self)
  have closed : '"' ∈ front → '"' ∉ blank ++ back := by
    intro inFront inside
    rcases List.mem_append.1 inside with inBlank | inBack
    · exact absurd (blanks _ inBlank) (by decide)
    · exact quoteless inFront inBack
  rw [tokens, tokensFrom_append apart closed, tokens_append_of_blank blanks]
  rfl

end Lexer

/--
Two texts with white space between them are scanned by the rules of the language
to the tokens of the one and then of the other, provided that one of them holds no
quote: only a string literal could reach over the white space.
-/
theorem Grammar.scan_append
    (front blank back : String)
    (nonempty : blank ≠ "")
    (blanks : ∀ character ∈ blank.toList, isBlank character = true)
    (quoteless : '"' ∉ front.toList ∨ '"' ∉ back.toList) :
    ∃ first second,
      builtIn.scan .standard front = .ok first ∧
        builtIn.scan .standard back = .ok second ∧
        builtIn.scan .standard (front ++ blank ++ back) = .ok (first ++ second) := by
  refine ⟨_, _, scan_standard front, scan_standard back, ?_⟩
  have spaces : blank.toList ≠ [] := mt String.toList_eq_nil_iff.1 nonempty
  have closed : '"' ∈ front.toList → '"' ∉ back.toList :=
    fun inFront => quoteless.resolve_left (not_not_intro inFront)
  rw [scan_standard, String.toList_append, String.toList_append, List.append_assoc,
    tokens_append_blank_append spaces blanks closed]

/-- The literal is left open in front of the white space, and no quote follows to close it. -/
theorem Grammar.scan_append_openLiteral :
    " \n" ≠ "" ∧
      (∀ character ∈ " \n".toList, isBlank character = true) ∧
      ('"' ∉ "print(\"a".toList ∨ '"' ∉ "b) 1.5".toList) ∧
      ∃ first second,
        builtIn.scan .standard "print(\"a" = .ok first ∧
          builtIn.scan .standard "b) 1.5" = .ok second ∧
          builtIn.scan .standard ("print(\"a" ++ " \n" ++ "b) 1.5") = .ok (first ++ second) := by
  have blanks : ∀ character ∈ " \n".toList, isBlank character = true := List.all_eq_true.1 rfl
  have quoteless : '"' ∉ "print(\"a".toList ∨ '"' ∉ "b) 1.5".toList := .inr (by decide)
  exact ⟨by decide, blanks, quoteless, scan_append _ _ _ (by decide) blanks quoteless⟩

end CallScript
