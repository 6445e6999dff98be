import CallScript.Proofs.Lexer.Cutting
import CallScript.Proofs.Vocabulary.Words
import Mathlib.Data.List.TakeWhile

/-!
# Lexemes by themselves

No character begins two kinds of lexemes.  So `Lexer.Reads`, which asks each kind
for its own first character, says the same as the direct lexer, which tries the
kinds one after another; this is `lexeme?_eq_some_iff`.  What is read from a text
is read again, whole, when nothing else follows, and nothing is read in the text
of a gap when it stands alone, not even where it holds two quotes.

The main statement is `Grammar.scan_text_of_mem`: a token keeps its kind when its
text is scanned by itself.
-/

namespace CallScript

open CallScript.Lexer
open CallScript.Text

namespace Lexer

section FirstCharacter

variable
    {character : Char}

theorem isDecimalDigit_of_isNameStart
    (start : isNameStart character = true) :
    isDecimalDigit character = false := by
  have apart : ∀ range ∈ decimalDigitRanges, range.2 < 65 ∨ 122 < range.1 := by
    decide
  have bounds := toNat_of_isNameStart start
  refine Bool.eq_false_iff.2 fun digit => ?_
  rcases Ranges.exists_mem_of_containsCode digit with ⟨range, listed, low, high⟩
  rcases apart range listed with less | less
  · omega
  · omega

theorem isBlank_of_isDecimalDigit
    (digit : isDecimalDigit character = true) :
    isBlank character = false := by
  refine Bool.eq_false_iff.2 fun blank => ?_
  rw [isDecimalDigit_of_isBoundary (isBoundary_of_isBlank blank)] at digit
  cases digit

theorem isBlank_of_isNameStart
    (start : isNameStart character = true) :
    isBlank character = false := by
  refine Bool.eq_false_iff.2 fun blank => ?_
  have noName := isNameChar_of_isBoundary (isBoundary_of_isBlank blank)
  rw [isNameChar, start] at noName
  cases noName

theorem mem_of_delimiterKind?
    {kind : String}
    (delimiter : delimiterKind? character = some kind) :
    character ∈ ['(', ')', '{', '}', ','] := by
  by_contra outside
  simp only [List.mem_cons, List.not_mem_nil, or_false, not_or] at outside
  simp [delimiterKind?, outside] at delimiter

end FirstCharacter

/-- The direct lexer reads whatever begins with a first character of its kind. -/
theorem Reads.lexeme?
    {source text : List Char}
    {kind : String}
    (reads : Reads source kind text) :
    lexeme? source = some (kind, text) := by
  cases reads with
  | literal closed => simp [Lexer.lexeme?, closed]
  | blank first => exact lexeme?_of_isBlank first _
  | @number character rest first =>
      have notQuote : character ≠ '"' := by
        rintro rfl
        exact absurd first (by decide)
      simp [Lexer.lexeme?, notQuote, isBlank_of_isDecimalDigit first, first]
  | @name character rest first =>
      have notQuote : character ≠ '"' := by
        rintro rfl
        exact absurd first (by decide)
      have goesOn : isNameChar character = true := by simp [isNameChar, first]
      simp [Lexer.lexeme?, notQuote, isBlank_of_isNameStart first,
        isDecimalDigit_of_isNameStart first, first, goesOn]
  | @delimiter character rest kind first =>
      have others :
          ['(', ')', '{', '}', ','].all fun sign =>
            sign != '"' && !isBlank sign && !isDecimalDigit sign && !isNameStart sign := by
        decide
      have other := List.all_eq_true.1 others character (mem_of_delimiterKind? first)
      simp only [Bool.and_eq_true, bne_iff_ne, Bool.not_eq_true'] at other
      simp [Lexer.lexeme?, other, first]
  | @operator character rest first =>
      have others :
          ['-', '+', '*', '/', '%', '<', '>', '=', '!'].all fun sign =>
            sign != '"' && !isBlank sign && !isDecimalDigit sign && !isNameStart sign &&
              (delimiterKind? sign).isNone := by
        decide
      have other := List.all_eq_true.1 others character (List.contains_iff_mem.1 first)
      simp only [Bool.and_eq_true, bne_iff_ne, Bool.not_eq_true', Option.isNone_iff_eq_none]
        at other
      simp [Lexer.lexeme?, other, first]

theorem lexeme?_eq_some_iff
    {source text : List Char}
    {kind : String} :
    lexeme? source = some (kind, text) ↔ Reads source kind text :=
  ⟨reads_of_lexeme?, Reads.lexeme?⟩

theorem number_number
    (text : List Char) :
    number (number text) = number text := by
  have digits : ∀ digit ∈ text.takeWhile isDecimalDigit, isDecimalDigit digit = true :=
    List.all_eq_true.1 List.all_takeWhile
  have point : ¬ isDecimalDigit '.' = true := by decide
  rcases number_cases text with plain | ⟨rest, -, fraction, pointed⟩
  · rw [plain, number, List.takeWhile_idem, List.dropWhile_eq_nil_iff.2 digits]
  · rw [pointed, number, List.takeWhile_append_of_pos digits,
      List.dropWhile_append_of_pos digits, List.takeWhile_cons_of_neg point,
      List.dropWhile_cons_of_neg point, List.append_nil]
    simp only [List.takeWhile_idem]
    exact if_neg (mt List.isEmpty_iff.1 fraction)

/-- What is read from a text is also read from this part of the text alone. -/
theorem Reads.alone
    {source text : List Char}
    {kind : String}
    (reads : Reads source kind text) :
    Reads text kind text := by
  cases reads with
  | @literal rest body closed =>
      rcases literalBody?_eq_some.1 closed with ⟨inner, behind, nonempty, members, rfl, rfl⟩
      exact .literal (literalBody?_eq_some.2 ⟨inner, [], nonempty, members, rfl, rfl⟩)
  | @blank character rest first =>
      have again := @Reads.blank character (rest.takeWhile isBlank) first
      rwa [List.takeWhile_idem] at again
  | @number character rest first =>
      have again := @Reads.number character (Lexer.number rest) first
      rwa [← number_cons first, number_number] at again
  | @name character rest first =>
      have again := @Reads.name character (rest.takeWhile isNameChar) first
      rwa [List.takeWhile_idem] at again
  | delimiter first => exact .delimiter first
  | @operator character rest first =>
      have again := @Reads.operator character (rest.takeWhile isOperatorSign) first
      rwa [List.takeWhile_idem] at again

/-- Where something is read, something of the same kind is read when the text goes on. -/
theorem Reads.exists_append_right
    {source text : List Char}
    {kind : String}
    (reads : Reads source kind text)
    (behind : List Char) :
    ∃ longer, Reads (source ++ behind) kind longer := by
  cases reads with
  | literal closed =>
      rcases literalBody?_eq_some.1 closed with ⟨inner, rest, nonempty, members, rfl, rfl⟩
      have longer : literalBody? (inner ++ '"' :: rest ++ behind) = some (inner ++ ['"']) :=
        literalBody?_eq_some.2 ⟨inner, rest ++ behind, nonempty, members, rfl, by simp⟩
      exact ⟨_, .literal longer⟩
  | blank first => exact ⟨_, .blank first⟩
  | number first => exact ⟨_, .number first⟩
  | name first => exact ⟨_, .name first⟩
  | delimiter first => exact ⟨_, .delimiter first⟩
  | operator first => exact ⟨_, .operator first⟩

/-- Nothing is read at any place of a text that has another text behind it. -/
def IsGap : List Char → List Char → Prop
  | [], _ => True
  | character :: gap, behind =>
      lexeme? (character :: (gap ++ behind)) = none ∧ IsGap gap behind

section Gaps

variable
    {gap behind : List Char}

theorem IsGap.snoc
    {character : Char}
    (unread : IsGap gap (character :: behind))
    (next : lexeme? (character :: behind) = none) :
    IsGap (gap ++ [character]) behind := by
  induction gap with
  | nil => exact ⟨next, trivial⟩
  | cons first gap ih =>
      refine ⟨?_, ih unread.2⟩
      show lexeme? (first :: (gap ++ [character] ++ behind)) = none
      rw [List.append_assoc]
      exact unread.1

/-- A gap is also one when its text stands alone: what follows could only have been read as more. -/
theorem IsGap.alone
    (unread : IsGap gap behind) :
    IsGap gap [] := by
  induction gap with
  | nil => trivial
  | cons first gap ih =>
      refine ⟨?_, ih unread.2⟩
      rw [List.append_nil]
      cases read : lexeme? (first :: gap) with
      | none => rfl
      | some lexeme =>
          rcases (lexeme?_eq_some_iff.1 read).exists_append_right behind with ⟨longer, reads⟩
          have here := unread.1
          rw [← List.cons_append, reads.lexeme?] at here
          cases here

theorem IsGap.tokensFrom
    (unread : IsGap gap [])
    (passed : List Char) :
    tokensFrom passed gap = gapTokens (passed ++ gap) := by
  induction gap generalizing passed with
  | nil => rw [tokensFrom_nil, List.append_nil]
  | cons first gap ih =>
      have here : lexeme? (first :: gap) = none := by simpa using unread.1
      rw [tokensFrom_of_none here, ih unread.2, List.append_assoc, List.singleton_append]

end Gaps

theorem Reads.tokens
    {text : List Char}
    {kind : String}
    (reads : Reads text kind text) :
    tokens text = lexemeTokens kind text := by
  cases text with
  | nil => exact absurd rfl reads.ne_nil
  | cons character rest =>
      rw [Lexer.tokens, tokensFrom_of_some reads.lexeme? (List.append_nil _).symm, tokensFrom_nil]
      simp [gapTokens]

/-- The tokens are none, or one token with the given text. -/
def AtMostOne (tokens : List Token) (text : List Char) : Prop :=
  ∀ token ∈ tokens, token.text = String.ofList text ∧ tokens = [token]

theorem atMostOne_gapTokens
    (gap : List Char) :
    AtMostOne (gapTokens gap) gap := by
  rw [gapTokens]
  split
  · simp [AtMostOne]
  · simp [AtMostOne]

theorem atMostOne_lexemeTokens
    (kind : String)
    (text : List Char) :
    AtMostOne (lexemeTokens kind text) text := by
  rw [lexemeTokens]
  split
  · simp [AtMostOne]
  split
  · simp [AtMostOne]
  · simp [AtMostOne]

/-- The text of a token is read as this token alone. -/
theorem tokens_text_of_mem_tokensFrom
    {gap source : List Char}
    (unread : IsGap gap source)
    {token : Token}
    (listed : token ∈ tokensFrom gap source) :
    tokens token.text.toList = [token] := by
  have ofGap (gap behind : List Char) (unread : IsGap gap behind) (listed : token ∈ gapTokens gap) :
      tokens token.text.toList = [token] := by
    rcases atMostOne_gapTokens gap token listed with ⟨text, only⟩
    rw [text, String.toList_ofList, tokens, unread.alone.tokensFrom, List.nil_append, only]
  fun_induction tokensFrom gap source with
  | case1 gap => exact ofGap gap [] unread listed
  | case2 gap character rest missing ih => exact ih (unread.snoc missing) listed
  | case3 gap character rest kind text read ih =>
      rcases List.mem_append.1 listed with front | later
      · rcases List.mem_append.1 front with inGap | inLexeme
        · exact ofGap gap _ unread inGap
        · rcases atMostOne_lexemeTokens kind text token inLexeme with ⟨sameText, only⟩
          rw [sameText, String.toList_ofList, (reads_of_lexeme? read).alone.tokens, only]
      · exact ih trivial later

end Lexer

/--
A scan by the rules of the language succeeds, and for each of its tokens, those of
gaps and the reserved ones included, a scan of the text of the token alone gives
exactly this one token.
-/
theorem Grammar.scan_text_of_mem
    (source : String) :
    ∃ tokens,
      builtIn.scan .standard source = .ok tokens ∧
        ∀ token ∈ tokens, builtIn.scan .standard token.text = .ok [token] := by
  refine ⟨_, scan_standard source, ?_⟩
  intro token listed
  have unread : IsGap [] source.toList := trivial
  rw [scan_standard, tokens_text_of_mem_tokensFrom unread listed]

/-- A reserved token, and a gap with two quotes that enclose no string literal. -/
theorem Grammar.scan_text_of_mem_quotes :
    ∃ tokens,
      builtIn.scan .standard "print\"?\"\"a\"" = .ok tokens ∧
        ⟨"print", reservedKind⟩ ∈ tokens ∧
        ⟨"\"?\"", invalidKind⟩ ∈ tokens ∧
        builtIn.scan .standard "print" = .ok [⟨"print", reservedKind⟩] ∧
        builtIn.scan .standard "\"?\"" = .ok [⟨"\"?\"", invalidKind⟩] := by
  rcases scan_text_of_mem "print\"?\"\"a\"" with ⟨tokens, scanned, stable⟩
  have cut :
      builtIn.spans "print\"?\"\"a\"".toList =
        [.hit "BAREWORD" "print".toList, .gap "\"?\"".toList,
          .hit stringKind "\"a\"".toList] := by
    decide +kernel
  have reserved : ScanOptions.standard.classifier.accepts "print".toList = true :=
    Classifier.accepts_of_mem_vocabulary _ _ _ (by decide)
  have word : lexemeTokens "BAREWORD" "print".toList = [⟨"print", reservedKind⟩] := by
    rw [lexemeTokens, if_neg (by decide), reserved, if_pos (by decide), String.ofList_toList]
  have literal : lexemeTokens stringKind "\"a\"".toList = [⟨"\"a\"", stringKind⟩] := by
    rw [lexemeTokens, if_neg (by decide), if_neg (by simp), String.ofList_toList]
  have listed :
      tokens =
        [⟨"print", reservedKind⟩, ⟨"\"?\"", invalidKind⟩, ⟨"\"a\"", stringKind⟩] := by
    rw [scan_eq_label builtIn rfl, cut, ScanOptions.label_cons, ScanOptions.label_cons,
      ScanOptions.label_cons, listing_hit_standard, listing_hit_standard, word, literal]
      at scanned
    exact (Except.ok.inj scanned).symm
  subst listed
  refine ⟨_, scanned, by simp, by simp, ?_, ?_⟩
  · exact stable ⟨"print", reservedKind⟩ (by simp)
  · exact stable ⟨"\"?\"", invalidKind⟩ (by simp)

end CallScript
