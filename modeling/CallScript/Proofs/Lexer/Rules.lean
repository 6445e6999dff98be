import CallScript.Grammar.BuiltIn
import CallScript.Proofs.Lexer.Basic
import CallScript.Proofs.Pattern.Runs

/-!
# The rules of the language against the direct lexer

At a place of a source, each rule of the language matches what the direct lexer
reads there when the first character leads to this rule, and nothing else.  The
rules ask for different first characters; hence their order plays no part, and
the rule that is chosen at a place is the one that the lexer follows.  The main
statement is `ruleAt?_builtIn`.
-/

namespace CallScript

open CallScript.Lexer
open CallScript.Pattern
open CallScript.Text

namespace Grammar

theorem contains_stringCharSet :
    stringCharSet.contains = isLiteralChar := by
  funext character
  simp [stringCharSet, CharSet.contains, isLiteralChar, isAsciiLetter, Bool.or_assoc]

/-- What remains of a string literal behind its first quote. -/
def literalOpened : Thread :=
  [.expression 2
    (.sequence (.repetition 1 none true (.group 1 (.chars stringCharSet))) (.word ['"']))]

/-- What remains of a string literal behind one of its characters. -/
def literalGoesOn : Thread :=
  [.further 4 true (.group 1 (.chars stringCharSet)), .expression 13 (.word ['"'])]

theorem stringRule_offers :
    (Thread.ofExpr stringRule.expr).Offers 30 [⟨.single '"', literalOpened⟩] false := by
  exact Thread.offers_of_isPlaceless rfl rfl

theorem literalOpened_offers :
    literalOpened.Offers 30 [⟨stringCharSet, literalGoesOn⟩] false := by
  exact Thread.offers_of_isPlaceless rfl rfl

theorem literalGoesOn_offers :
    literalGoesOn.Offers 30 [⟨stringCharSet, literalGoesOn⟩, ⟨.single '"', []⟩] false := by
  exact Thread.offers_of_isPlaceless rfl rfl

/-- Behind a character of a literal, the rest of its run and a quote are matched. -/
theorem advance_literalGoesOn
    (before : Option Char)
    (text : List Char) :
    advance 30 [literalGoesOn] before text =
      match text.dropWhile isLiteralChar with
      | '"' :: _ => some ((text.takeWhile isLiteralChar).length + 1)
      | _ => none := by
  have apart (character : Char) (member : stringCharSet.contains character = true) :
      threadsOver character [⟨.single '"', []⟩] = [] := by
    have other : character ≠ '"' := by
      rintro rfl
      rw [contains_stringCharSet, isLiteralChar_quote] at member
      cases member
    simp [threadsOver, CharSet.contains, other]
  have first := List.head?_dropWhile_not isLiteralChar text
  rw [advance_takeWhile literalGoesOn_offers apart, contains_stringCharSet]
  cases behind : text.dropWhile isLiteralChar with
  | nil =>
      rw [literalGoesOn_offers.advance_nil]
      rfl
  | cons character rest =>
      rw [behind] at first
      by_cases quote : character = '"'
      · subst quote
        have taken :
            threadsOver '"' [⟨stringCharSet, literalGoesOn⟩, ⟨.single '"', []⟩] = [[]] := by
          rfl
        rw [literalGoesOn_offers.advance_step taken, advance_done]
        simp [Nat.add_comm]
      · have stuck :
            threadsOver character [⟨stringCharSet, literalGoesOn⟩, ⟨.single '"', []⟩] = [] := by
          simpa [threadsOver, contains_stringCharSet, CharSet.contains, quote] using first
        rw [literalGoesOn_offers.advance_stuck stuck]
        simp [quote]

theorem advance_literalOpened
    (before : Option Char)
    (text : List Char) :
    advance 30 [literalOpened] before text = (literalBody? text).map List.length := by
  cases text with
  | nil =>
      rw [literalOpened_offers.advance_nil]
      rfl
  | cons character rest =>
      rw [literalOpened_offers.advance_only, contains_stringCharSet]
      cases member : isLiteralChar character with
      | false =>
          rw [literalBody?_of_isLiteralChar_false member]
          rfl
      | true =>
          rw [if_pos rfl, advance_literalGoesOn, literalBody?,
            List.takeWhile_cons_of_pos member, List.dropWhile_cons_of_pos member]
          cases rest.dropWhile isLiteralChar with
          | nil => rfl
          | cons next tail =>
              by_cases quote : next = '"'
              · subst quote
                simp
              · simp [quote]

/-- A string literal is matched as it is read. -/
theorem matchLength?_stringRule
    (before : Option Char)
    (rest : List Char) :
    stringRule.expr.matchLength? before ('"' :: rest) =
      (literalBody? rest).map fun body => body.length + 1 := by
  have depth : stringRule.expr.depth = 30 := rfl
  have quote : CharSet.contains (.single '"') '"' = true := rfl
  rw [Expr.matchLength?, depth, stringRule_offers.advance_only, if_pos quote,
    advance_literalOpened]
  cases literalBody? rest with
  | none => rfl
  | some body => rfl

theorem matchLength?_stringRule_other
    (before : Option Char)
    {character : Char}
    (other : character ≠ '"')
    (rest : List Char) :
    stringRule.expr.matchLength? before (character :: rest) = none := by
  have depth : stringRule.expr.depth = 30 := rfl
  rw [Expr.matchLength?, depth, stringRule_offers.advance_only]
  simp [CharSet.contains, other]

theorem matchLength?_stringRule_nil
    (before : Option Char) :
    stringRule.expr.matchLength? before [] = none :=
  stringRule_offers.advance_nil

/-- What remains of a number behind a digit of its whole part. -/
def numberGoesOn : Thread :=
  [.further 2 true (.chars .decimalDigit),
    .expression 9
      (.repetition 0 (some 1) true
        (.group 1
          (.sequence (.word ['.']) (.repetition 1 none true (.chars .decimalDigit)))))]

/-- What remains of a number behind its point. -/
def numberPointed : Thread :=
  [.expression 14 (.repetition 1 none true (.chars .decimalDigit))]

/-- What remains of a number behind a digit of its fraction. -/
def fractionGoesOn : Thread :=
  [.further 15 true (.chars .decimalDigit)]

theorem numberRule_offers :
    (Thread.ofExpr numberRule.expr).Offers 76 [⟨.decimalDigit, numberGoesOn⟩] false := by
  exact Thread.offers_of_isPlaceless rfl rfl

theorem numberGoesOn_offers :
    numberGoesOn.Offers 76 [⟨.decimalDigit, numberGoesOn⟩, ⟨.single '.', numberPointed⟩] true := by
  exact Thread.offers_of_isPlaceless rfl rfl

theorem numberPointed_offers :
    numberPointed.Offers 76 [⟨.decimalDigit, fractionGoesOn⟩] false := by
  exact Thread.offers_of_isPlaceless rfl rfl

theorem fractionGoesOn_offers :
    fractionGoesOn.Offers 76 [⟨.decimalDigit, fractionGoesOn⟩] true := by
  exact Thread.offers_of_isPlaceless rfl rfl

/-- Behind a point, a run of digits is matched if there is one. -/
theorem advance_numberPointed
    (before : Option Char)
    (text : List Char) :
    advance 76 [numberPointed] before text =
      if (text.takeWhile isDecimalDigit).isEmpty then none
      else some (text.takeWhile isDecimalDigit).length := by
  cases text with
  | nil =>
      rw [numberPointed_offers.advance_nil]
      rfl
  | cons character rest =>
      rw [numberPointed_offers.advance_only, advance_longestRun fractionGoesOn_offers]
      cases digit : isDecimalDigit character with
      | false => simp [digit, CharSet.contains]
      | true => simp [digit, CharSet.contains]

/-- Behind a digit of its whole part, a number is matched as it is read. -/
theorem advance_numberGoesOn
    (before : Option Char)
    (text : List Char) :
    advance 76 [numberGoesOn] before text = some (number text).length := by
  have apart (character : Char) (digit : isDecimalDigit character = true) :
      threadsOver character [⟨.single '.', numberPointed⟩] = [] := by
    have other : character ≠ '.' := by
      rintro rfl
      exact absurd digit (by decide)
    simp [threadsOver, CharSet.contains, other]
  have digitSet : CharSet.contains .decimalDigit = isDecimalDigit := rfl
  have first := List.head?_dropWhile_not isDecimalDigit text
  rw [advance_takeWhile numberGoesOn_offers apart, digitSet, number]
  cases behind : text.dropWhile isDecimalDigit with
  | nil =>
      rw [numberGoesOn_offers.advance_nil]
      simp
  | cons character rest =>
      rw [behind] at first
      have notDigit : isDecimalDigit character = false := first
      by_cases point : character = '.'
      · subst point
        have taken :
            threadsOver '.'
                [⟨.decimalDigit, numberGoesOn⟩, ⟨.single '.', numberPointed⟩] =
              [numberPointed] := by
          simp [threadsOver, CharSet.contains, notDigit]
        rw [numberGoesOn_offers.advance_step taken, advance_numberPointed]
        simp only
        split
        · simp
        · simp
          omega
      · have stuck :
            threadsOver character
                [⟨.decimalDigit, numberGoesOn⟩, ⟨.single '.', numberPointed⟩] =
              [] := by
          simp [threadsOver, CharSet.contains, notDigit, point]
        rw [numberGoesOn_offers.advance_stuck stuck]
        simp [point]

theorem matchLength?_numberRule
    (before : Option Char)
    (character : Char)
    (rest : List Char) :
    numberRule.expr.matchLength? before (character :: rest) =
      if isDecimalDigit character then some (number (character :: rest)).length else none := by
  have depth : numberRule.expr.depth = 76 := rfl
  rw [Expr.matchLength?, depth, numberRule_offers.advance_only, advance_numberGoesOn]
  cases digit : isDecimalDigit character with
  | true => simp [digit, CharSet.contains, number_cons digit]
  | false => simp [digit, CharSet.contains]

def nameStartSet : CharSet :=
  .union (.range 'A' 'Z') (.union (.range 'a' 'z') (.single '_'))

def nameCharSet : CharSet :=
  .union (.range 'A' 'Z') (.union (.range 'a' 'z') (.union (.range '0' '9') (.single '_')))

theorem contains_nameStartSet :
    nameStartSet.contains = isNameStart := by
  funext character
  simp only [nameStartSet, CharSet.contains, isNameStart, isAsciiLetter]
  ac_rfl

theorem contains_nameCharSet :
    nameCharSet.contains = isNameChar := by
  funext character
  have digit : character.isDigit = (decide ('0' ≤ character) && decide (character ≤ '9')) := rfl
  simp only [nameCharSet, CharSet.contains, isNameChar, isNameStart, isAsciiLetter, digit]
  ac_rfl

/-- What remains of a name behind its first character. -/
def nameOpened : Thread :=
  [.expression 2 (.repetition 0 none true (.chars nameCharSet))]

/-- What remains of a name behind a further character. -/
def nameGoesOn : Thread :=
  [.further 3 true (.chars nameCharSet)]

theorem barewordRule_offers :
    (Thread.ofExpr barewordRule.expr).Offers 16 [⟨nameStartSet, nameOpened⟩] false := by
  exact Thread.offers_of_isPlaceless rfl rfl

theorem nameOpened_offers :
    nameOpened.Offers 16 [⟨nameCharSet, nameGoesOn⟩] true := by
  exact Thread.offers_of_isPlaceless rfl rfl

theorem nameGoesOn_offers :
    nameGoesOn.Offers 16 [⟨nameCharSet, nameGoesOn⟩] true := by
  exact Thread.offers_of_isPlaceless rfl rfl

theorem advance_nameOpened
    (before : Option Char)
    (text : List Char) :
    advance 16 [nameOpened] before text = some (text.takeWhile isNameChar).length := by
  cases text with
  | nil =>
      rw [nameOpened_offers.advance_nil]
      rfl
  | cons character rest =>
      rw [nameOpened_offers.advance_only, advance_longestRun nameGoesOn_offers,
        contains_nameCharSet]
      cases member : isNameChar character with
      | true => simp [member]
      | false => simp [member]

theorem matchLength?_barewordRule
    (before : Option Char)
    (character : Char)
    (rest : List Char) :
    barewordRule.expr.matchLength? before (character :: rest) =
      if isNameStart character then some (character :: rest.takeWhile isNameChar).length
      else none := by
  have depth : barewordRule.expr.depth = 16 := rfl
  rw [Expr.matchLength?, depth, barewordRule_offers.advance_only, advance_nameOpened,
    contains_nameStartSet]
  simp

def operatorSet : CharSet :=
  .union (.single '-') (.union (.single '+') (.union (.single '*')
    (.union (.single '/') (.union (.single '%') (.union (.single '<')
      (.union (.single '>') (.union (.single '=') (.single '!'))))))))

theorem contains_operatorSet :
    operatorSet.contains = isOperatorSign := by
  funext character
  simp only [operatorSet, CharSet.contains, isOperatorSign, List.contains_cons,
    List.contains_nil, Bool.or_false]

theorem matchLength?_whitespaceRule
    (before : Option Char)
    (character : Char)
    (rest : List Char) :
    whitespaceRule.expr.matchLength? before (character :: rest) =
      if isBlank character then some (character :: rest.takeWhile isBlank).length else none :=
  matchLength?_oneOrMore .blank before character rest

theorem matchLength?_operatorRule
    (before : Option Char)
    (character : Char)
    (rest : List Char) :
    operatorRule.expr.matchLength? before (character :: rest) =
      if isOperatorSign character then some (character :: rest.takeWhile isOperatorSign).length
      else none := by
  rw [← contains_operatorSet]
  exact matchLength?_oneOrMore operatorSet before character rest

theorem ruleAt?_cons_of_none
    {before : Option Char}
    {text : List Char}
    {rule : Rule}
    (missing : rule.expr.matchLength? before text = none)
    (rules : List Rule) :
    ruleAt? before text (rule :: rules) = ruleAt? before text rules := by
  simp only [ruleAt?, missing]

theorem ruleAt?_cons_of_some
    {before : Option Char}
    {text : List Char}
    {rule : Rule}
    {length : Nat}
    (taken : rule.expr.matchLength? before text = some length)
    (positive : 0 < length)
    (rules : List Rule) :
    ruleAt? before text (rule :: rules) = some (rule, length) := by
  rcases Nat.exists_eq_succ_of_ne_zero (Nat.ne_of_gt positive) with ⟨length, rfl⟩
  simp only [ruleAt?, taken]

/-- A rule that asks for a first character is chosen where it stands. -/
theorem ruleAt?_cons_of_ite
    {before : Option Char}
    {text : List Char}
    {rule : Rule}
    {first : Prop}
    [Decidable first]
    {length : Nat}
    (matched : rule.expr.matchLength? before text = if first then some length else none)
    (positive : first → 0 < length)
    (rules : List Rule) :
    ruleAt? before text (rule :: rules) =
      if first then some (rule, length) else ruleAt? before text rules := by
  by_cases holds : first
  · rw [if_pos holds] at matched ⊢
    exact ruleAt?_cons_of_some matched (positive holds) rules
  · rw [if_neg holds] at matched ⊢
    exact ruleAt?_cons_of_none matched rules

/-- The rules behind the one for string literals, in a text that is not empty. -/
theorem ruleAt?_others
    (before : Option Char)
    (character : Char)
    (rest : List Char) :
    ruleAt? before (character :: rest) builtIn.rules.tail =
      if isBlank character then
        some (whitespaceRule, (character :: rest.takeWhile isBlank).length)
      else if isDecimalDigit character then
        some (numberRule, (number (character :: rest)).length)
      else if isNameStart character then
        some (barewordRule, (character :: rest.takeWhile isNameChar).length)
      else if character = '(' then some (singleRule "LPAREN" "\\(" '(', 1)
      else if character = ')' then some (singleRule "RPAREN" "\\)" ')', 1)
      else if character = '{' then some (singleRule "LBRACE" "\\\x7b" '{', 1)
      else if character = '}' then some (singleRule "RBRACE" "\\\x7d" '}', 1)
      else if character = ',' then some (singleRule "COMMA" "," ',', 1)
      else if isOperatorSign character then
        some (operatorRule, (character :: rest.takeWhile isOperatorSign).length)
      else none := by
  have single (kind pattern : String) (sign : Char) :
      (singleRule kind pattern sign).expr.matchLength? before (character :: rest) =
        if character = sign then some 1 else none :=
    matchLength?_single sign before character rest
  have numberPositive (digit : isDecimalDigit character = true) :
      0 < (number (character :: rest)).length := by
    rw [number_cons digit]
    exact Nat.succ_pos _
  simp only [builtIn, List.tail_cons]
  rw [ruleAt?_cons_of_ite (matchLength?_whitespaceRule before character rest)
      fun _ => Nat.succ_pos _,
    ruleAt?_cons_of_ite (matchLength?_numberRule before character rest) numberPositive,
    ruleAt?_cons_of_ite (matchLength?_barewordRule before character rest)
      fun _ => Nat.succ_pos _,
    ruleAt?_cons_of_ite (single "LPAREN" "\\(" '(') fun _ => Nat.one_pos,
    ruleAt?_cons_of_ite (single "RPAREN" "\\)" ')') fun _ => Nat.one_pos,
    ruleAt?_cons_of_ite (single "LBRACE" "\\\x7b" '{') fun _ => Nat.one_pos,
    ruleAt?_cons_of_ite (single "RBRACE" "\\\x7d" '}') fun _ => Nat.one_pos,
    ruleAt?_cons_of_ite (single "COMMA" "," ',') fun _ => Nat.one_pos,
    ruleAt?_cons_of_ite (matchLength?_operatorRule before character rest)
      fun _ => Nat.succ_pos _,
    ruleAt?]

/-- No rule but the one for string literals takes a quote. -/
theorem ruleAt?_others_quote
    (before : Option Char)
    (rest : List Char) :
    ruleAt? before ('"' :: rest) builtIn.rules.tail = none := by
  have blank : isBlank '"' = false := by decide
  have digit : isDecimalDigit '"' = false := by decide
  have nameStart : isNameStart '"' = false := by decide
  have sign : isOperatorSign '"' = false := by decide
  rw [ruleAt?_others]
  simp [blank, digit, nameStart, sign]

/--
The rule that is chosen at a place is the one for what the direct lexer reads
there, and it takes as many characters.
-/
theorem ruleAt?_builtIn
    (before : Option Char)
    (character : Char)
    (rest : List Char) :
    (ruleAt? before (character :: rest) builtIn.rules).map
        (fun chosen => (chosen.1.kind, chosen.2)) =
      (lexeme? (character :: rest)).map fun read => (read.1, read.2.length) := by
  have rules : builtIn.rules = stringRule :: builtIn.rules.tail := rfl
  rw [rules]
  by_cases quote : character = '"'
  · subst quote
    have matched := matchLength?_stringRule before rest
    cases closed : literalBody? rest with
    | some body =>
        rw [closed] at matched
        rw [ruleAt?_cons_of_some matched (Nat.succ_pos _)]
        simp [lexeme?, closed, stringRule, stringKind]
    | none =>
        rw [closed] at matched
        rw [ruleAt?_cons_of_none matched, ruleAt?_others_quote]
        simp [lexeme?, closed]
  · rw [ruleAt?_cons_of_none (matchLength?_stringRule_other before quote rest), ruleAt?_others]
    simp only [lexeme?, if_neg quote]
    by_cases blank : isBlank character = true
    · simp [blank, whitespaceRule, whitespaceKind]
    rw [if_neg blank, if_neg blank]
    by_cases digit : isDecimalDigit character = true
    · simp [digit, numberRule]
    rw [if_neg digit, if_neg digit]
    by_cases nameStart : isNameStart character = true
    · have nameChar : isNameChar character = true := by simp [isNameChar, nameStart]
      simp [nameStart, nameChar, barewordRule]
    -- The five delimiters come in the same order on both sides.
    rw [if_neg nameStart, if_neg nameStart, delimiterKind?]
    split
    · rfl
    split
    · rfl
    split
    · rfl
    split
    · rfl
    split
    · rfl
    simp only
    by_cases sign : isOperatorSign character = true
    · simp [sign, operatorRule]
    · rw [if_neg sign, if_neg sign]
      rfl

end Grammar

end CallScript
