import CallScript.Proofs.Number.Reading
import CallScript.Proofs.Text.Pieces
import CallScript.Value

/-!
# Literals

What is typed as an argument of a call is read without the white space around it: as a number
when it is a numeral, as a truth value when it is the name of one, and as a text otherwise.  The
reader of numbers knows words as well, and a typed number may consist of certain characters
only.  Together these two tests accept the numerals and nothing else, by
`Value.typedNumber?_eq_ofDecimal?`.  The main statement is `Value.ofLiteral_accepts`.
-/

namespace CallScript

open CallScript.Text

/-! ## Typed numbers -/

namespace Value

/-- The characters of typed numbers. -/
def numeralChars : List Char :=
  "0123456789+-.eE".toList

theorem mem_numeralChars
    {character : Char}
    (member : isNumeralChar character = true) :
    character ∈ numeralChars := by
  rw [isNumeralChar, Bool.or_eq_true] at member
  rcases member with digit | sign
  · have bounds := toNat_of_isDigit digit
    have code : character.toNat ∈ List.range' 48 10 := by
      rw [List.mem_range'_1]
      omega
    have listed : ∀ code ∈ List.range' 48 10, Char.ofNat code ∈ numeralChars := by
      decide
    rw [← Char.ofNat_toNat character]
    exact listed _ code
  · have listed : "+-.eE".toList.all numeralChars.contains = true := by
      decide
    apply List.contains_iff_mem.1
    exact List.all_eq_true.1 listed _ (List.contains_iff_mem.1 sign)

theorem isBlank_of_isNumeralChar
    {character : Char}
    (member : isNumeralChar character = true) :
    isBlank character = false := by
  have visible : numeralChars.any isBlank = false := by
    decide
  rw [← Bool.not_eq_true]
  exact List.any_eq_false.1 visible _ (mem_numeralChars member)

theorem isNumeralChar_of_isSign
    {sign : List Char}
    {negative : Bool}
    (signed : IsSign sign negative) :
    ∀ character ∈ sign, isNumeralChar character = true := by
  cases signed with
  | missing => exact List.forall_mem_nil _
  | plus => exact List.forall_mem_singleton.2 (by decide)
  | minus => exact List.forall_mem_singleton.2 (by decide)

theorem isNumeralChar_of_areDigits
    {digits : List Char}
    (areDigits : AreDigits digits) :
    ∀ character ∈ digits, isNumeralChar character = true := by
  intro character member
  rw [isNumeralChar, areDigits character member, Bool.true_or]

theorem isNumeralChar_of_isPositional
    {positional whole fraction : List Char}
    (isPositional : IsPositional positional whole fraction)
    (areDigits : AreDigits (whole ++ fraction)) :
    ∀ character ∈ positional, isNumeralChar character = true := by
  obtain ⟨wholeDigits, fractionDigits⟩ := areDigits_append.1 areDigits
  cases isPositional with
  | pointless => exact isNumeralChar_of_areDigits wholeDigits
  | pointed =>
      rw [List.forall_mem_append, List.forall_mem_cons]
      refine ⟨isNumeralChar_of_areDigits wholeDigits, ?_, isNumeralChar_of_areDigits fractionDigits⟩
      decide

theorem isNumeralChar_of_isExponent
    {text : List Char}
    {exponent : Int}
    (isExponent : IsExponent text exponent) :
    ∀ character ∈ text, isNumeralChar character = true := by
  cases isExponent with
  | missing => exact List.forall_mem_nil _
  | marked isMark signed _ areDigits =>
      rw [List.forall_mem_cons, List.forall_mem_append]
      refine ⟨?_, isNumeralChar_of_isSign signed, isNumeralChar_of_areDigits areDigits⟩
      rcases isMark with rfl | rfl
      · decide
      · decide

theorem isNumeralChar_of_isNumeral
    {text : List Char}
    {decimal : Decimal}
    (numeral : IsNumeral text decimal) :
    ∀ character ∈ text, isNumeralChar character = true := by
  obtain ⟨⟨sign, positional, exponent, rfl, signed, isPositional, isExponent⟩, areDigits, -⟩ :=
    numeral
  rw [List.forall_mem_append, List.forall_mem_append]
  exact
    ⟨isNumeralChar_of_isSign signed, isNumeralChar_of_isPositional isPositional areDigits,
      isNumeralChar_of_isExponent isExponent⟩

theorem ne_nil_of_isNumeral
    {text : List Char}
    {decimal : Decimal}
    (numeral : IsNumeral text decimal) :
    text ≠ [] := by
  rintro rfl
  rw [← Decimal.read?_eq_some_iff] at numeral
  cases numeral

theorem exists_of_lowered
    {sign word rest : List Char}
    {first : Char}
    (letters : Binary64.lowered word = first :: rest)
    (letter : first = 'i' ∨ first = 'n') :
    ∃ character ∈ sign ++ word, isNumeralChar character = false := by
  have apart :
      'i' ∉ Binary64.lowered numeralChars ∧ 'n' ∉ Binary64.lowered numeralChars := by
    decide
  cases word with
  | nil => cases letters
  | cons character word =>
      obtain ⟨start, -⟩ := List.cons_eq_cons.1 letters
      refine ⟨character, List.mem_append_right _ List.mem_cons_self, ?_⟩
      refine Bool.eq_false_iff.2 fun member => ?_
      have lowered : first ∈ Binary64.lowered numeralChars := by
        rw [← start]
        exact List.mem_map_of_mem (mem_numeralChars member)
      rcases letter with rfl | rfl
      · exact apart.1 lowered
      · exact apart.2 lowered

/-- A word for a number has a letter that numerals do not have. -/
theorem exists_of_ofWord?
    {text : List Char}
    {number : Binary64}
    (word : Binary64.ofWord? text = some number) :
    ∃ character ∈ text, isNumeralChar character = false := by
  rcases Binary64.ofWord?_eq_some_iff.1 word with
    ⟨_, ⟨sign, word, rfl, _, short | long⟩, -⟩ | ⟨⟨sign, word, _, rfl, _, missing⟩, -⟩
  · exact exists_of_lowered short (.inl rfl)
  · exact exists_of_lowered long (.inl rfl)
  · exact exists_of_lowered missing (.inr rfl)

/-- The numerals and no other texts are typed numbers. -/
theorem typedNumber?_eq_ofDecimal?
    (text : List Char) :
    typedNumber? text = Binary64.ofDecimal? text := by
  rw [typedNumber?, Binary64.ofText?.eq_def]
  cases decimal : Binary64.ofDecimal? text with
  | some number =>
      obtain ⟨decimal, read, -⟩ := Option.map_eq_some_iff.1 decimal
      have numeral := Decimal.read?_eq_some_iff.1 read
      have accepted : (!text.isEmpty && text.all isNumeralChar) = true := by
        simpa [ne_nil_of_isNumeral numeral] using isNumeralChar_of_isNumeral numeral
      simp only [Option.filter_some, accepted, if_true]
  | none =>
      cases word : Binary64.ofWord? text with
      | none => rfl
      | some number =>
          obtain ⟨character, member, other⟩ := exists_of_ofWord? word
          have refused : text.all isNumeralChar = false := by
            rw [List.all_eq_false]
            exact ⟨character, member, by simp [other]⟩
          simp only [Option.filter_some, refused, Bool.and_false, Bool.false_eq_true, if_false]

theorem ofText?_of_isNumeral
    {text : List Char}
    {decimal : Decimal}
    (numeral : IsNumeral text decimal) :
    Binary64.ofText? text = some decimal.toBinary64 := by
  rw [Binary64.ofText?, Binary64.ofDecimal?, Decimal.read?_eq_some_iff.2 numeral]
  rfl

/-! ## Literals -/

/-- The text stands between two double quotes. -/
def IsQuoted (text : List Char) : Prop :=
  2 ≤ text.length ∧ text.head? = some '"' ∧ text.getLast? = some '"'

instance (text : List Char) : Decidable (IsQuoted text) :=
  inferInstanceAs (Decidable (_ ∧ _ ∧ _))

theorem unquoted?_eq
    (text : List Char) :
    unquoted? text = if IsQuoted text then some text.tail.dropLast else none := by
  cases text with
  | nil => rfl
  | cons first rest =>
      by_cases quote : first = '"'
      · subst quote
        cases rest with
        | nil => rfl
        | cons second rest =>
            rw [unquoted?]
            simp [IsQuoted, List.getLast?_cons_cons]
      · have unmarked : ¬ IsQuoted (first :: rest) := fun quoted =>
          quote (Option.some.inj quoted.2.1)
        rw [if_neg unmarked, unquoted?.eq_def]
        split
        · rename_i quoted
          exact absurd (List.cons_eq_cons.1 quoted).1 quote
        · rfl

theorem ofLiteral_of_isNumeral
    {literal : String}
    {decimal : Decimal}
    (numeral : IsNumeral (trim literal.toList) decimal) :
    ofLiteral literal = .number decimal.toBinary64 := by
  rw [ofLiteral, typedNumber?_eq_ofDecimal?, Binary64.ofDecimal?,
    Decimal.read?_eq_some_iff.2 numeral]
  rfl

theorem ofLiteral_of_not_isNumeral
    {literal : String}
    (noNumeral : ∀ decimal, ¬ IsNumeral (trim literal.toList) decimal) :
    ofLiteral literal =
      if trim literal.toList = "true".toList then .bool true
      else if trim literal.toList = "false".toList then .bool false
      else
        .text
          (String.ofList
            (if IsQuoted (trim literal.toList) then (trim literal.toList).tail.dropLast
            else trim literal.toList)) := by
  have unread : Decimal.read? (trim literal.toList) = none := by
    rw [Option.eq_none_iff_forall_ne_some]
    intro decimal read
    exact noNumeral decimal (Decimal.read?_eq_some_iff.1 read)
  have content :
      (unquoted? (trim literal.toList)).getD (trim literal.toList) =
        if IsQuoted (trim literal.toList) then (trim literal.toList).tail.dropLast
        else trim literal.toList := by
    rw [unquoted?_eq]
    split
    · rfl
    · rfl
  rw [ofLiteral, typedNumber?_eq_ofDecimal?, Binary64.ofDecimal?, unread, Option.map_none, content]

/-- The names of the truth values are no numerals. -/
theorem not_isNumeral_name
    (truth : Bool)
    (decimal : Decimal) :
    ¬ IsNumeral (display (.bool truth)).toList decimal := by
  intro numeral
  have members := isNumeralChar_of_isNumeral numeral
  cases truth with
  | true => exact absurd (members 't' (by decide)) (by decide)
  | false => exact absurd (members 'f' (by decide)) (by decide)

theorem ofLiteral_eq_bool_iff
    {literal : String}
    {truth : Bool} :
    ofLiteral literal = .bool truth ↔ trim literal.toList = (display (.bool truth)).toList := by
  constructor
  · intro typed
    by_cases numeral : ∃ decimal, IsNumeral (trim literal.toList) decimal
    · obtain ⟨decimal, numeral⟩ := numeral
      rw [ofLiteral_of_isNumeral numeral] at typed
      cases typed
    · rw [ofLiteral_of_not_isNumeral (not_exists.1 numeral)] at typed
      split at typed
      · rename_i yes
        cases typed
        exact yes
      split at typed
      · rename_i no
        cases typed
        exact no
      · cases typed
  · intro named
    rw [ofLiteral_of_not_isNumeral (by rw [named]; exact not_isNumeral_name truth), named]
    cases truth with
    | true => rfl
    | false => rfl

/-- A text between quotes is that text, whatever it holds. -/
theorem ofLiteral_quoted
    {front content behind : String}
    (frontBlank : allBlank front.toList = true)
    (behindBlank : allBlank behind.toList = true) :
    ofLiteral (front ++ "\"" ++ content ++ "\"" ++ behind) = .text content := by
  have divided :
      (front ++ "\"" ++ content ++ "\"" ++ behind).toList =
        front.toList ++ ('"' :: (content.toList ++ ['"']) ++ behind.toList) := by
    simp [String.toList_append]
  have trimmed :
      trim (front ++ "\"" ++ content ++ "\"" ++ behind).toList =
        '"' :: (content.toList ++ ['"']) := by
    rw [divided]
    apply trim_append
    · exact List.all_eq_true.1 frontBlank
    · exact List.all_eq_true.1 behindBlank
    · exact List.cons_ne_nil _ _
    · intro character first
      obtain rfl : '"' = character := by simpa using first
      decide
    · intro character last
      obtain rfl : '"' = character := by simpa [List.getLast?_cons] using last
      decide
  have noNumeral : ∀ decimal, ¬ IsNumeral ('"' :: (content.toList ++ ['"'])) decimal := by
    intro decimal numeral
    exact absurd (isNumeralChar_of_isNumeral numeral '"' List.mem_cons_self) (by decide)
  have noName
      (name : String)
      (unquoted : name.toList.head? ≠ some '"') :
      '"' :: (content.toList ++ ['"']) ≠ name.toList := by
    intro same
    rw [← same] at unquoted
    exact unquoted rfl
  have quoted : IsQuoted ('"' :: (content.toList ++ ['"'])) := by
    simp [IsQuoted, List.getLast?_cons]
  rw [ofLiteral_of_not_isNumeral (by rw [trimmed]; exact noNumeral), trimmed,
    if_neg (noName "true" (by decide)), if_neg (noName "false" (by decide)), if_pos quoted,
    List.tail_cons, List.dropLast_concat, String.ofList_toList]

theorem ofLiteral_eq_number_iff
    {literal : String}
    {number : Binary64} :
    ofLiteral literal = .number number ↔
      ∃ decimal, IsNumeral (trim literal.toList) decimal ∧ number = decimal.toBinary64 := by
  constructor
  · intro typed
    by_cases numeral : ∃ decimal, IsNumeral (trim literal.toList) decimal
    · obtain ⟨decimal, numeral⟩ := numeral
      rw [ofLiteral_of_isNumeral numeral] at typed
      exact ⟨decimal, numeral, (Value.number.inj typed).symm⟩
    · rw [ofLiteral_of_not_isNumeral (not_exists.1 numeral)] at typed
      split at typed
      · cases typed
      split at typed
      · cases typed
      · cases typed
  · rintro ⟨decimal, numeral, rfl⟩
    exact ofLiteral_of_isNumeral numeral

/--
What a literal is, given its text without the white space around it.  It is a number just when
the text is a numeral; the number is what the reader of numbers makes of the text, the one
nearest to the numeral and never a missing value.  It is a truth value just when the text is the
name of one.  Any other text is a text, without the quotes if it stands between two.
-/
theorem ofLiteral_accepts
    (literal : String) :
    let text := trim literal.toList
    ((∃ number, ofLiteral literal = .number number) ↔ ∃ decimal, IsNumeral text decimal) ∧
      (∀ number,
        ofLiteral literal = .number number →
          Binary64.ofText? text = some number ∧
            number.isNaN = false ∧
            ∀ decimal, IsNumeral text decimal → decimal.IsNearest number) ∧
      (ofLiteral literal = .bool true ↔ text = "true".toList) ∧
      (ofLiteral literal = .bool false ↔ text = "false".toList) ∧
      ((∀ decimal, ¬ IsNumeral text decimal) →
        text ≠ "true".toList →
          text ≠ "false".toList →
            ofLiteral literal =
              .text (String.ofList (if IsQuoted text then text.tail.dropLast else text))) ∧
      ∀ front content behind : String,
        allBlank front.toList = true →
          allBlank behind.toList = true →
            ofLiteral (front ++ "\"" ++ content ++ "\"" ++ behind) = .text content := by
  intro text
  refine ⟨⟨?_, ?_⟩, ?_, ofLiteral_eq_bool_iff, ofLiteral_eq_bool_iff, ?_, ?_⟩
  · rintro ⟨number, typed⟩
    obtain ⟨decimal, numeral, -⟩ := ofLiteral_eq_number_iff.1 typed
    exact ⟨decimal, numeral⟩
  · rintro ⟨decimal, numeral⟩
    exact ⟨decimal.toBinary64, ofLiteral_of_isNumeral numeral⟩
  · intro number typed
    obtain ⟨decimal, numeral, rfl⟩ := ofLiteral_eq_number_iff.1 typed
    have nearest := decimal.toBinary64_isNearest numeral.areDigits
    refine ⟨ofText?_of_isNumeral numeral, nearest.2.isNaN_eq_false, fun other otherNumeral => ?_⟩
    obtain rfl : decimal = other := numeral.unique otherNumeral
    exact nearest
  · intro noNumeral notTrue notFalse
    rw [ofLiteral_of_not_isNumeral noNumeral, if_neg notTrue, if_neg notFalse]
  · intro front content behind frontBlank behindBlank
    exact ofLiteral_quoted frontBlank behindBlank

/--
A numeral may start with its point.  A word for a number is a text, and so is what stands
between quotes, even if it holds quotes and white space itself.
-/
theorem ofLiteral_accepts_pointFirst :
    let five := Binary64.ofRatio false 5 1
    ofLiteral " .5E1\n" = .number five ∧
      Binary64.ofText? (trim " .5E1\n".toList) = some five ∧
      five.isNaN = false ∧
      IsNumeral (trim " .5E1\n".toList) ⟨false, [], ['5'], 1⟩ ∧
      Decimal.IsNearest ⟨false, [], ['5'], 1⟩ five ∧
      ofLiteral "-Infinity " = .text "-Infinity" ∧
      ofLiteral "\t\"a \"quoted\" word \" " = .text "a \"quoted\" word " := by
  intro five
  have typed : ofLiteral " .5E1\n" = .number five := by decide +kernel
  have numeral : IsNumeral (trim " .5E1\n".toList) ⟨false, [], ['5'], 1⟩ :=
    Decimal.read?_eq_some_iff.1 (by decide +kernel)
  obtain ⟨-, number, -⟩ := ofLiteral_accepts " .5E1\n"
  obtain ⟨read, valued, nearest⟩ := number five typed
  obtain ⟨-, -, -, -, plain, -⟩ := ofLiteral_accepts "-Infinity "
  obtain ⟨-, -, -, -, -, quoted⟩ := ofLiteral_accepts ""
  have noNumeral : ∀ decimal, ¬ IsNumeral (trim "-Infinity ".toList) decimal := by
    intro decimal isNumeral
    have unread : Decimal.read? (trim "-Infinity ".toList) = none := by decide +kernel
    rw [Decimal.read?_eq_some_iff.2 isNumeral] at unread
    cases unread
  refine ⟨typed, read, valued, numeral, nearest _ numeral, ?_, ?_⟩
  · rw [plain noNumeral (by decide +kernel) (by decide +kernel)]
    decide +kernel
  · exact quoted "\t" "a \"quoted\" word " " " (by decide +kernel) (by decide +kernel)

end Value

end CallScript
