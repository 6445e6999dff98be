import CallScript.Number.Decimal
import CallScript.Proofs.Text.Digits

/-!
# Numerals

The grammar of decimal notation: a sign that may be missing, digits with a point that may
stand anywhere among them or be missing, and an exponent that may be missing.  Beside each
part stands what it denotes.  `Decimal.read?_eq_some_iff` says that exactly the numerals of
this grammar are read, each as the number that it denotes.

The words for numbers have a grammar as well, and by `Binary64.ofWord?_eq_some_iff` nothing but
these words is read as a word.
-/

namespace CallScript

open CallScript.Text

/-! ## Signs -/

/-- A sign that may be missing, and whether it is a minus sign. -/
inductive IsSign : List Char → Bool → Prop where
  | missing : IsSign [] false
  | plus : IsSign ['+'] false
  | minus : IsSign ['-'] true

/-- The text does not start with a sign. -/
def IsUnsigned (text : List Char) : Prop :=
  ∀ character ∈ text.head?, character ≠ '+' ∧ character ≠ '-'

/-- What is split off a text as its sign is a sign. -/
theorem exists_readSign
    (text : List Char) :
    ∃ sign, IsSign sign (readSign text).1 ∧ text = sign ++ (readSign text).2 := by
  rw [readSign.eq_def]
  split
  · exact ⟨['-'], .minus, rfl⟩
  · exact ⟨['+'], .plus, rfl⟩
  · exact ⟨[], .missing, rfl⟩

theorem readSign_append
    {sign rest : List Char}
    {negative : Bool}
    (signed : IsSign sign negative)
    (unsigned : IsUnsigned rest) :
    readSign (sign ++ rest) = (negative, rest) := by
  cases signed with
  | plus => rfl
  | minus => rfl
  | missing =>
      rw [List.nil_append, readSign.eq_def]
      split
      · exact absurd rfl (unsigned '-' rfl).2
      · exact absurd rfl (unsigned '+' rfl).1
      · rfl

/-! ## Digits -/

theorem isUnsigned_digits_append
    {digits rest : List Char}
    (areDigits : AreDigits digits)
    (unsigned : IsUnsigned rest) :
    IsUnsigned (digits ++ rest) := by
  cases digits with
  | nil => exact unsigned
  | cons first digits =>
      have digit := areDigits first List.mem_cons_self
      intro character here
      obtain rfl : first = character := by simpa using here
      constructor
      · rintro rfl
        exact absurd digit (by decide)
      · rintro rfl
        exact absurd digit (by decide)

/-! ## Numerals -/

/-- Digits with a point that may stand anywhere among them or be missing. -/
inductive IsPositional : List Char → List Char → List Char → Prop where
  | pointless (whole : List Char) : IsPositional whole whole []
  | pointed (whole fraction : List Char) : IsPositional (whole ++ '.' :: fraction) whole fraction

/-- An exponent, which may be missing. -/
inductive IsExponent : List Char → Int → Prop where
  | missing : IsExponent [] 0
  | marked
      {mark : Char}
      {sign digits : List Char}
      {negative : Bool}
      (isMark : mark = 'e' ∨ mark = 'E')
      (signed : IsSign sign negative)
      (nonempty : digits ≠ [])
      (areDigits : AreDigits digits) :
      IsExponent (mark :: (sign ++ digits))
        (if negative then -(digitsValue digits : Int) else digitsValue digits)

/-- The text is a numeral, and denotes the number. -/
structure IsNumeral (text : List Char) (decimal : Decimal) : Prop where
  /-- A sign, digits with a point among them, and an exponent follow each other. -/
  parts :
    ∃ sign positional exponent,
      text = sign ++ (positional ++ exponent) ∧
        IsSign sign decimal.negative ∧
        IsPositional positional decimal.whole decimal.fraction ∧
        IsExponent exponent decimal.exponent
  /-- Only digits stand in front of and behind the point. -/
  areDigits : AreDigits decimal.digits
  /-- There is one at least. -/
  nonempty : decimal.digits ≠ []

namespace Decimal

/-- What follows the mark of an exponent is a sign and digits. -/
theorem readExponent?_cons
    {mark : Char}
    (isMark : mark = 'e' ∨ mark = 'E')
    (text : List Char) :
    readExponent? (mark :: text) =
      if (readSign text).2.isEmpty || !(readSign text).2.all Char.isDigit then none
      else
        some
          (if (readSign text).1 then -(digitsValue (readSign text).2 : Int)
          else digitsValue (readSign text).2) := by
  rw [readExponent?, if_pos (by simpa using isMark)]

theorem readExponent?_eq_some_iff
    {text : List Char}
    {exponent : Int} :
    readExponent? text = some exponent ↔ IsExponent text exponent := by
  constructor
  · intro read
    cases text with
    | nil =>
        cases read
        exact .missing
    | cons mark text =>
        by_cases isMark : mark = 'e' ∨ mark = 'E'
        · obtain ⟨sign, signed, divided⟩ := exists_readSign text
          rw [readExponent?_cons isMark] at read
          generalize readSign text = parts at signed divided read
          subst divided
          split at read
          · cases read
          · rename_i accepted
            obtain ⟨nonempty, areDigits⟩ :
                parts.2 ≠ [] ∧ AreDigits parts.2 := by
              simpa [areDigits_iff] using accepted
            cases read
            exact .marked isMark signed nonempty areDigits
        · rw [readExponent?, if_neg (by simpa using isMark)] at read
          cases read
  · intro written
    cases written with
    | missing => rfl
    | @marked mark sign digits negative isMark signed nonempty areDigits =>
        have unsigned : IsUnsigned digits := by
          rw [← List.append_nil digits]
          apply isUnsigned_digits_append areDigits
          simp [IsUnsigned]
        have accepted : ¬ (digits.isEmpty || !digits.all Char.isDigit) = true := by
          simp [nonempty, areDigits_iff.1 areDigits]
        rw [readExponent?_cons isMark, readSign_append signed unsigned, if_neg accepted]

/-- What is read behind the digits in front of a point, with these digits in front of it. -/
theorem exists_readFraction
    (whole text : List Char) :
    ∃ positional,
      IsPositional positional whole (readFraction text).1 ∧
        AreDigits (readFraction text).1 ∧
        whole ++ text = positional ++ (readFraction text).2 := by
  rw [readFraction.eq_def]
  split
  · rename_i text
    refine ⟨_, .pointed whole (text.takeWhile Char.isDigit), areDigits_takeWhile text, ?_⟩
    rw [List.append_assoc, List.cons_append, List.takeWhile_append_dropWhile]
  · exact ⟨whole, .pointless whole, List.forall_mem_nil _, rfl⟩

section Exponent

variable
    {text : List Char}
    {exponent : Int}
    (written : IsExponent text exponent)

include written

/-- An exponent starts with its mark, if it starts at all. -/
theorem mark_of_isExponent
    {character : Char}
    (first : character ∈ text.head?) :
    character = 'e' ∨ character = 'E' := by
  cases written with
  | missing => cases first
  | marked isMark =>
      obtain rfl : _ = character := by simpa using first
      exact isMark

theorem isDigitless_of_isExponent :
    IsDigitless text := by
  intro character first
  rcases mark_of_isExponent written first with rfl | rfl
  · decide
  · decide

theorem isUnsigned_of_isExponent :
    IsUnsigned text := by
  intro character first
  rcases mark_of_isExponent written first with rfl | rfl
  · decide
  · decide

theorem readFraction_of_isExponent :
    readFraction text = ([], text) := by
  rw [readFraction.eq_def]
  split
  · rcases mark_of_isExponent written rfl with impossible | impossible
    · cases impossible
    · cases impossible
  · rfl

variable
    {positional whole fraction : List Char}
    (wholeDigits : AreDigits whole)

include wholeDigits

theorem isUnsigned_positional_append
    (isPositional : IsPositional positional whole fraction) :
    IsUnsigned (positional ++ text) := by
  cases isPositional with
  | pointless => exact isUnsigned_digits_append wholeDigits (isUnsigned_of_isExponent written)
  | pointed =>
      rw [List.append_assoc]
      apply isUnsigned_digits_append wholeDigits
      simp [IsUnsigned]

theorem read_positional_append
    (fractionDigits : AreDigits fraction)
    (isPositional : IsPositional positional whole fraction) :
    (positional ++ text).takeWhile Char.isDigit = whole ∧
      readFraction ((positional ++ text).dropWhile Char.isDigit) = (fraction, text) := by
  have digitless := isDigitless_of_isExponent written
  cases isPositional with
  | pointless =>
      rw [takeWhile_digits_append wholeDigits digitless,
        dropWhile_digits_append wholeDigits digitless, readFraction_of_isExponent written]
      exact ⟨rfl, rfl⟩
  | pointed =>
      have point : IsDigitless ('.' :: (fraction ++ text)) := by
        intro character first
        obtain rfl : '.' = character := by simpa using first
        decide
      rw [List.append_assoc, List.cons_append, takeWhile_digits_append wholeDigits point,
        dropWhile_digits_append wholeDigits point, readFraction,
        takeWhile_digits_append fractionDigits digitless,
        dropWhile_digits_append fractionDigits digitless]
      exact ⟨rfl, rfl⟩

end Exponent

theorem read?_of_parts
    {text unsigned fraction rest : List Char}
    {negative : Bool}
    (signed : readSign text = (negative, unsigned))
    (behindWhole : readFraction (unsigned.dropWhile Char.isDigit) = (fraction, rest)) :
    read? text =
      if unsigned.takeWhile Char.isDigit ++ fraction = [] then none
      else
        (readExponent? rest).map fun exponent =>
          ⟨negative, unsigned.takeWhile Char.isDigit, fraction, exponent⟩ := by
  simp only [read?, signed, behindWhole, List.append_eq_nil_iff, Bool.and_eq_true,
    List.isEmpty_iff]

/-- The numerals are read, each as the number that it denotes, and nothing else is. -/
theorem read?_eq_some_iff
    {text : List Char}
    {decimal : Decimal} :
    read? text = some decimal ↔ IsNumeral text decimal := by
  constructor
  · intro read
    obtain ⟨sign, signed, divided⟩ := exists_readSign text
    rcases parts : readSign text with ⟨negative, unsigned⟩
    rw [parts] at signed divided
    obtain ⟨positional, isPositional, fractionDigits, further⟩ :=
      exists_readFraction (unsigned.takeWhile Char.isDigit) (unsigned.dropWhile Char.isDigit)
    rcases behindWhole : readFraction (unsigned.dropWhile Char.isDigit) with ⟨fraction, rest⟩
    rw [behindWhole] at isPositional fractionDigits further
    rw [List.takeWhile_append_dropWhile] at further
    rw [read?_of_parts parts behindWhole] at read
    split at read
    · cases read
    · rename_i nonempty
      obtain ⟨exponent, readExponent, rfl⟩ := Option.map_eq_some_iff.1 read
      have isExponent := readExponent?_eq_some_iff.1 readExponent
      constructor
      case parts =>
        exact
          ⟨sign, positional, rest, by rw [divided, further], signed, isPositional, isExponent⟩
      case areDigits =>
        exact areDigits_append.2 ⟨areDigits_takeWhile unsigned, fractionDigits⟩
      case nonempty =>
        exact nonempty
  · rintro
      ⟨⟨sign, positional, exponent, rfl, signed, isPositional, isExponent⟩, areDigits, nonempty⟩
    obtain ⟨wholeDigits, fractionDigits⟩ := areDigits_append.1 areDigits
    obtain ⟨whole, behindWhole⟩ :=
      read_positional_append isExponent wholeDigits fractionDigits isPositional
    have unsigned := isUnsigned_positional_append isExponent wholeDigits isPositional
    rw [read?_of_parts (readSign_append signed unsigned) behindWhole, whole,
      readExponent?_eq_some_iff.2 isExponent]
    exact if_neg nonempty

end Decimal

/-- A numeral denotes one number only. -/
theorem IsNumeral.unique
    {text : List Char}
    {left right : Decimal}
    (leftNumeral : IsNumeral text left)
    (rightNumeral : IsNumeral text right) :
    left = right := by
  rw [← Decimal.read?_eq_some_iff] at leftNumeral rightNumeral
  exact Option.some.inj (leftNumeral.symm.trans rightNumeral)

/-! ## Words -/

namespace Binary64

/-- A word for infinity, in either case and behind a sign, and whether that is a minus sign. -/
def IsInfinityWord (text : List Char) (negative : Bool) : Prop :=
  ∃ sign word,
    text = sign ++ word ∧
      IsSign sign negative ∧
      (lowered word = "inf".toList ∨ lowered word = "infinity".toList)

/-- The word for a missing value, in either case and behind a sign. -/
def IsMissingWord (text : List Char) : Prop :=
  ∃ sign word negative,
    text = sign ++ word ∧ IsSign sign negative ∧ lowered word = "nan".toList

theorem isUnsigned_of_lowered
    {word rest : List Char}
    {first : Char}
    (letters : lowered word = first :: rest)
    (letter : first ≠ '+' ∧ first ≠ '-') :
    IsUnsigned word := by
  cases word with
  | nil => cases letters
  | cons character word =>
      obtain ⟨start, -⟩ := List.cons_eq_cons.1 letters
      intro character here
      obtain rfl : _ = character := by simpa using here
      constructor
      · rintro rfl
        exact letter.1 start.symm
      · rintro rfl
        exact letter.2 start.symm

theorem ofWord?_of_parts
    {text word : List Char}
    {negative : Bool}
    (signed : readSign text = (negative, word)) :
    ofWord? text =
      if lowered word = "inf".toList ∨ lowered word = "infinity".toList then
        some (.infinity negative)
      else if lowered word = "nan".toList then some .nan
      else none := by
  simp only [ofWord?, signed, Bool.or_eq_true, decide_eq_true_eq]
  rfl

/-- The words for numbers are read, and nothing else is. -/
theorem ofWord?_eq_some_iff
    {text : List Char}
    {number : Binary64} :
    ofWord? text = some number ↔
      (∃ negative, IsInfinityWord text negative ∧ number = .infinity negative) ∨
        IsMissingWord text ∧ number = .nan := by
  constructor
  · intro read
    obtain ⟨sign, signed, divided⟩ := exists_readSign text
    rcases parts : readSign text with ⟨negative, word⟩
    rw [parts] at signed divided
    rw [ofWord?_of_parts parts] at read
    split at read
    · rename_i infinite
      cases read
      exact .inl ⟨negative, ⟨sign, word, divided, signed, infinite⟩, rfl⟩
    split at read
    · rename_i missing
      cases read
      exact .inr ⟨⟨sign, word, negative, divided, signed, missing⟩, rfl⟩
    · cases read
  · rintro (⟨negative, ⟨sign, word, rfl, signed, infinite⟩, rfl⟩ |
      ⟨⟨sign, word, negative, rfl, signed, missing⟩, rfl⟩)
    · have unsigned : IsUnsigned word := by
        rcases infinite with short | long
        · exact isUnsigned_of_lowered short (by decide)
        · exact isUnsigned_of_lowered long (by decide)
      rw [ofWord?_of_parts (readSign_append signed unsigned), if_pos infinite]
    · have unsigned : IsUnsigned word := isUnsigned_of_lowered missing (by decide)
      rw [ofWord?_of_parts (readSign_append signed unsigned), missing, if_neg (by decide),
        if_pos rfl]

end Binary64

end CallScript
