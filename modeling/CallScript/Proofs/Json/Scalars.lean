import CallScript.Json.Reader
import CallScript.Proofs.Text.Digits
import Mathlib.Data.List.DropRight

/-!
# How numbers and strings are spelled in JSON

The grammar of what a JSON text is made of, apart from arrays and objects: white space, numbers,
and strings with their escapes.  A number is its own spelling; a string stands for the
characters and the halves of surrogate pairs that it is spelled with.

For each part there are two statements about its reader.  One reads every spelling, whatever
stands behind it, provided that the text behind a number does not carry the number on; the other
says that only spellings are read.
-/

namespace CallScript.Json

open CallScript.Text

/-! ## White space -/

/-- The text is white space. -/
def IsBlank (text : List Char) : Prop :=
  ∀ character ∈ text, isSpace character = true

instance (text : List Char) : Decidable (IsBlank text) :=
  decidable_of_iff (text.all isSpace = true) List.all_eq_true

theorem isBlank_nil : IsBlank [] :=
  List.forall_mem_nil _

theorem dropSpace_append
    {space : List Char}
    (blank : IsBlank space)
    (text : List Char) :
    dropSpace (space ++ text) = dropSpace text := by
  rw [dropSpace, List.dropWhile_append_of_pos blank, dropSpace]

theorem dropSpace_cons
    {character : Char}
    (solid : isSpace character = false)
    (text : List Char) :
    dropSpace (character :: text) = character :: text := by
  rw [dropSpace, List.dropWhile_cons_of_neg (by simp [solid])]

theorem dropSpace_append_cons
    {space : List Char}
    (blank : IsBlank space)
    {character : Char}
    (solid : isSpace character = false)
    (text : List Char) :
    dropSpace (space ++ character :: text) = character :: text := by
  rw [dropSpace_append blank, dropSpace_cons solid]

theorem dropSpace_dropSpace
    (text : List Char) :
    dropSpace (dropSpace text) = dropSpace text :=
  List.dropWhile_idempotent isSpace text

/-- What is dropped from a text is white space. -/
theorem exists_dropSpace
    (text : List Char) :
    ∃ space, IsBlank space ∧ text = space ++ dropSpace text :=
  ⟨text.takeWhile isSpace, fun _ inside => List.mem_takeWhile_imp inside,
    List.takeWhile_append_dropWhile.symm⟩

/-! ## Numbers -/

/-- The text consists of decimal digits, and there is one. -/
structure IsDigits (text : List Char) : Prop where
  nonempty : text ≠ []
  digits : AreDigits text

theorem isDigits_iff
    {text : List Char} :
    IsDigits text ↔ text ≠ [] ∧ text.all Char.isDigit = true := by
  rw [List.all_eq_true]
  exact ⟨fun run => ⟨run.nonempty, run.digits⟩, fun both => ⟨both.1, both.2⟩⟩

instance (text : List Char) : Decidable (IsDigits text) :=
  decidable_of_iff' _ isDigits_iff

/-- The text spells a whole number; only zero begins with a zero. -/
structure IsWhole (text : List Char) : Prop extends IsDigits text where
  canonical : text.head? = some '0' → text.length = 1

/-- A minus sign that may be missing. -/
inductive IsMinus : List Char → Prop where
  | missing : IsMinus []
  | minus : IsMinus ['-']

/-- A point with digits, which may be missing. -/
inductive IsFraction : List Char → Prop where
  | missing : IsFraction []
  | point
      {digits : List Char}
      (run : IsDigits digits) :
      IsFraction ('.' :: digits)

/-- A mark with digits that may have a sign, which may be missing. -/
inductive IsExponent : List Char → Prop where
  | missing : IsExponent []
  | unsigned
      {mark : Char}
      {digits : List Char}
      (marks : mark = 'e' ∨ mark = 'E')
      (run : IsDigits digits) :
      IsExponent (mark :: digits)
  | signed
      {mark sign : Char}
      {digits : List Char}
      (marks : mark = 'e' ∨ mark = 'E')
      (signs : sign = '+' ∨ sign = '-')
      (run : IsDigits digits) :
      IsExponent (mark :: sign :: digits)

/-- The text spells a number. -/
inductive IsNumber : List Char → Prop where
  | intro
      {minus whole fraction exponent : List Char}
      (isMinus : IsMinus minus)
      (isWhole : IsWhole whole)
      (isFraction : IsFraction fraction)
      (isExponent : IsExponent exponent) :
      IsNumber (minus ++ whole ++ fraction ++ exponent)

/-- The character could carry a number on. -/
def goesOn (character : Char) : Bool :=
  character.isDigit || character == '.' || character == 'e' || character == 'E'

/-- No number goes on in the text. -/
def IsApart (text : List Char) : Prop :=
  ∀ character ∈ text.head?, goesOn character = false

theorem IsApart.isDigitless
    {text : List Char}
    (apart : IsApart text) :
    IsDigitless text := by
  intro character first
  have ends := apart character first
  simp only [goesOn, Bool.or_eq_false_iff] at ends
  exact ends.1.1.1

theorem isApart_nil : IsApart [] := by
  rintro character ⟨⟩

theorem isApart_cons
    {character : Char}
    (ends : goesOn character = false)
    (text : List Char) :
    IsApart (character :: text) := by
  rintro _ ⟨⟩
  exact ends

theorem isApart_blank_append
    {space rest : List Char}
    (blank : IsBlank space)
    (apart : IsApart rest) :
    IsApart (space ++ rest) := by
  cases space with
  | nil => exact apart
  | cons first space =>
      have isBlank := blank first List.mem_cons_self
      rintro character ⟨⟩
      simp only [isSpace, Bool.or_eq_true, beq_iff_eq] at isBlank
      rcases isBlank with ((rfl | rfl) | rfl) | rfl
      · rfl
      · rfl
      · rfl
      · rfl

theorem readDigits?_append
    {digits rest : List Char}
    (run : IsDigits digits)
    (digitless : IsDigitless rest) :
    readDigits? (digits ++ rest) = some (digits, rest) := by
  rw [readDigits?, takeWhile_digits_append run.digits digitless,
    dropWhile_digits_append run.digits digitless, if_neg (by simpa using run.nonempty)]

theorem readDigits?_eq_some
    {text digits rest : List Char}
    (read : readDigits? text = some (digits, rest)) :
    IsDigits digits ∧ text = digits ++ rest := by
  rw [readDigits?] at read
  split_ifs at read with empty
  cases read
  refine ⟨⟨by simpa using empty, fun _ inside => List.mem_takeWhile_imp inside⟩, ?_⟩
  exact List.takeWhile_append_dropWhile.symm

theorem readWhole?_append
    {whole rest : List Char}
    (isWhole : IsWhole whole)
    (digitless : IsDigitless rest) :
    readWhole? (whole ++ rest) = some (whole, rest) := by
  rw [readWhole?, readDigits?_append isWhole.toIsDigits digitless]
  simpa using isWhole.canonical

theorem readWhole?_eq_some
    {text whole rest : List Char}
    (read : readWhole? text = some (whole, rest)) :
    IsWhole whole ∧ text = whole ++ rest := by
  simp only [readWhole?, Option.bind_eq_bind, Option.bind_eq_some_iff, Prod.exists] at read
  obtain ⟨digits, behind, readDigits, last⟩ := read
  split_ifs at last with leads
  cases last
  obtain ⟨run, whole⟩ := readDigits?_eq_some readDigits
  exact ⟨⟨run, by simpa using leads⟩, whole⟩

theorem readFraction?_append
    {fraction rest : List Char}
    (isFraction : IsFraction fraction)
    (digitless : IsDigitless rest)
    (noPoint : '.' ∉ rest.head?) :
    readFraction? (fraction ++ rest) = some (fraction, rest) := by
  cases isFraction with
  | point run =>
      rw [List.cons_append, readFraction?, readDigits?_append run digitless]
      rfl
  | missing =>
      rw [List.nil_append, readFraction?]
      rintro behind rfl
      exact noPoint rfl

theorem readFraction?_eq_some
    {text fraction rest : List Char}
    (read : readFraction? text = some (fraction, rest)) :
    IsFraction fraction ∧ text = fraction ++ rest := by
  rw [readFraction?.eq_def] at read
  split at read
  · simp only [Option.bind_eq_bind, Option.bind_eq_some_iff, Prod.exists] at read
    obtain ⟨digits, behind, readDigits, last⟩ := read
    cases last
    obtain ⟨run, whole⟩ := readDigits?_eq_some readDigits
    exact ⟨.point run, congrArg _ whole⟩
  · cases read
    exact ⟨.missing, rfl⟩

theorem readExponent?_append
    {exponent rest : List Char}
    (isExponent : IsExponent exponent)
    (apart : IsApart rest) :
    readExponent? (exponent ++ rest) = some (exponent, rest) := by
  cases isExponent with
  | missing =>
      cases rest with
      | nil => rfl
      | cons character rest =>
          have ends := apart character rfl
          simp only [goesOn, Bool.or_eq_false_iff, beq_eq_false_iff_ne] at ends
          simp [readExponent?, ends]
  | @unsigned mark digits marks run =>
      cases digits with
      | nil => exact absurd rfl run.nonempty
      | cons first digits =>
          have noSign : ¬ (first = '+' ∨ first = '-') := by
            have digit := run.digits first List.mem_cons_self
            rintro (rfl | rfl)
            · exact absurd digit (by decide)
            · exact absurd digit (by decide)
          have read := readDigits?_append run apart.isDigitless
          rw [List.cons_append] at read
          simp [readExponent?, marks, noSign, read]
  | signed marks signs run =>
      simp [readExponent?, marks, signs, readDigits?_append run apart.isDigitless]

theorem readExponent?_eq_some
    {text exponent rest : List Char}
    (read : readExponent? text = some (exponent, rest)) :
    IsExponent exponent ∧ text = exponent ++ rest := by
  rw [readExponent?.eq_def] at read
  split at read
  · cases read
    exact ⟨.missing, rfl⟩
  · split_ifs at read with marks
    · split at read
      · cases read
      · split_ifs at read with signs
        · simp only [Option.bind_eq_bind, Option.bind_eq_some_iff, Prod.exists] at read
          obtain ⟨digits, behind, readDigits, last⟩ := read
          cases last
          obtain ⟨run, whole⟩ := readDigits?_eq_some readDigits
          exact ⟨.signed (by simpa using marks) (by simpa using signs) run, by rw [whole]; rfl⟩
        · simp only [Option.bind_eq_bind, Option.bind_eq_some_iff, Prod.exists] at read
          obtain ⟨digits, behind, readDigits, last⟩ := read
          cases last
          obtain ⟨run, whole⟩ := readDigits?_eq_some readDigits
          exact ⟨.unsigned (by simpa using marks) run, by rw [whole]; rfl⟩
    · cases read
      exact ⟨.missing, rfl⟩

/-- The parts of a number one behind the other, the sign apart. -/
theorem readUnsigned?_append
    {whole fraction exponent rest : List Char}
    (isWhole : IsWhole whole)
    (isFraction : IsFraction fraction)
    (isExponent : IsExponent exponent)
    (apart : IsApart rest)
    (sign : List Char) :
    readUnsigned? sign (whole ++ (fraction ++ (exponent ++ rest))) =
      some (.number (sign ++ whole ++ fraction ++ exponent), rest) := by
  -- An exponent begins with its mark, which is neither a digit nor a point.
  have behindFraction : IsDigitless (exponent ++ rest) ∧ '.' ∉ (exponent ++ rest).head? := by
    cases isExponent with
    | missing =>
        refine ⟨apart.isDigitless, fun point => ?_⟩
        exact absurd (apart '.' point) (by decide)
    | unsigned marks run | signed marks signs run =>
        rcases marks with rfl | rfl
        · exact ⟨by rintro character ⟨⟩; rfl, by rintro ⟨⟩⟩
        · exact ⟨by rintro character ⟨⟩; rfl, by rintro ⟨⟩⟩
  have behindWhole : IsDigitless (fraction ++ (exponent ++ rest)) := by
    cases isFraction with
    | missing => exact behindFraction.1
    | point run =>
        rintro character ⟨⟩
        rfl
  rw [readUnsigned?, readWhole?_append isWhole behindWhole]
  simp only [Option.bind_eq_bind, Option.bind_some,
    readFraction?_append isFraction behindFraction.1 behindFraction.2,
    readExponent?_append isExponent apart]
  rfl

/-- A number begins with a minus sign or with a digit. -/
theorem IsNumber.exists_first
    {spelling : List Char}
    (number : IsNumber spelling) :
    ∃ first more, spelling = first :: more ∧ (first = '-' ∨ first.isDigit = true) := by
  rcases number with ⟨isMinus, isWhole, -, -⟩
  cases isMinus with
  | minus => exact ⟨_, _, rfl, .inl rfl⟩
  | missing =>
      obtain ⟨first, more, rfl⟩ := List.exists_cons_of_ne_nil isWhole.nonempty
      exact ⟨first, _, rfl, .inr (isWhole.digits first List.mem_cons_self)⟩

theorem readNumber?_append
    {spelling rest : List Char}
    (number : IsNumber spelling)
    (apart : IsApart rest) :
    readNumber? (spelling ++ rest) = some (.number spelling, rest) := by
  rcases number with ⟨isMinus, isWhole, isFraction, isExponent⟩
  have read := readUnsigned?_append isWhole isFraction isExponent apart
  simp only [List.append_assoc] at read ⊢
  cases isMinus with
  | minus => exact read ['-']
  | missing =>
      rw [List.nil_append, readNumber?]
      · exact read []
      · -- A whole number begins with a digit, not with a sign.
        obtain ⟨first, more, rfl⟩ := List.exists_cons_of_ne_nil isWhole.nonempty
        rintro behind ⟨⟩
        exact absurd (isWhole.digits '-' List.mem_cons_self) (by decide)

theorem readUnsigned?_eq_some
    {sign text rest : List Char}
    {json : Json}
    (isMinus : IsMinus sign)
    (read : readUnsigned? sign text = some (json, rest)) :
    ∃ spelling, IsNumber spelling ∧ json = .number spelling ∧ sign ++ text = spelling ++ rest := by
  simp only [readUnsigned?, Option.bind_eq_bind, Option.bind_eq_some_iff, Prod.exists] at read
  obtain ⟨whole, afterWhole, readWhole, fraction, afterFraction, readFraction, exponent, behind,
    readExponent, last⟩ := read
  cases last
  obtain ⟨isWhole, rfl⟩ := readWhole?_eq_some readWhole
  obtain ⟨isFraction, rfl⟩ := readFraction?_eq_some readFraction
  obtain ⟨isExponent, rfl⟩ := readExponent?_eq_some readExponent
  exact ⟨_, .intro isMinus isWhole isFraction isExponent, rfl, by simp only [List.append_assoc]⟩

theorem readNumber?_eq_some
    {text rest : List Char}
    {json : Json}
    (read : readNumber? text = some (json, rest)) :
    ∃ spelling, IsNumber spelling ∧ json = .number spelling ∧ text = spelling ++ rest := by
  rw [readNumber?.eq_def] at read
  split at read
  · exact readUnsigned?_eq_some .minus read
  · exact readUnsigned?_eq_some .missing read

/-! ## Strings -/

/-- The text between the quotes of a string, with the parts that it stands for. -/
inductive SpellsParts : List Char → List StringPart → Prop where
  | nil : SpellsParts [] []
  | plain
      {character : Char}
      {text : List Char}
      {parts : List StringPart}
      (noQuote : character ≠ '"')
      (noBackslash : character ≠ '\\')
      (noControl : ¬character.toNat < 32)
      (behind : SpellsParts text parts) :
      SpellsParts (character :: text) (.character character :: parts)
  | escaped
      {letter character : Char}
      {text : List Char}
      {parts : List StringPart}
      (escapes : escaped? letter = some character)
      (behind : SpellsParts text parts) :
      SpellsParts ('\\' :: letter :: text) (.character character :: parts)
  | code
      {first second third fourth : Char}
      {code : Nat}
      {text : List Char}
      {parts : List StringPart}
      (digits : hexCode? first second third fourth = some code)
      (behind : SpellsParts text parts) :
      SpellsParts ('\\' :: 'u' :: first :: second :: third :: fourth :: text)
        (.ofCode code :: parts)

/-- The text spells a string with the content, which is missing when the parts make no text. -/
inductive SpellsString : List Char → Option String → Prop where
  | quoted
      {text : List Char}
      {parts : List StringPart}
      (spelled : SpellsParts text parts) :
      SpellsString ('"' :: (text ++ ['"'])) ((textOf? parts).map String.ofList)

theorem readParts?_escaped
    {letter character : Char}
    (escapes : escaped? letter = some character)
    (rest : List Char) :
    readParts? ('\\' :: letter :: rest) =
      (readParts? rest).map fun (parts, tail) => (.character character :: parts, tail) := by
  have noUnicode : letter ≠ 'u' := by
    rintro rfl
    cases escapes
  rw [readParts?, escapes]
  · cases readParts? rest <;> rfl
  · rintro first second third fourth behind ⟨⟩
    cases noUnicode rfl

theorem readParts?_code
    {first second third fourth : Char}
    {code : Nat}
    (digits : hexCode? first second third fourth = some code)
    (rest : List Char) :
    readParts? ('\\' :: 'u' :: first :: second :: third :: fourth :: rest) =
      (readParts? rest).map fun (parts, tail) => (.ofCode code :: parts, tail) := by
  rw [readParts?, digits]
  cases readParts? rest <;> rfl

theorem readParts?_plain
    {character : Char}
    (noQuote : character ≠ '"')
    (noBackslash : character ≠ '\\')
    (noControl : ¬character.toNat < 32)
    (rest : List Char) :
    readParts? (character :: rest) =
      (readParts? rest).map fun (parts, tail) => (.character character :: parts, tail) := by
  rw [readParts?]
  · simp only [noBackslash, noControl]
    cases readParts? rest <;> rfl
  · exact noQuote
  · intro first second third fourth behind same
    exact fun _ => noBackslash same
  · intro letter behind same
    exact fun _ => noBackslash same

/-- The text between quotes is read up to the closing quote, whatever stands behind it. -/
theorem readParts?_append
    {text : List Char}
    {parts : List StringPart}
    (spelled : SpellsParts text parts)
    (rest : List Char) :
    readParts? (text ++ '"' :: rest) = some (parts, rest) := by
  induction spelled with
  | nil => rw [List.nil_append, readParts?]
  | plain noQuote noBackslash noControl behind ih =>
      rw [List.cons_append, readParts?_plain noQuote noBackslash noControl, ih]
      rfl
  | escaped escapes behind ih =>
      rw [List.cons_append, List.cons_append, readParts?_escaped escapes, ih]
      rfl
  | code digits behind ih =>
      simp only [List.cons_append]
      rw [readParts?_code digits, ih]
      rfl

theorem readParts?_eq_some
    {text : List Char}
    {parts : List StringPart}
    {rest : List Char}
    (read : readParts? text = some (parts, rest)) :
    ∃ inside, SpellsParts inside parts ∧ text = inside ++ '"' :: rest := by
  fun_induction readParts? text generalizing parts with
  | case1 behind =>
      cases read
      exact ⟨[], .nil, rfl⟩
  | case2 first second third fourth behind ih =>
      simp only [Option.bind_eq_bind, Option.bind_eq_some_iff, Prod.exists] at read
      obtain ⟨code, digits, parts, tail, readParts, last⟩ := read
      cases last
      obtain ⟨inside, spelled, rfl⟩ := ih readParts
      exact ⟨_, .code digits spelled, rfl⟩
  | case3 letter behind noUnicode ih =>
      simp only [Option.bind_eq_bind, Option.bind_eq_some_iff, Prod.exists] at read
      obtain ⟨character, escapes, parts, tail, readParts, last⟩ := read
      cases last
      obtain ⟨inside, spelled, rfl⟩ := ih readParts
      exact ⟨_, .escaped escapes spelled, rfl⟩
  | case4 => cases read
  | case5 character behind noQuote noCode noEscape plain ih =>
      simp only [Bool.or_eq_true, decide_eq_true_eq, not_or] at plain
      simp only [Option.bind_eq_bind, Option.bind_eq_some_iff, Prod.exists] at read
      obtain ⟨parts, tail, readParts, last⟩ := read
      cases last
      obtain ⟨inside, spelled, rfl⟩ := ih readParts
      exact ⟨_, .plain noQuote plain.1 plain.2 spelled, rfl⟩
  | case6 => cases read

theorem readString?_append
    {text : List Char}
    {parts : List StringPart}
    (spelled : SpellsParts text parts)
    (rest : List Char) :
    readString? (text ++ '"' :: rest) = some ((textOf? parts).map String.ofList, rest) := by
  rw [readString?, readParts?_append spelled]
  rfl

theorem readString?_eq_some
    {text rest : List Char}
    {content : Option String}
    (read : readString? text = some (content, rest)) :
    ∃ spelling, SpellsString spelling content ∧ '"' :: text = spelling ++ rest := by
  rw [readString?, Option.map_eq_some_iff] at read
  obtain ⟨⟨parts, behind⟩, readParts, last⟩ := read
  cases last
  obtain ⟨inside, spelled, rfl⟩ := readParts?_eq_some readParts
  exact ⟨_, .quoted spelled, by simp⟩

end CallScript.Json
