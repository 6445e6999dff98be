import CallScript.Proofs.Session.Comparisons
import CallScript.Proofs.Value.Literal

/-!
# Texts among numbers

A text that is compared with a value of another type stands for a number.  The reader that
finds this number accepts more than a literal does: blank texts, which stand for zero, and the
words for the infinities.  It also accepts the word for a missing value, but nothing can be
compared with that.  Apart from these texts, which the grammar of words describes exactly, a
text stands for the number that it is as a literal.  The main statement is
`Value.compare?_text`.
-/

namespace CallScript

open CallScript.Text

namespace Value

/-- Two values are ordered alike with respect to a third one, on either side of it. -/
structure AreOrderedAlike (left right other : Value) : Prop where
  /-- In front of the third value. -/
  front : left.compare? other = right.compare? other
  /-- Behind the third value. -/
  behind : other.compare? left = other.compare? right

section Mixed

variable
    {other : Value}
    (notText : isText (some other) = false)

include notText

/-- A value is ordered by its rank with respect to a value that is no text. -/
theorem compare?_eq_compareKeys
    (value : Value) :
    value.compare? other = compareKeys (rank? (some value)) (rank? (some other)) ∧
      other.compare? value = compareKeys (rank? (some other)) (rank? (some value)) := by
  constructor
  · show order? (some value) (some other) = _
    apply order?_of_mixed
    rw [notText, Bool.and_false]
  · show order? (some other) (some value) = _
    apply order?_of_mixed
    rw [notText, Bool.false_and]

theorem areOrderedAlike_of_number?
    {value : Value}
    {number : Binary64}
    (standsFor : value.number? = some number) :
    AreOrderedAlike value (.number number) other := by
  have sameRank : rank? (some value) = rank? (some (.number number)) := by
    rw [rank?, rank?, Option.bind_some, Option.bind_some, standsFor]
    rfl
  constructor
  · rw [(compare?_eq_compareKeys notText value).1, sameRank,
      ← (compare?_eq_compareKeys notText (.number number)).1]
  · rw [(compare?_eq_compareKeys notText value).2, sameRank,
      ← (compare?_eq_compareKeys notText (.number number)).2]

/-- A value that stands for no number, or for a missing one, has no order. -/
theorem compare?_eq_none_of_number?
    {value : Value}
    (unranked : ∀ number, value.number? = some number → number.isNaN = true) :
    value.compare? other = none ∧ other.compare? value = none := by
  have noRank : rank? (some value) = none := by
    rw [rank?, Option.bind_some]
    cases standsFor : value.number? with
    | none => rfl
    | some number => rw [Option.bind_some, Binary64.key?, if_pos (unranked number standsFor)]
  rw [(compare?_eq_compareKeys notText value).1, (compare?_eq_compareKeys notText value).2, noRank]
  exact ⟨compareKeys_none_left _, compareKeys_none_right _⟩

end Mixed

/-! ## The number of a text -/

theorem trim_eq_nil_of_allBlank
    {text : List Char}
    (blank : allBlank text = true) :
    trim text = [] := by
  rw [trim, trimStart, List.dropWhile_eq_nil_iff.2 (List.all_eq_true.1 blank)]
  rfl

theorem allBlank_of_trim_eq_nil
    {text : List Char}
    (nothing : trim text = []) :
    allBlank text = true := by
  obtain ⟨front, behind, frontBlank, behindBlank, whole⟩ := exists_trim text
  rw [whole, nothing, allBlank, List.all_eq_true, List.nil_append, List.forall_mem_append]
  exact ⟨frontBlank, behindBlank⟩

theorem textNumber?_of_allBlank
    {text : List Char}
    (blank : allBlank text = true) :
    textNumber? text = some (.zero false) := by
  rw [textNumber?, trim_eq_nil_of_allBlank blank]
  rfl

theorem textNumber?_of_ofText?
    {text : List Char}
    (nonempty : trim text ≠ []) :
    textNumber? text = Binary64.ofText? (trim text) := by
  rw [textNumber?, if_neg (mt List.isEmpty_iff.1 nonempty)]

/-- No text is a numeral as well as a word. -/
theorem ofText?_of_ofWord?
    {text : List Char}
    {number : Binary64}
    (word : Binary64.ofWord? text = some number) :
    Binary64.ofText? text = some number := by
  obtain ⟨character, member, other⟩ := exists_of_ofWord? word
  have unread : Decimal.read? text = none := by
    rw [Option.eq_none_iff_forall_ne_some]
    intro decimal read
    have letters := isNumeralChar_of_isNumeral (Decimal.read?_eq_some_iff.1 read)
    rw [letters character member] at other
    cases other
  rw [Binary64.ofText?, Binary64.ofDecimal?, unread]
  exact word

theorem textNumber?_of_isInfinityWord
    {text : List Char}
    {negative : Bool}
    (word : Binary64.IsInfinityWord (trim text) negative) :
    textNumber? text = some (.infinity negative) := by
  have read := Binary64.ofWord?_eq_some_iff.2 (.inl ⟨negative, word, rfl⟩)
  have nonempty : trim text ≠ [] := by
    intro nothing
    rw [nothing] at read
    cases read
  rw [textNumber?_of_ofText? nonempty, ofText?_of_ofWord? read]

theorem textNumber?_of_ofLiteral
    {content : String}
    {number : Binary64}
    (typed : ofLiteral content = .number number) :
    textNumber? content.toList = some number := by
  obtain ⟨decimal, numeral, rfl⟩ := ofLiteral_eq_number_iff.1 typed
  rw [textNumber?_of_ofText? (ne_nil_of_isNumeral numeral), ofText?_of_isNumeral numeral]

/-- Where a text stands for a number after all, it is blank, a numeral, or a word. -/
theorem textNumber?_cases
    {content : String}
    {number : Binary64}
    (standsFor : textNumber? content.toList = some number) :
    allBlank content.toList = true ∨
      ofLiteral content = .number number ∨
      (∃ negative, Binary64.IsInfinityWord (trim content.toList) negative) ∨
      number = .nan := by
  by_cases nothing : trim content.toList = []
  · exact .inl (allBlank_of_trim_eq_nil nothing)
  · right
    rw [textNumber?_of_ofText? nothing, Binary64.ofText?.eq_def] at standsFor
    cases decimal : Binary64.ofDecimal? (trim content.toList) with
    | some read =>
        rw [decimal] at standsFor
        cases standsFor
        obtain ⟨decimal, isRead, rfl⟩ := Option.map_eq_some_iff.1 decimal
        exact .inl (ofLiteral_of_isNumeral (Decimal.read?_eq_some_iff.1 isRead))
    | none =>
        rw [decimal] at standsFor
        rcases Binary64.ofWord?_eq_some_iff.1 standsFor with ⟨negative, word, -⟩ | ⟨-, missing⟩
        · exact .inr (.inl ⟨negative, word⟩)
        · exact .inr (.inr missing)

/--
How a text is ordered with respect to a value that is no text: like zero when it is blank, like
the number that it is as a literal, like an infinity when it is a word for it, and not at all in
every other case.
-/
theorem compare?_text
    (content : String)
    {other : Value}
    (notText : isText (some other) = false) :
    (allBlank content.toList = true →
        AreOrderedAlike (.text content) (.number (.zero false)) other) ∧
      (∀ number,
        ofLiteral content = .number number →
          AreOrderedAlike (.text content) (.number number) other) ∧
      (∀ negative,
        Binary64.IsInfinityWord (trim content.toList) negative →
          AreOrderedAlike (.text content) (.number (.infinity negative)) other) ∧
      (allBlank content.toList = false →
        (∀ number, ofLiteral content ≠ .number number) →
          (∀ negative, ¬ Binary64.IsInfinityWord (trim content.toList) negative) →
            (Value.text content).compare? other = none ∧
              other.compare? (.text content) = none) := by
  refine ⟨fun blank => ?_, fun number typed => ?_, fun negative word => ?_, ?_⟩
  · exact areOrderedAlike_of_number? notText (textNumber?_of_allBlank blank)
  · exact areOrderedAlike_of_number? notText (textNumber?_of_ofLiteral typed)
  · exact areOrderedAlike_of_number? notText (textNumber?_of_isInfinityWord word)
  · intro notBlank notTyped notWord
    apply compare?_eq_none_of_number? notText
    intro number standsFor
    rcases textNumber?_cases standsFor with blank | typed | ⟨negative, word⟩ | rfl
    · rw [blank] at notBlank
      cases notBlank
    · exact absurd typed (notTyped number)
    · exact absurd word (notWord negative)
    · decide +kernel

/--
A blank text is as large as falsehood, and a numeral as its number.  A word may be larger than
every finite number, and the word for a missing value is not ordered at all.
-/
theorem compare?_text_words :
    (Value.text " \t").compare? (.bool false) = some .eq ∧
      (Value.bool true).compare? (.text " +.25e1\n") = some .lt ∧
      (Value.number (.ofRatio true 7 2)).compare? (.text "-InFinity") = some .gt ∧
      (Value.text "+nan").compare? (.number (.zero false)) = none := by
  obtain ⟨blank, -, -, -⟩ := @compare?_text " \t" (.bool false) rfl
  obtain ⟨-, typed, -, -⟩ := @compare?_text " +.25e1\n" (.bool true) rfl
  obtain ⟨-, -, word, -⟩ := @compare?_text "-InFinity" (.number (.ofRatio true 7 2)) rfl
  obtain ⟨-, -, -, neither⟩ := @compare?_text "+nan" (.number (.zero false)) rfl
  have isNumber : ofLiteral " +.25e1\n" = .number (.ofRatio false 5 2) := by decide +kernel
  have isWord : Binary64.IsInfinityWord (trim "-InFinity".toList) true :=
    ⟨['-'], "InFinity".toList, by decide +kernel, .minus, .inr (by decide +kernel)⟩
  have isPlain : ofLiteral "+nan" = .text "+nan" := by decide +kernel
  have noInfinity :
      ∀ negative, Binary64.ofWord? (trim "+nan".toList) ≠ some (.infinity negative) := by
    decide +kernel
  refine ⟨?_, ?_, ?_, ?_⟩
  · rw [(blank (by decide +kernel)).front]
    decide +kernel
  · rw [(typed _ isNumber).behind]
    decide +kernel
  · rw [(word _ isWord).behind]
    decide +kernel
  · refine (neither (by decide +kernel) ?_ ?_).1
    · intro number isTyped
      rw [isPlain] at isTyped
      cases isTyped
    · intro negative isWord
      exact noInfinity negative (Binary64.ofWord?_eq_some_iff.2 (.inl ⟨negative, isWord, rfl⟩))

end Value

end CallScript
