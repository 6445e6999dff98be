import CallScript.Proofs.Number.ReadBack
import CallScript.Proofs.Session.Effects
import CallScript.Proofs.Value.Literal

/-!
# Numbers as names

A value that is used as the name of a variable is turned into its text.  The text of a finite
number is a literal for the same number, except that zero loses its sign; two finite numbers
therefore have the same text just when they are equal, and no such text is a reserved word.
What is written under the name of a number is found under the names of the numbers that are
equal to it, and nothing is found differently under the name of any other.  The main statement
is `Session.numbers_as_names`.
-/

namespace CallScript

open CallScript.Text

/-! ## The literal of a number -/

namespace Value

theorem toList_display_number
    (number : Binary64) :
    (display (.number number)).toList = number.text :=
  String.toList_ofList

section Text

variable
    {number : Binary64}
    (finite : number.isFinite = true)

include finite

/-- The text of a finite number is a numeral. -/
theorem exists_isNumeral_text :
    ∃ decimal, IsNumeral number.text decimal ∧ decimal.toBinary64 = number.normalized := by
  have read := Binary64.ofDecimal?_text finite
  rw [Binary64.ofDecimal?, Option.map_eq_some_iff] at read
  obtain ⟨decimal, readDecimal, denotes⟩ := read
  exact ⟨decimal, Decimal.read?_eq_some_iff.1 readDecimal, denotes⟩

/-- The text of a finite number is a literal for the number, without the sign of zero. -/
theorem ofLiteral_display_number :
    ofLiteral (display (.number number)) = .number number.normalized := by
  obtain ⟨decimal, numeral, denotes⟩ := exists_isNumeral_text finite
  have visible : ∀ character ∈ number.text, isBlank character = false := fun character member =>
    isBlank_of_isNumeralChar (isNumeralChar_of_isNumeral numeral character member)
  rw [← denotes]
  apply ofLiteral_of_isNumeral
  rw [toList_display_number, trim_eq_self visible]
  exact numeral

/-- The text of a finite number may be bound under any policy. -/
theorem isAdmitted_display_number
    (admission : Admission) :
    admission.IsAdmitted (display (.number number)) := by
  obtain ⟨decimal, numeral, -⟩ := exists_isNumeral_text finite
  have words : ∀ word ∈ reservedWords, word.toList.all isNumeralChar = false := by
    decide +kernel
  right
  intro reserved
  have mixed := words _ reserved
  rw [toList_display_number, ← Bool.not_eq_true, List.all_eq_true] at mixed
  exact mixed (isNumeralChar_of_isNumeral numeral)

end Text

theorem display_number_eq_iff
    {left right : Binary64}
    (leftFinite : left.isFinite = true)
    (rightFinite : right.isFinite = true) :
    display (.number left) = display (.number right) ↔
      (Value.number left).equals (.number right) = true := by
  rw [← String.toList_inj, toList_display_number, toList_display_number]
  exact Binary64.text_eq_iff leftFinite rightFinite

end Value

/-! ## Variables named by numbers -/

namespace Session

variable
    {State : Type}
    (evaluator : Evaluator State)
    (session : Session State)

/--
The text of a finite number is a literal for a number that is equal to it, and zero is written
without a sign.  Two finite numbers have the same text just when they are equal.  As names of
variables they stand for the same one just when they are equal: what is written under the one
is then read under the other, and otherwise the other is read as before.
-/
theorem numbers_as_names
    {left right : Binary64}
    (leftFinite : left.isFinite = true)
    (rightFinite : right.isFinite = true)
    (value : Value) :
    let equal := (Value.number left).equals (.number right)
    let written := (call evaluator session .set [some (.number left), some value]).1
    Value.ofLiteral (Value.number left).display = .number left.normalized ∧
      (Value.number left).equals (.number left.normalized) = true ∧
      (left.isZero = true → (Value.number left).display = "0") ∧
      ((Value.number left).display = (Value.number right).display ↔ equal = true) ∧
      (call evaluator written .get [some (.number right)]).2 =
        if equal = true then .ok (.value value)
        else (call evaluator session .get [some (.number right)]).2 := by
  intro equal written
  have sameText := Value.display_number_eq_iff leftFinite rightFinite
  refine ⟨?_, ?_, ?_, sameText, ?_⟩
  · exact Value.ofLiteral_display_number leftFinite
  · exact Binary64.equals_normalized leftFinite
  · intro zero
    rw [← String.toList_inj, Value.toList_display_number, Binary64.text_of_isZero zero]
    rfl
  · have admitted := Value.isAdmitted_display_number leftFinite session.environment.admission
    have read := result_get_behind_set evaluator session (.number right) value [] admitted
    exact read.trans (if_congr sameText rfl rfl)

/-- Both zeros name one variable, and a tenth names another. -/
theorem numbers_as_names_zeros :
    let tenth := Binary64.ofRatio false 1 10
    let session := Session.start .rejectReserved [] none ()
    let written := (call .idle session .set [some (.number (.zero true)), some (.bool true)]).1
    (Binary64.zero true).isFinite = true ∧
      (Binary64.zero false).isFinite = true ∧
      tenth.isFinite = true ∧
      Value.ofLiteral (Value.number tenth).display = .number tenth ∧
      (Value.number (.zero true)).display = "0" ∧
      (call .idle written .get [some (.number (.zero false))]).2 = .ok (.value (.bool true)) ∧
      (call .idle written .get [some (.number tenth)]).2 = .ok .absent := by
  intro tenth session written
  have negativeFinite : (Binary64.zero true).isFinite = true := by decide +kernel
  have positiveFinite : (Binary64.zero false).isFinite = true := by decide +kernel
  have tenthFinite : tenth.isFinite = true := by decide +kernel
  obtain ⟨literal, -⟩ := numbers_as_names .idle session tenthFinite tenthFinite (.bool true)
  obtain ⟨-, -, shown, -, zeros⟩ :=
    numbers_as_names .idle session negativeFinite positiveFinite (.bool true)
  obtain ⟨-, -, -, -, others⟩ :=
    numbers_as_names .idle session negativeFinite tenthFinite (.bool true)
  refine ⟨negativeFinite, positiveFinite, tenthFinite, ?_, ?_, ?_, ?_⟩
  · rw [literal]
    decide +kernel
  · exact shown (by decide +kernel)
  · rw [zeros, if_pos (by decide +kernel)]
  · rw [others, if_neg (by decide +kernel)]
    rfl

end Session

end CallScript
