import Mathlib.Data.List.TakeWhile

/-!
# Runs of digits

A run of decimal digits ends where a text begins that has no digit in front.
The two parts of such a text are what a reader of digits takes and leaves.
-/

namespace CallScript.Text

/-- The text consists of digits. -/
def AreDigits (text : List Char) : Prop :=
  ∀ character ∈ text, character.isDigit = true

theorem areDigits_iff
    {text : List Char} :
    AreDigits text ↔ text.all Char.isDigit = true :=
  List.all_eq_true.symm

theorem areDigits_append
    {front back : List Char} :
    AreDigits (front ++ back) ↔ AreDigits front ∧ AreDigits back :=
  List.forall_mem_append

theorem areDigits_takeWhile
    (text : List Char) :
    AreDigits (text.takeWhile Char.isDigit) :=
  List.all_eq_true.1 List.all_takeWhile

/-- The text does not start with a digit. -/
def IsDigitless (text : List Char) : Prop :=
  ∀ character ∈ text.head?, character.isDigit = false

section Run

variable
    {digits rest : List Char}
    (areDigits : AreDigits digits)
    (digitless : IsDigitless rest)

include areDigits digitless

theorem takeWhile_digits_append :
    (digits ++ rest).takeWhile Char.isDigit = digits := by
  rw [List.takeWhile_append_of_pos areDigits]
  cases rest with
  | nil => simp
  | cons character rest => simp [digitless character rfl]

theorem dropWhile_digits_append :
    (digits ++ rest).dropWhile Char.isDigit = rest := by
  rw [List.dropWhile_append_of_pos areDigits]
  cases rest with
  | nil => rfl
  | cons character rest => simp [digitless character rfl]

end Run

end CallScript.Text
