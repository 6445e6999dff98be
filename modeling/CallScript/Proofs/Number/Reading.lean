import CallScript.Proofs.Number.Numeral
import CallScript.Proofs.Number.Rounding
import Mathlib.Tactic.Ring

/-!
# Reading numerals

A numeral is read as the number nearest to the ratio that it denotes, with the sign of the
numeral.  Exponents that are far out of range are not worked out; the digits of the numeral
bound what they can change, so this makes no difference.  The main statement is
`Decimal.toBinary64_isNearest`.
-/

namespace CallScript

open CallScript.Text

/-! ## The value of digits -/

theorem foldl_digits
    (start : Nat)
    (digits : List Char) :
    digits.foldl (fun value digit => 10 * value + (digit.toNat - 48)) start =
      start * 10 ^ digits.length + digitsValue digits := by
  induction digits generalizing start with
  | nil => simp [digitsValue]
  | cons digit digits ih =>
      rw [digitsValue, List.foldl_cons, List.foldl_cons, ih, ih (10 * 0 + _), List.length_cons,
        Nat.pow_succ]
      ring

theorem digitsValue_append
    (front back : List Char) :
    digitsValue (front ++ back) = digitsValue front * 10 ^ back.length + digitsValue back := by
  rw [digitsValue, List.foldl_append, foldl_digits]
  rfl

theorem digitsValue_cons
    (digit : Char)
    (digits : List Char) :
    digitsValue (digit :: digits) =
      (digit.toNat - 48) * 10 ^ digits.length + digitsValue digits := by
  rw [digitsValue, List.foldl_cons, foldl_digits, Nat.mul_zero, Nat.zero_add]

theorem toNat_of_isDigit
    {character : Char}
    (digit : character.isDigit = true) :
    48 ≤ character.toNat ∧ character.toNat ≤ 57 := by
  simp only [Char.isDigit, Bool.and_eq_true, decide_eq_true_eq] at digit
  exact digit

theorem digitsValue_lt
    {digits : List Char}
    (areDigits : AreDigits digits) :
    digitsValue digits < 10 ^ digits.length := by
  induction digits with
  | nil => simp [digitsValue]
  | cons digit digits ih =>
      obtain ⟨first, others⟩ := List.forall_mem_cons.1 areDigits
      have bounds := toNat_of_isDigit first
      have later := ih others
      have leading : (digit.toNat - 48) * 10 ^ digits.length ≤ 9 * 10 ^ digits.length :=
        Nat.mul_le_mul_right _ (by omega)
      rw [digitsValue_cons, List.length_cons, Nat.pow_succ]
      omega

/-! ## The nearest number -/

namespace Decimal

variable
    (decimal : Decimal)

/-- The numerator of the ratio that the number stands for. -/
def numerator : Nat :=
  digitsValue decimal.digits * 10 ^ (decimal.exponent - decimal.fraction.length).toNat

/-- The denominator of the ratio that the number stands for. -/
def denominator : Nat :=
  10 ^ (decimal.fraction.length - decimal.exponent).toNat

theorem denominator_pos :
    0 < decimal.denominator :=
  Nat.pow_pos (by decide)

theorem denominator_of_le
    (whole : (decimal.fraction.length : Int) ≤ decimal.exponent) :
    decimal.denominator = 1 := by
  rw [denominator, Int.toNat_of_nonpos (Int.sub_nonpos_of_le whole), Nat.pow_zero]

theorem numerator_of_le
    (scaledDown : decimal.exponent ≤ decimal.fraction.length) :
    decimal.numerator = digitsValue decimal.digits := by
  rw [numerator, Int.toNat_of_nonpos (Int.sub_nonpos_of_le scaledDown), Nat.pow_zero, Nat.mul_one]

/-- What is read is the ratio, unless the exponent alone decides. -/
theorem toBinary64_eq :
    decimal.toBinary64 =
      if digitsValue decimal.digits = 0 then .zero decimal.negative
      else if decimal.exponentBound < decimal.exponent then .infinity decimal.negative
      else if decimal.exponent < -decimal.exponentBound then .zero decimal.negative
      else .ofRatio decimal.negative decimal.numerator decimal.denominator := by
  have up
      (scaledUp : 0 ≤ decimal.exponent - decimal.fraction.length) :
      Binary64.ofRatio decimal.negative
          (digitsValue decimal.digits *
            Nat.pow 10 (decimal.exponent - decimal.fraction.length).toNat) 1 =
        .ofRatio decimal.negative decimal.numerator decimal.denominator := by
    rw [decimal.denominator_of_le (Int.le_of_sub_nonneg scaledUp)]
    rfl
  have down
      (scaledDown : ¬ 0 ≤ decimal.exponent - decimal.fraction.length) :
      Binary64.ofRatio decimal.negative (digitsValue decimal.digits)
          (Nat.pow 10 (-(decimal.exponent - decimal.fraction.length)).toNat) =
        .ofRatio decimal.negative decimal.numerator decimal.denominator := by
    rw [decimal.numerator_of_le (by omega), Int.neg_sub]
    rfl
  simp only [toBinary64]
  split_ifs with zero large small scaledUp
  · rfl
  · rfl
  · rfl
  · exact up scaledUp
  · exact down scaledUp

theorem isNearest_zero
    (negative : Bool)
    {numerator denominator : Nat}
    (small : 2 * numerator < denominator) :
    (Binary64.zero negative).IsNearest numerator denominator := by
  apply Binary64.isNearest_of_units_eq_zero
  · exact Binary64.isNaN_ofMagnitude _ _
  · exact Binary64.units_zero _
  · exact small

/-- A ratio of at least `10 ^ 400` lies above infinity. -/
theorem isNearest_infinity
    (negative : Bool)
    {numerator denominator : Nat}
    (positive : 0 < denominator)
    (large : 10 ^ 400 * denominator ≤ numerator) :
    (Binary64.infinity negative).IsNearest (numerator * Binary64.unitsInOne) denominator := by
  have infinite :
      (Binary64.infinity negative).magnitude = Binary64.infiniteMagnitude := by
    rw [Binary64.infinity, Binary64.magnitude_ofMagnitude, Nat.min_self]
  obtain ⟨widest, units⟩ := Binary64.units_of_infiniteMagnitude infinite
  have reached : Binary64.fractions * 2 ^ 2046 ≤ 10 ^ 400 * Binary64.unitsInOne := by
    decide +kernel
  apply Binary64.isNearest_of_infiniteMagnitude infinite positive
  calc
    (Binary64.infinity negative).units * denominator =
        Binary64.fractions * 2 ^ 2046 * denominator := by
      rw [units, widest]
    _ ≤ 10 ^ 400 * Binary64.unitsInOne * denominator := Nat.mul_le_mul_right _ reached
    _ = 10 ^ 400 * denominator * Binary64.unitsInOne := Nat.mul_right_comm _ _ _
    _ ≤ numerator * Binary64.unitsInOne := Nat.mul_le_mul_right _ large

theorem length_fraction_le :
    decimal.fraction.length ≤ decimal.digits.length := by
  rw [digits, List.length_append]
  exact Nat.le_add_left _ _

theorem large_of_exponentBound_lt
    (nonzero : digitsValue decimal.digits ≠ 0)
    (large : decimal.exponentBound < decimal.exponent) :
    10 ^ 400 * decimal.denominator ≤ decimal.numerator := by
  have digits := decimal.length_fraction_le
  rw [exponentBound] at large
  rw [decimal.denominator_of_le (by omega), Nat.mul_one, numerator]
  calc
    10 ^ 400 ≤ 10 ^ (decimal.exponent - decimal.fraction.length).toNat := by
      apply Nat.pow_le_pow_right
      · decide
      · omega
    _ ≤ digitsValue decimal.digits * 10 ^ (decimal.exponent - decimal.fraction.length).toNat := by
      exact Nat.le_mul_of_pos_left _ (Nat.pos_of_ne_zero nonzero)

theorem small_of_lt_exponentBound
    (areDigits : AreDigits decimal.digits)
    (small : decimal.exponent < -decimal.exponentBound) :
    2 * (decimal.numerator * Binary64.unitsInOne) < decimal.denominator := by
  have short : 2 * Binary64.unitsInOne < 10 ^ 400 := by
    decide +kernel
  rw [exponentBound] at small
  rw [decimal.numerator_of_le (by omega), denominator]
  calc
    2 * (digitsValue decimal.digits * Binary64.unitsInOne) =
        digitsValue decimal.digits * (2 * Binary64.unitsInOne) := Nat.mul_left_comm _ _ _
    _ ≤ 10 ^ decimal.digits.length * (2 * Binary64.unitsInOne) := by
      exact Nat.mul_le_mul_right _ (Nat.le_of_lt (digitsValue_lt areDigits))
    _ < 10 ^ decimal.digits.length * 10 ^ 400 := by
      apply Nat.mul_lt_mul_of_pos_left short
      apply Nat.pow_pos
      decide
    _ = 10 ^ (decimal.digits.length + 400) := by
      rw [Nat.pow_add]
    _ ≤ 10 ^ (decimal.fraction.length - decimal.exponent).toNat := by
      apply Nat.pow_le_pow_right
      · decide
      · omega

/-- A number is nearest to the ratio that the decimal number stands for, and has its sign. -/
def IsNearest (number : Binary64) : Prop :=
  number.negative = decimal.negative ∧
    number.IsNearest (decimal.numerator * Binary64.unitsInOne) decimal.denominator

/-- A numeral is read as the nearest number. -/
theorem toBinary64_isNearest
    (areDigits : AreDigits decimal.digits) :
    decimal.IsNearest decimal.toBinary64 := by
  rw [toBinary64_eq]
  split_ifs with zero large small
  · refine ⟨rfl, isNearest_zero _ ?_⟩
    rw [numerator, zero, Nat.zero_mul, Nat.zero_mul]
    exact decimal.denominator_pos
  · refine ⟨rfl, isNearest_infinity _ decimal.denominator_pos ?_⟩
    exact decimal.large_of_exponentBound_lt zero large
  · refine ⟨rfl, isNearest_zero _ ?_⟩
    exact decimal.small_of_lt_exponentBound areDigits small
  · exact ⟨rfl, Binary64.ofRatio_isNearest _ _ decimal.denominator_pos⟩

end Decimal

end CallScript
