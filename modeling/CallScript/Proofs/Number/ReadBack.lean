import CallScript.Number.Shortest
import CallScript.Proofs.Number.Reading

/-!
# The text of a number reads back

The text of a finite number is a numeral, and the number nearest to it is the number itself.
The sign of zero is the only thing that the text leaves out.

The digits of a natural number and the positional notation of a fraction are numerals of
exactly the ratio that they were made from.  A short notation is only used when it has been
seen to read back.  The main statement is `Binary64.ofDecimal?_text`.
-/

namespace CallScript

open CallScript.Text

/-! ## Digits -/

theorem digit_facts :
    ∀ digit < 10,
      (Char.ofNat (48 + digit)).isDigit = true ∧
        digitsValue [Char.ofNat (48 + digit)] = digit := by
  decide

theorem digitsValue_replicate_zero
    (count : Nat) :
    digitsValue (List.replicate count '0') = 0 := by
  induction count with
  | zero => rfl
  | succ count ih =>
      rw [List.replicate_succ, digitsValue_cons, ih, Nat.add_zero]
      exact Nat.zero_mul _

theorem areDigits_replicate_zero
    (count : Nat) :
    AreDigits (List.replicate count '0') := by
  intro character member
  rw [List.eq_of_mem_replicate member]
  decide

/-- The digits of a natural number denote it. -/
theorem naturalDigits_denotes
    (value : Nat) :
    AreDigits (naturalDigits value) ∧
      naturalDigits value ≠ [] ∧
      digitsValue (naturalDigits value) = value := by
  induction value using Nat.strong_induction_on with
  | _ value ih =>
      rw [naturalDigits]
      split
      · rename_i single
        obtain ⟨digit, denotes⟩ := digit_facts value single
        exact ⟨by simpa [AreDigits] using digit, List.cons_ne_nil _ _, denotes⟩
      · rename_i several
        obtain ⟨areDigits, -, denotes⟩ := ih (value / 10) (by omega)
        obtain ⟨digit, lastDenotes⟩ := digit_facts (value % 10) (Nat.mod_lt _ (by decide))
        refine ⟨areDigits_append.2 ⟨areDigits, by simpa [AreDigits] using digit⟩, by simp, ?_⟩
        rw [digitsValue_append, denotes, lastDenotes, List.length_singleton, Nat.pow_one]
        omega

theorem length_naturalDigits_le
    {value places : Nat}
    (small : value < 10 ^ (places + 1)) :
    (naturalDigits value).length ≤ places + 1 := by
  induction places generalizing value with
  | zero =>
      rw [naturalDigits, if_pos (by omega), List.length_singleton]
  | succ places ih =>
      rw [naturalDigits]
      split
      · exact Nat.le_add_left _ _
      · have fewer : (naturalDigits (value / 10)).length ≤ places + 1 := by
          apply ih
          apply Nat.div_lt_of_lt_mul
          rwa [← Nat.pow_succ']
        rw [List.length_append, List.length_singleton]
        exact Nat.succ_le_succ fewer

/-! ## Notations -/

namespace Binary64

theorem exists_dropEndZeros
    (text : List Char) :
    ∃ zeros, text = dropEndZeros text ++ List.replicate zeros '0' := by
  refine ⟨(text.reverse.takeWhile (· == '0')).length, ?_⟩
  have run :
      (text.reverse.takeWhile (· == '0')).reverse =
        List.replicate (text.reverse.takeWhile (· == '0')).length '0' := by
    rw [List.reverse_eq_iff, List.reverse_replicate, List.eq_replicate_iff]
    refine ⟨rfl, fun character member => ?_⟩
    simpa using List.all_eq_true.1 List.all_takeWhile character member
  rw [← run, dropEndZeros, ← List.reverse_append, List.takeWhile_append_dropWhile,
    List.reverse_reverse]

/-- Digits with a point, behind a sign, are a numeral without an exponent. -/
theorem isNumeral_withSign
    (negative : Bool)
    {whole fraction : List Char}
    (areDigits : AreDigits (whole ++ fraction))
    (nonempty : whole ≠ []) :
    IsNumeral (withSign negative (whole ++ fractionText fraction))
      ⟨negative, whole, fraction, 0⟩ := by
  constructor
  case parts =>
    have isPositional : IsPositional (whole ++ fractionText fraction) whole fraction := by
      cases fraction with
      | nil =>
          have same : whole ++ fractionText [] = whole := List.append_nil whole
          rw [same]
          exact .pointless whole
      | cons digit fraction => exact .pointed whole (digit :: fraction)
    cases negative with
    | false =>
        exact ⟨[], _, [], by simp [withSign], .missing, isPositional, .missing⟩
    | true =>
        exact ⟨['-'], _, [], by simp [withSign], .minus, isPositional, .missing⟩
  case areDigits =>
    exact areDigits
  case nonempty =>
    intro nothing
    exact nonempty (List.append_eq_nil_iff.1 nothing).1

/-- The digits behind the point, before the zeros at their end are dropped. -/
def paddedDigits (value places : Nat) : List Char :=
  List.replicate (places - (naturalDigits value).length) '0' ++ naturalDigits value

theorem scaledDown_eq
    (value places : Nat) :
    scaledDown value places =
      naturalDigits (value / 10 ^ places) ++
        fractionText (dropEndZeros (paddedDigits (value % 10 ^ places) places)) :=
  rfl

theorem paddedDigits_denotes
    {value places : Nat}
    (small : value < 10 ^ (places + 1)) :
    AreDigits (paddedDigits value (places + 1)) ∧
      (paddedDigits value (places + 1)).length = places + 1 ∧
      digitsValue (paddedDigits value (places + 1)) = value := by
  obtain ⟨areDigits, -, denotes⟩ := naturalDigits_denotes value
  have short := length_naturalDigits_le small
  refine ⟨areDigits_append.2 ⟨areDigits_replicate_zero _, areDigits⟩, ?_, ?_⟩
  · rw [paddedDigits, List.length_append, List.length_replicate]
    omega
  · rw [paddedDigits, digitsValue_append, digitsValue_replicate_zero, denotes, Nat.zero_mul,
      Nat.zero_add]

/-- The digits in front of the point and behind it; the zeros that were dropped are counted. -/
theorem exists_scaledDown
    (value places : Nat) :
    ∃ whole fraction zeros,
      scaledDown value (places + 1) = whole ++ fractionText fraction ∧
        whole ≠ [] ∧
        AreDigits (whole ++ fraction) ∧
        fraction.length + zeros = places + 1 ∧
        digitsValue (whole ++ fraction) * 10 ^ zeros = value := by
  have small : value % 10 ^ (places + 1) < 10 ^ (places + 1) :=
    Nat.mod_lt value (Nat.pow_pos (Nat.succ_pos 9))
  obtain ⟨wholeDigits, nonempty, wholeValue⟩ :=
    naturalDigits_denotes (value / 10 ^ (places + 1))
  obtain ⟨areDigits, length, paddedValue⟩ := paddedDigits_denotes small
  rw [scaledDown_eq]
  generalize paddedDigits (value % 10 ^ (places + 1)) (places + 1) = padded
    at areDigits length paddedValue ⊢
  obtain ⟨zeros, divided⟩ := exists_dropEndZeros padded
  rw [divided, areDigits_append] at areDigits
  rw [divided, List.length_append, List.length_replicate] at length
  rw [divided, digitsValue_append, digitsValue_replicate_zero, List.length_replicate,
    Nat.add_zero] at paddedValue
  refine ⟨_, _, zeros, rfl, nonempty, areDigits_append.2 ⟨wholeDigits, areDigits.1⟩, length, ?_⟩
  rw [digitsValue_append, wholeValue, Nat.add_mul, paddedValue, Nat.mul_assoc, ← Nat.pow_add,
    length, Nat.div_add_mod']

/-- The notation of `value / 10 ^ places` is a numeral for this ratio. -/
theorem exists_isNumeral_scaledDown
    (negative : Bool)
    (value places : Nat) :
    ∃ decimal,
      IsNumeral (withSign negative (scaledDown value (places + 1))) decimal ∧
        decimal.negative = negative ∧
        decimal.numerator * 10 ^ (places + 1) = value * decimal.denominator := by
  obtain ⟨whole, fraction, zeros, written, nonempty, areDigits, length, denotes⟩ :=
    exists_scaledDown value places
  rw [written]
  refine ⟨_, isNumeral_withSign negative areDigits nonempty, rfl, ?_⟩
  rw [Decimal.numerator_of_le _ (Int.natCast_nonneg _), Decimal.denominator, Int.sub_zero,
    Int.toNat_natCast, ← denotes, ← length, Nat.pow_add, Nat.mul_assoc, Nat.mul_comm (10 ^ zeros)]
  rfl

/-! ## Reading back -/

/-- A numeral that denotes a number exactly is read as that number. -/
theorem ofDecimal?_of_isNumeral
    {number : Binary64}
    {text : List Char}
    {decimal : Decimal}
    (valued : number.isNaN = false)
    (numeral : IsNumeral text decimal)
    (sameSign : decimal.negative = number.negative)
    (exact : decimal.numerator * unitsInOne = number.units * decimal.denominator) :
    ofDecimal? text = some number := by
  obtain ⟨sign, nearest⟩ := decimal.toBinary64_isNearest numeral.areDigits
  rw [ofDecimal?, Decimal.read?_eq_some_iff.2 numeral, Option.map_some, Option.some_inj]
  apply eq_of_units_eq
  · exact sign.trans sameSign
  · exact nearest.units_eq decimal.denominator_pos valued exact

/-- A decimal fraction of a power of five is a binary fraction. -/
theorem binary_of_decimal
    {numerator value denominator places : Nat}
    (scaled : numerator * 10 ^ places = value * 5 ^ places * denominator) :
    numerator * 2 ^ places = value * denominator := by
  have positive : 0 < 5 ^ places := Nat.pow_pos (by decide)
  apply Nat.eq_of_mul_eq_mul_right positive
  calc
    numerator * 2 ^ places * 5 ^ places = numerator * 10 ^ places := by
      rw [Nat.mul_assoc, ← Nat.mul_pow]
    _ = value * 5 ^ places * denominator := scaled
    _ = value * denominator * 5 ^ places := Nat.mul_right_comm _ _ _

theorem ofDecimal?_scaledDown
    {number : Binary64}
    {places : Nat}
    (valued : number.isNaN = false)
    (fine : unitsInOne = Nat.pow 2 (places + 1)) :
    ofDecimal?
        (withSign number.negative
          (positional (number.units * Nat.pow 5 (places + 1)) (-((places + 1 : Nat) : Int)))) =
      some number := by
  obtain ⟨decimal, numeral, sign, scaled⟩ :=
    exists_isNumeral_scaledDown number.negative (number.units * 5 ^ (places + 1)) places
  rw [positional, if_neg (by omega), Int.neg_neg, Int.toNat_natCast]
  apply ofDecimal?_of_isNumeral valued numeral sign
  rw [fine]
  exact binary_of_decimal scaled

/-- The exact decimal expansion denotes the number. -/
theorem ofDecimal?_exactText
    {number : Binary64}
    (valued : number.isNaN = false) :
    ofDecimal? number.exactText = some number := by
  obtain ⟨places, known⟩ : ∃ places, 1074 = places + 1 := ⟨1073, by omega⟩
  have scale : (-1074 : Int) = -((places + 1 : Nat) : Int) := by omega
  have fine : unitsInOne = Nat.pow 2 (places + 1) := by
    -- Only unfolded: the power itself must not be worked out here.
    delta unitsInOne
    rw [known]
  rw [exactText, scale, known]
  exact ofDecimal?_scaledDown valued fine

theorem of_findSome?_find?
    {α β : Type}
    {steps : List α}
    {candidates : α → List β}
    {test : β → Bool}
    {result : β}
    (found : (steps.findSome? fun step => (candidates step).find? test) = some result) :
    test result = true := by
  obtain ⟨step, -, candidate⟩ := List.exists_of_findSome?_eq_some found
  exact List.find?_some candidate

/-- A short notation is used only if it reads back. -/
theorem ofDecimal?_shortestText
    {number : Binary64}
    (valued : number.isNaN = false) :
    ofDecimal? number.shortestText = some number := by
  -- As above, an equation of the definition would work out the powers in it.
  delta shortestText
  dsimp only
  split
  · rename_i text found
    have readsBack := of_findSome?_find? found
    exact beq_iff_eq.1 readsBack
  · exact ofDecimal?_exactText valued

/-! ## Zero without a sign -/

/-- The number, but zero without its sign. -/
def normalized (number : Binary64) : Binary64 :=
  if number.isZero then .zero false else number

theorem isNaN_of_isFinite
    {number : Binary64}
    (finite : number.isFinite = true) :
    number.isNaN = false := by
  rw [isNaN_eq_false_iff]
  exact Nat.le_of_lt (of_decide_eq_true finite)

theorem isInfinite_of_isFinite
    {number : Binary64}
    (finite : number.isFinite = true) :
    number.isInfinite = false :=
  beq_false_of_ne (Nat.ne_of_lt (of_decide_eq_true finite))

theorem isZero_iff
    {number : Binary64} :
    number.isZero = true ↔ number.units = 0 := by
  rw [units_eq_zero_iff, isZero, beq_iff_eq]

section Normalized

variable
    (number : Binary64)

theorem units_normalized :
    number.normalized.units = number.units := by
  rw [normalized]
  split
  · rename_i zero
    rw [units_zero, isZero_iff.1 zero]
  · rfl

theorem negative_normalized :
    number.normalized.negative = (number.negative && !number.isZero) := by
  rw [normalized]
  split
  · rename_i zero
    rw [zero, Bool.not_true, Bool.and_false]
    rfl
  · rename_i nonzero
    rw [Bool.eq_false_of_not_eq_true nonzero, Bool.not_false, Bool.and_true]

variable {number}

theorem isNaN_normalized
    (valued : number.isNaN = false) :
    number.normalized.isNaN = false := by
  rw [normalized]
  split
  · exact isNaN_ofMagnitude _ _
  · exact valued

end Normalized

section SmallInteger

variable
    {number : Binary64}
    (small : number.isSmallInteger = true)

include small

theorem isSmallInteger_facts :
    number.isFinite = true ∧
      number.units / unitsInOne * unitsInOne = number.units ∧
      number.units / unitsInOne < 1000000000000000 := by
  obtain ⟨⟨finite, whole⟩, bounded⟩ :
      (number.isFinite = true ∧ number.isWhole = true) ∧
        number.units / unitsInOne < 1000000000000000 := by
    simpa only [isSmallInteger, Bool.and_eq_true, decide_eq_true_eq] using small
  have divisible := Nat.dvd_of_mod_eq_zero (beq_iff_eq.1 whole)
  exact ⟨finite, Nat.div_mul_cancel divisible, bounded⟩

/-- A small integer is within the bounds of the machine, so that it stays what it is. -/
theorem toInt64_of_isSmallInteger :
    number.toInt64 =
      if number.negative then -((number.units / unitsInOne : Nat) : Int)
      else ((number.units / unitsInOne : Nat) : Int) := by
  obtain ⟨finite, -, bounded⟩ := isSmallInteger_facts small
  rw [toInt64, if_neg (ne_true_of_eq_false (isNaN_of_isFinite finite))]
  generalize number.units / unitsInOne = whole at bounded ⊢
  split
  · exact Int.max_eq_right (by omega)
  · exact Int.min_eq_right (by omega)

end SmallInteger

theorem isNumeral_integerText
    (value : Int) :
    IsNumeral (integerText value) ⟨value < 0, naturalDigits value.natAbs, [], 0⟩ := by
  obtain ⟨areDigits, nonempty, -⟩ := naturalDigits_denotes value.natAbs
  rw [← List.append_nil (naturalDigits value.natAbs)] at areDigits
  have numeral := isNumeral_withSign (value < 0) areDigits nonempty
  rwa [show fractionText [] = [] from rfl, List.append_nil] at numeral

theorem isZero_iff_of_isSmallInteger
    {number : Binary64}
    (small : number.isSmallInteger = true) :
    number.isZero = true ↔ number.units / unitsInOne = 0 := by
  obtain ⟨-, exact, -⟩ := isSmallInteger_facts small
  rw [isZero_iff]
  constructor
  · intro zero
    rw [zero, Nat.zero_div]
  · intro zero
    rw [← exact, zero, Nat.zero_mul]

theorem toInt64_neg_iff
    {number : Binary64}
    (small : number.isSmallInteger = true) :
    number.toInt64 < 0 ↔ number.normalized.negative = true := by
  have zero := isZero_iff_of_isSmallInteger small
  rw [toInt64_of_isSmallInteger small, negative_normalized, Bool.and_eq_true,
    Bool.not_eq_true', ← Bool.not_eq_true, zero]
  generalize number.units / unitsInOne = whole
  cases number.negative with
  | true => simp [Nat.pos_iff_ne_zero]
  | false => simp

theorem natAbs_toInt64
    {number : Binary64}
    (small : number.isSmallInteger = true) :
    number.toInt64.natAbs = number.units / unitsInOne := by
  rw [toInt64_of_isSmallInteger small]
  split
  · rw [Int.natAbs_neg, Int.natAbs_natCast]
  · rw [Int.natAbs_natCast]

/-- A small integer is written as one, and zero without its sign. -/
theorem ofDecimal?_integerText
    {number : Binary64}
    (small : number.isSmallInteger = true) :
    ofDecimal? (integerText number.toInt64) = some number.normalized := by
  obtain ⟨finite, exact, -⟩ := isSmallInteger_facts small
  obtain ⟨-, -, denotes⟩ := naturalDigits_denotes number.toInt64.natAbs
  apply ofDecimal?_of_isNumeral
  case valued => exact isNaN_normalized (isNaN_of_isFinite finite)
  case numeral => exact isNumeral_integerText number.toInt64
  case sameSign =>
    rw [Bool.eq_iff_iff, ← toInt64_neg_iff small, decide_eq_true_iff]
  case exact =>
    rw [Decimal.numerator_of_le _ (Int.le_refl _), Decimal.denominator, units_normalized,
      Decimal.digits, List.append_nil, denotes, natAbs_toInt64 small, exact]
    exact (Nat.mul_one _).symm

/-- Zero is a small integer. -/
theorem isSmallInteger_of_isZero
    {number : Binary64}
    (zero : number.isZero = true) :
    number.isSmallInteger = true := by
  have finite : number.isFinite = true := by
    rw [isFinite, beq_iff_eq.1 zero]
    decide
  have whole : number.isWhole = true := by
    rw [isWhole, isZero_iff.1 zero, Nat.zero_mod]
    rfl
  rw [isSmallInteger, finite, whole, isZero_iff.1 zero, Nat.zero_div]
  rfl

theorem text_of_isZero
    {number : Binary64}
    (zero : number.isZero = true) :
    number.text = ['0'] := by
  have small := isSmallInteger_of_isZero zero
  have cast : number.toInt64 = 0 := by
    rw [← Int.natAbs_eq_zero, natAbs_toInt64 small]
    exact (isZero_iff_of_isSmallInteger small).1 zero
  rw [text, if_pos small, cast, integerText, Int.natAbs_zero, naturalDigits]
  rfl

/-- The text of a finite number is read as the number, without the sign of zero. -/
theorem ofDecimal?_text
    {number : Binary64}
    (finite : number.isFinite = true) :
    ofDecimal? number.text = some number.normalized := by
  by_cases small : number.isSmallInteger = true
  · rw [text, if_pos small]
    exact ofDecimal?_integerText small
  · have valued := isNaN_of_isFinite finite
    have bounded := isInfinite_of_isFinite finite
    have nonzero : number.isZero ≠ true := mt isSmallInteger_of_isZero small
    rw [text, if_neg small, if_neg (ne_true_of_eq_false valued),
      if_neg (ne_true_of_eq_false bounded), normalized, if_neg nonzero]
    exact ofDecimal?_shortestText valued

/-! ## Equal numbers -/

theorem magnitude_normalized
    (number : Binary64) :
    number.normalized.magnitude = number.magnitude := by
  rw [normalized]
  split
  · rename_i zero
    rw [beq_iff_eq.1 zero]
    exact magnitude_ofMagnitude _ _
  · rfl

theorem key_normalized
    (number : Binary64) :
    number.normalized.key = number.key := by
  rw [key, key, magnitude_normalized, negative_normalized, isZero]
  by_cases zero : number.magnitude = 0
  · simp [zero]
  · simp [zero]

/-- A signed magnitude leaves nothing open but the sign of zero. -/
theorem of_signed_eq
    {leftSign rightSign : Bool}
    {left right : Nat}
    (same :
      (if leftSign then -(left : Int) else left) =
        if rightSign then -(right : Int) else right) :
    left = right ∧ (left ≠ 0 → leftSign = rightSign) := by
  cases leftSign with
  | true =>
      cases rightSign with
      | true => exact ⟨by simpa using same, fun _ => rfl⟩
      | false =>
          simp only [if_true, Bool.false_eq_true, if_false] at same
          exact ⟨by omega, by omega⟩
  | false =>
      cases rightSign with
      | true =>
          simp only [if_true, Bool.false_eq_true, if_false] at same
          exact ⟨by omega, by omega⟩
      | false => exact ⟨by simpa using same, fun _ => rfl⟩

/-- Numbers with the same key differ at most in the sign of zero. -/
theorem normalized_eq_iff
    {left right : Binary64} :
    left.normalized = right.normalized ↔ left.key = right.key := by
  constructor
  · intro same
    rw [← key_normalized left, same, key_normalized right]
  · intro sameKey
    obtain ⟨sameMagnitude, sameSign⟩ := of_signed_eq sameKey
    apply eq_of_magnitude_eq
    · rw [negative_normalized, negative_normalized, isZero, isZero, ← sameMagnitude]
      by_cases zero : left.magnitude = 0
      · simp [zero]
      · rw [sameSign zero]
    · rw [magnitude_normalized, magnitude_normalized, sameMagnitude]

theorem isFinite_normalized
    {number : Binary64}
    (finite : number.isFinite = true) :
    number.normalized.isFinite = true := by
  rw [isFinite, magnitude_normalized]
  exact finite

/-- Finite numbers are equal when they differ at most in the sign of zero. -/
theorem equals_iff_normalized
    {left right : Binary64}
    (leftFinite : left.isFinite = true)
    (rightFinite : right.isFinite = true) :
    left.equals right = true ↔ left.normalized = right.normalized := by
  have valued : ¬ (left.isNaN || right.isNaN) = true := by
    rw [isNaN_of_isFinite leftFinite, isNaN_of_isFinite rightFinite]
    decide
  rw [normalized_eq_iff, equals, compare?, if_neg valued, beq_iff_eq, Option.some_inj,
    Std.compare_eq_iff_eq]

theorem equals_normalized
    {number : Binary64}
    (finite : number.isFinite = true) :
    number.equals number.normalized = true := by
  rw [equals_iff_normalized finite (isFinite_normalized finite), normalized_eq_iff, key_normalized]

theorem text_normalized
    (number : Binary64) :
    number.normalized.text = number.text := by
  rw [normalized]
  split
  · rename_i zero
    rw [text_of_isZero zero]
    exact text_of_isZero (beq_iff_eq.2 (magnitude_ofMagnitude _ _))
  · rfl

/-- Finite numbers have the same text when they are equal. -/
theorem text_eq_iff
    {left right : Binary64}
    (leftFinite : left.isFinite = true)
    (rightFinite : right.isFinite = true) :
    left.text = right.text ↔ left.equals right = true := by
  rw [equals_iff_normalized leftFinite rightFinite]
  constructor
  · intro sameText
    rw [← Option.some_inj, ← ofDecimal?_text leftFinite, sameText, ofDecimal?_text rightFinite]
  · intro same
    rw [← text_normalized left, same, text_normalized right]

end Binary64

end CallScript
