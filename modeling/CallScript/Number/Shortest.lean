import CallScript.Number.Decimal

/-!
# The text of a number

A finite number is written in positional notation with the fewest digits that
read back to it, and among those with the digits closest to it.  For each
number of digits the two neighbours on the decimal grid are tried.  Should no
short notation read back, the exact decimal expansion is written.

Integers below `10 ^ 15` are turned into integers of the machine first, and are
therefore written without regard to the sign of zero.
-/

namespace CallScript

/-- The decimal digits of a natural number. -/
def naturalDigits (value : Nat) : List Char :=
  if value < 10 then [Char.ofNat (48 + value)]
  else naturalDigits (value / 10) ++ [Char.ofNat (48 + value % 10)]

namespace Binary64

/-- A sign in front of a text when the number is negative. -/
def withSign (negative : Bool) (text : List Char) : List Char :=
  if negative then '-' :: text else text

/-- The text without zeros at its end. -/
def dropEndZeros (text : List Char) : List Char :=
  (text.reverse.dropWhile (· == '0')).reverse

/-- The digits of a number behind its point, with the point unless there are none. -/
def fractionText (digits : List Char) : List Char :=
  if digits.isEmpty then [] else '.' :: digits

/-- The positional notation of `value * 10 ^ places`. -/
def scaledUp (value places : Nat) : List Char :=
  naturalDigits value ++ List.replicate places '0'

/-- The positional notation of `value / 10 ^ places`, without zeros at its end. -/
def scaledDown (value places : Nat) : List Char :=
  let digits := naturalDigits (value % Nat.pow 10 places)
  naturalDigits (value / Nat.pow 10 places) ++
    fractionText (dropEndZeros (List.replicate (places - digits.length) '0' ++ digits))

/-- The positional notation of `value * 10 ^ scale`. -/
def positional (value : Nat) (scale : Int) : List Char :=
  if 0 ≤ scale then scaledUp value scale.toNat else scaledDown value (-scale).toNat

/-- The power of ten of the leading digit of a positive ratio. -/
def leadingPower (numerator denominator : Nat) : Int :=
  if denominator ≤ numerator then (naturalDigits (numerator / denominator)).length - 1
  else -((naturalDigits ((denominator - 1) / numerator)).length : Int)

/--
The two multiples of `10 ^ scale` around a ratio, as factors of that power, the
closer one first; of two equally close ones the larger comes first.
-/
def neighbours (numerator denominator : Nat) (scale : Int) : List Nat :=
  let scaledNumerator :=
    if 0 ≤ scale then numerator else numerator * Nat.pow 10 (-scale).toNat
  let scaledDenominator :=
    if 0 ≤ scale then denominator * Nat.pow 10 scale.toNat else denominator
  let below := scaledNumerator / scaledDenominator
  let remainder := scaledNumerator % scaledDenominator
  if scaledDenominator ≤ 2 * remainder then [below + 1, below] else [below, below + 1]

/-- The notations with a number of digits that are closest to a finite number. -/
def candidates (number : Binary64) (digits : Nat) : List (List Char) :=
  let scale := leadingPower number.units unitsInOne - digits
  (neighbours number.units unitsInOne scale).map fun value =>
    withSign number.negative (positional value scale)

/-- The exact decimal expansion of a finite number. -/
def exactText (number : Binary64) : List Char :=
  withSign number.negative (positional (number.units * Nat.pow 5 1074) (-1074))

/-- The notation of a finite number with the fewest digits that read back to it. -/
def shortestText (number : Binary64) : List Char :=
  let readsBack (text : List Char) : Bool := ofDecimal? text == some number
  match (List.range 17).findSome? fun digits => (number.candidates digits).find? readsBack with
  | some text => text
  | none => number.exactText

/-- The number has no fraction. -/
def isWhole (number : Binary64) : Bool :=
  number.units % unitsInOne == 0

/-- The number is an integer, and its absolute value is below `10 ^ 15`. -/
def isSmallInteger (number : Binary64) : Bool :=
  number.isFinite && number.isWhole && number.units / unitsInOne < 1000000000000000

/--
The number without its fraction, as a signed integer of 64 bits.  The numbers
beyond these integers become the last one on their side, and a missing value
becomes zero.
-/
def toInt64 (number : Binary64) : Int :=
  let whole : Int := (number.units / unitsInOne : Nat)
  if number.isNaN then 0
  else if number.negative then max (-9223372036854775808) (-whole)
  else min 9223372036854775807 whole

/-- The text of an integer. -/
def integerText (value : Int) : List Char :=
  withSign (value < 0) (naturalDigits value.natAbs)

/-- The text of a number. -/
def text (number : Binary64) : List Char :=
  if number.isSmallInteger then integerText number.toInt64
  else if number.isNaN then "NaN".toList
  else if number.isInfinite then withSign number.negative "Infinity".toList
  else number.shortestText

end Binary64

end CallScript
