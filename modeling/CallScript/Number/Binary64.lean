/-!
# Binary numbers of 64 bits

A number is a sign, a biased exponent and a fraction.  The largest exponent is
reserved: with the fraction zero it stands for an infinity, with any other for
something that is not a number.

Exponent and fraction written one behind the other form the magnitude, a
natural number that grows with the absolute value.  Signed, it is the key by
which numbers are compared; both zeros have the key zero.  Every finite number
is a multiple of the smallest positive one, and its absolute value is measured
in that unit.  Rounding takes a ratio of natural numbers, in the same unit, to
the nearest magnitude.
-/

namespace CallScript

/-- A binary number of 64 bits. -/
structure Binary64 where
  /-- The number is marked as negative. -/
  negative : Bool
  /-- The biased exponent. -/
  exponent : Fin 2048
  /-- The bits behind the leading one. -/
  fraction : Fin 4503599627370496
  deriving DecidableEq

namespace Binary64

/-- The number of fractions that belong to one exponent, `2 ^ 52`. -/
def fractions : Nat :=
  4503599627370496

/-- The number of units in one, `2 ^ 1074`. -/
def unitsInOne : Nat :=
  Nat.pow 2 1074

/-- The exponent and the fraction as one number. -/
def magnitude (number : Binary64) : Nat :=
  number.exponent.val * fractions + number.fraction.val

/-- The magnitude of the infinities. -/
def infiniteMagnitude : Nat :=
  2047 * fractions

/-- The number is not an ordinary number. -/
def isNaN (number : Binary64) : Bool :=
  infiniteMagnitude < number.magnitude

/-- The number is one of the infinities. -/
def isInfinite (number : Binary64) : Bool :=
  number.magnitude == infiniteMagnitude

/-- The number is neither infinite nor without a value. -/
def isFinite (number : Binary64) : Bool :=
  number.magnitude < infiniteMagnitude

/-- The number is one of the zeros. -/
def isZero (number : Binary64) : Bool :=
  number.magnitude == 0

/-- The number with a sign and a magnitude; no magnitude exceeds that of the infinities. -/
def ofMagnitude (negative : Bool) (magnitude : Nat) : Binary64 where
  negative := negative
  exponent := Fin.ofNat 2048 (min magnitude infiniteMagnitude / fractions)
  fraction := Fin.ofNat 4503599627370496 (min magnitude infiniteMagnitude)

/-- The infinity with a sign. -/
def infinity (negative : Bool) : Binary64 :=
  ofMagnitude negative infiniteMagnitude

/-- The zero with a sign. -/
def zero (negative : Bool) : Binary64 :=
  ofMagnitude negative 0

/-- The number that stands for the absence of a value. -/
def nan : Binary64 :=
  ⟨false, 2047, 2251799813685248⟩

/-- The key of the order: the magnitude with the sign of the number. -/
def key (number : Binary64) : Int :=
  if number.negative then -(number.magnitude : Int) else number.magnitude

/-- The order of two numbers; there is none where a value is missing. -/
def compare? (left right : Binary64) : Option Ordering :=
  if left.isNaN || right.isNaN then none else some (compare left.key right.key)

/-- Two numbers have the same value. -/
def equals (left right : Binary64) : Bool :=
  left.compare? right == some .eq

/-- The number has a value other than zero. -/
def isTruthy (number : Binary64) : Bool :=
  !number.isNaN && !number.isZero

/-- The bits of the number, the sign first. -/
def bits (number : Binary64) : Nat :=
  (if number.negative then Nat.pow 2 63 else 0) + number.magnitude

/-- The integer that the bits behind the sign stand for, before it is scaled. -/
def significand (number : Binary64) : Nat :=
  if number.exponent.val = 0 then number.fraction.val else fractions + number.fraction.val

/-- The absolute value of a finite number in units. -/
def units (number : Binary64) : Nat :=
  number.significand * Nat.pow 2 (number.exponent.val - 1)

/-- The quotient rounded to the nearest integer; a half goes to the even one. -/
def roundedQuotient (numerator denominator : Nat) : Nat :=
  let quotient := numerator / denominator
  let remainder := numerator % denominator
  if 2 * remainder < denominator then quotient
  else if denominator < 2 * remainder then quotient + 1
  else quotient + quotient % 2

/--
The magnitude nearest to a ratio of units.  The spacing of the numbers around
the ratio is a power of two; the ratio is rounded to a multiple of it.
-/
def roundedMagnitude (numerator denominator : Nat) : Nat :=
  let spacing := Nat.log2 (numerator / denominator) - 52
  spacing * fractions + roundedQuotient numerator (denominator * Nat.pow 2 spacing)

/-- The number nearest to a ratio of natural numbers. -/
def ofRatio (negative : Bool) (numerator denominator : Nat) : Binary64 :=
  ofMagnitude negative (roundedMagnitude (numerator * unitsInOne) denominator)

end Binary64

end CallScript
