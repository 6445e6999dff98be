import CallScript.Number.Binary64

/-!
# Decimal numbers

The decimal notation of numbers: an optional sign, digits with an optional
point that may also stand before or behind them all, and an optional exponent.
There has to be a digit in front of the exponent, and one in the exponent.

A notation is read as the nearest binary number.  A second, wider reader also
knows the words for the infinities and for a missing value, in either case.
-/

namespace CallScript

/-- A number in decimal notation. -/
structure Decimal where
  /-- There is a minus sign in front. -/
  negative : Bool
  /-- The digits in front of the point. -/
  whole : List Char
  /-- The digits behind the point. -/
  fraction : List Char
  /-- The power of ten by which the digits are scaled. -/
  exponent : Int
  deriving DecidableEq

/-- The natural number that decimal digits denote. -/
def digitsValue (digits : List Char) : Nat :=
  digits.foldl (fun value digit => 10 * value + (digit.toNat - 48)) 0

/-- Splits a sign off a text; the result tells whether it is a minus sign. -/
def readSign : List Char → Bool × List Char
  | '-' :: rest => (true, rest)
  | '+' :: rest => (false, rest)
  | rest => (false, rest)

namespace Decimal

/-- Reads an exponent, which takes up the whole text; the empty text is the exponent zero. -/
def readExponent? : List Char → Option Int
  | [] => some 0
  | mark :: text =>
      if mark = 'e' || mark = 'E' then
        let (negative, digits) := readSign text
        if digits.isEmpty || !digits.all Char.isDigit then none
        else some (if negative then -(digitsValue digits : Int) else digitsValue digits)
      else none

/-- Splits the digits behind a point off a text. -/
def readFraction : List Char → List Char × List Char
  | '.' :: text => (text.takeWhile Char.isDigit, text.dropWhile Char.isDigit)
  | text => ([], text)

/-- Reads a whole text as a decimal number. -/
def read? (text : List Char) : Option Decimal :=
  let (negative, unsigned) := readSign text
  let whole := unsigned.takeWhile Char.isDigit
  let (fraction, rest) := readFraction (unsigned.dropWhile Char.isDigit)
  if whole.isEmpty && fraction.isEmpty then none
  else (readExponent? rest).map fun exponent => ⟨negative, whole, fraction, exponent⟩

/-- The digits of the number in front of and behind the point. -/
def digits (decimal : Decimal) : List Char :=
  decimal.whole ++ decimal.fraction

/--
The power of ten beyond which a number with so many digits is certainly too
large, or too close to zero, to be told from the infinities, or from zero.
-/
def exponentBound (decimal : Decimal) : Int :=
  decimal.digits.length + 400

/-- The nearest binary number. -/
def toBinary64 (decimal : Decimal) : Binary64 :=
  let value := digitsValue decimal.digits
  if value = 0 then .zero decimal.negative
  else if decimal.exponentBound < decimal.exponent then .infinity decimal.negative
  else if decimal.exponent < -decimal.exponentBound then .zero decimal.negative
  else
    let scale := decimal.exponent - decimal.fraction.length
    if 0 ≤ scale then .ofRatio decimal.negative (value * Nat.pow 10 scale.toNat) 1
    else .ofRatio decimal.negative value (Nat.pow 10 (-scale).toNat)

end Decimal

namespace Binary64

/-- The number that a text denotes in decimal notation. -/
def ofDecimal? (text : List Char) : Option Binary64 :=
  (Decimal.read? text).map Decimal.toBinary64

/-- The text in lower case, as far as its letters are ASCII letters. -/
def lowered (text : List Char) : List Char :=
  text.map Char.toLower

/-- The number that a word denotes. -/
def ofWord? (text : List Char) : Option Binary64 :=
  let (negative, word) := readSign text
  if lowered word = ['i', 'n', 'f'] || lowered word = ['i', 'n', 'f', 'i', 'n', 'i', 't', 'y'] then
    some (.infinity negative)
  else if lowered word = ['n', 'a', 'n'] then some .nan
  else none

/-- The number that a text denotes, in decimal notation or as a word. -/
def ofText? (text : List Char) : Option Binary64 :=
  match ofDecimal? text with
  | some number => some number
  | none => ofWord? text

end Binary64

end CallScript
