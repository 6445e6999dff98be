/-!
# Hexadecimal digits

The digits below sixteen in lower case, numbers written with them, and the
value of a digit in either case.
-/

namespace CallScript.Text

/-- The lower-case hexadecimal digit of a number below sixteen. -/
def hexDigit (value : Nat) : Char :=
  if value < 10 then Char.ofNat (48 + value) else Char.ofNat (87 + value)

/-- The value of a hexadecimal digit in either case. -/
def hexValue? (digit : Char) : Option Nat :=
  if '0' ≤ digit && digit ≤ '9' then some (digit.toNat - 48)
  else if 'a' ≤ digit && digit ≤ 'f' then some (digit.toNat - 87)
  else if 'A' ≤ digit && digit ≤ 'F' then some (digit.toNat - 55)
  else none

/-- The last `width` hexadecimal digits of a number, the most significant first. -/
def hexPadded : (width : Nat) → (value : Nat) → List Char
  | 0, _ => []
  | width + 1, value => hexPadded width (value / 16) ++ [hexDigit (value % 16)]

/-- The number of hexadecimal digits that a code point needs. -/
def hexWidth (value : Nat) : Nat :=
  if value < 0x10 then 1
  else if value < 0x100 then 2
  else if value < 0x1000 then 3
  else if value < 0x10000 then 4
  else if value < 0x100000 then 5
  else 6

/-- A code point in hexadecimal digits, without leading zeros. -/
def hexCode (character : Char) : List Char :=
  hexPadded (hexWidth character.toNat) character.toNat

end CallScript.Text
