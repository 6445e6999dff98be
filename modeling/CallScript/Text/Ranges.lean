/-!
# Sets of characters as sorted ranges

A set of characters is listed as closed ranges of code points, in increasing
order and with a gap between neighbours, so that a search may end at the first
range above the character that it looks for.  The operations on sets keep this
form; in a complement, a range may run over the surrogates, which are no
characters.
-/

namespace CallScript.Text

/-- Closed ranges of code points, in increasing order. -/
abbrev Ranges := List (Nat × Nat)

/-- The largest code point. -/
def lastCode : Nat :=
  0x10FFFF

/-- The code point of the character behind the one with the given code point. -/
def codeAfter (code : Nat) : Nat :=
  if code = 0xD7FF then 0xE000 else code + 1

/-- The code point of the character in front of the one with the given code point. -/
def codeBefore (code : Nat) : Nat :=
  if code = 0xE000 then 0xD7FF else code - 1

namespace Ranges

/-- The code point lies in one of the ranges. -/
def containsCode (code : Nat) : Ranges → Bool
  | [] => false
  | (first, last) :: ranges =>
      if code < first then false
      else code ≤ last || containsCode code ranges

/-- The character lies in one of the ranges. -/
def contains (ranges : Ranges) (character : Char) : Bool :=
  ranges.containsCode character.toNat

/-- The ranges with a further one, joined with those that it overlaps or touches. -/
def insert (first last : Nat) : Ranges → Ranges
  | [] => [(first, last)]
  | (low, high) :: ranges =>
      if last + 1 < low then (first, last) :: (low, high) :: ranges
      else if high + 1 < first then (low, high) :: insert first last ranges
      else insert (min first low) (max last high) ranges

/-- The code points in one of two sets. -/
def union (left right : Ranges) : Ranges :=
  left.foldr (fun (first, last) ranges => Ranges.insert first last ranges) right

/-- The code points in both of two sets. -/
def intersection (left right : Ranges) : Ranges :=
  left.flatMap fun (first, last) =>
    right.filterMap fun (low, high) =>
      if max first low ≤ min last high then some (max first low, min last high) else none

/-- The code points from `start` on that are in none of the ranges. -/
def complementFrom (start : Nat) : Ranges → Ranges
  | [] => if start ≤ lastCode then [(start, lastCode)] else []
  | (first, last) :: ranges =>
      if start < first then
        (start, codeBefore first) :: complementFrom (codeAfter last) ranges
      else complementFrom (codeAfter last) ranges

/-- The code points in none of the ranges. -/
def complement (ranges : Ranges) : Ranges :=
  ranges.complementFrom 0

end Ranges

end CallScript.Text
