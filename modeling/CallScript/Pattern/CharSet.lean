import CallScript.Text.Blank
import CallScript.Text.CaseFold
import CallScript.Text.Digit
import CallScript.Text.Word

/-!
# Sets of characters in a pattern

The sets that a pattern may name, as expressions: single characters and
ranges, the three classes of Unicode characters that have a letter of their
own, and the set operations over them.  A match asks a set for membership only;
its members are listed as ranges where the form of a pattern depends on them.
-/

namespace CallScript.Pattern

open CallScript.Text

/-- An expression that denotes a set of characters. -/
inductive CharSet where
  /-- No character. -/
  | empty
  /-- One character. -/
  | single (member : Char)
  /-- The characters that fold to the same letter as the given one. -/
  | sameLetter (member : Char)
  /-- The characters from `first` to `last`, both included. -/
  | range (first last : Char)
  /-- White space. -/
  | blank
  /-- The decimal digits of every script. -/
  | decimalDigit
  /-- The word characters. -/
  | wordChar
  /-- The characters outside a set. -/
  | complement (inner : CharSet)
  /-- The characters in one of two sets. -/
  | union (left right : CharSet)
  /-- The characters in both of two sets. -/
  | intersection (left right : CharSet)
  /-- The characters that fold to the same letter as a member of the set. -/
  | foldClosure (inner : CharSet)
  /-- The ASCII characters of a set. -/
  | ascii (inner : CharSet)
  deriving DecidableEq

namespace CharSet

/-- Membership of a character in the set. -/
def contains : CharSet → Char → Bool
  | .empty, _ => false
  | .single member, character => character == member
  | .sameLetter member, character => fold character == fold member
  | .range first last, character => first ≤ character && character ≤ last
  | .blank, character => isBlank character
  | .decimalDigit, character => isDecimalDigit character
  | .wordChar, character => isWordChar character
  | .complement inner, character => !inner.contains character
  | .union left right, character => left.contains character || right.contains character
  | .intersection left right, character =>
      left.contains character && right.contains character
  | .foldClosure inner, character => (caseVariants character).any inner.contains
  | .ascii inner, character => character.toNat < 128 && inner.contains character

/-- Every character. -/
def all : CharSet :=
  .complement .empty

/-- The characters of the first set that are not in the second. -/
def difference (left right : CharSet) : CharSet :=
  .intersection left (.complement right)

/-- The characters in exactly one of two sets. -/
def symmetricDifference (left right : CharSet) : CharSet :=
  .union (difference left right) (difference right left)

/-- The union of a list of sets; a list of one set is that set. -/
def unionOf : List CharSet → CharSet
  | [] => .empty
  | [set] => set
  | set :: sets => .union set (unionOf sets)

/-- The set, closed under case folding when that is wanted. -/
def closedIf (caseless : Bool) (set : CharSet) : CharSet :=
  if caseless then .foldClosure set else set

/-- The members of the set as ranges of code points. -/
def ranges : CharSet → Ranges
  | .empty => []
  | .single member => [(member.toNat, member.toNat)]
  | .sameLetter member =>
      (caseVariants member).foldl
        (fun (ranges : Ranges) variant => ranges.insert variant.toNat variant.toNat) []
  | .range first last => [(first.toNat, last.toNat)]
  | .blank => blankRanges
  | .decimalDigit => decimalDigitRanges
  | .wordChar => wordRanges
  | .complement inner => inner.ranges.complement
  | .union left right => left.ranges.union right.ranges
  | .intersection left right => left.ranges.intersection right.ranges
  | .foldClosure inner => inner.ranges.foldClosure
  | .ascii inner => inner.ranges.intersection [(0, 127)]

/-- The set was made for ASCII alone. -/
def isForAscii : CharSet → Bool
  | .ascii _ => true
  | _ => false

/--
The sets have the same members.  A set that was made for ASCII alone is told
apart from one that was not, unless both are empty.
-/
def isAlike (left right : CharSet) : Bool :=
  left.ranges == right.ranges &&
    (left.ranges.isEmpty || left.isForAscii == right.isForAscii)

/-- The only member of the set, when it has exactly one. -/
def only? (set : CharSet) : Option Char :=
  match set.ranges with
  | [(first, last)] => if first = last then some (Char.ofNat first) else none
  | _ => none

end CharSet

end CallScript.Pattern
