/-!
# Ranges of characters as ranges of bytes

The characters of a range, written in UTF-8, are the texts of a few sequences
of byte ranges.  A range is first cut where the number of bytes changes and at
the surrogates.  Each piece is then cut so that, from some byte on, all of its
sequences run over every continuation byte.
-/

namespace CallScript.Text

/-- A range of bytes, both ends included. -/
structure ByteRange where
  /-- The first byte. -/
  first : Nat
  /-- The last byte. -/
  last : Nat
  deriving DecidableEq

namespace ByteRange

/-- The ranges of code points whose characters have the same number of bytes. -/
def sameLength : List (Nat × Nat) :=
  [(0, 0x7F), (0x80, 0x7FF), (0x800, 0xD7FF), (0xE000, 0xFFFF), (0x10000, 0x10FFFF)]

/-- The pieces of a range of code points that have the same number of bytes. -/
def piecesOf (first last : Nat) : List (Nat × Nat) :=
  sameLength.filterMap fun (low, high) =>
    if max first low ≤ min last high then some (max first low, min last high) else none

/--
The pieces of a range that lie in one block of `unit` code points each or run
from block to block without a rest; the blocks grow from level to level.
-/
def aligned : (levels : Nat) → (unit first last : Nat) → List (Nat × Nat)
  | 0, _, first, last => [(first, last)]
  | levels + 1, unit, first, last =>
      if first / unit = last / unit then [(first, last)]
      else
        let start := (first + unit - 1) / unit * unit
        let stop := (last + 1) / unit * unit
        let front := if first < start then [(first, start - 1)] else []
        let middle := if start < stop then aligned levels (64 * unit) start (stop - 1) else []
        let back := if stop ≤ last then [(stop, last)] else []
        front ++ middle ++ back

/-- The bytes of the character with a code point. -/
def bytesOf (code : Nat) : List Nat :=
  (String.utf8EncodeChar (Char.ofNat code)).map UInt8.toNat

/-- The byte ranges of a piece whose characters have the same number of bytes. -/
def ofPiece (first last : Nat) : List (List ByteRange) :=
  if last < 0x80 then [[⟨first, last⟩]]
  else
    (aligned 3 64 first last).map fun (low, high) =>
      (bytesOf low).zipWith ByteRange.mk (bytesOf high)

/-- The sequences of byte ranges for a range of code points, in increasing order. -/
def sequences (first last : Nat) : List (List ByteRange) :=
  (piecesOf first last).flatMap fun (low, high) => ofPiece low high

end ByteRange

end CallScript.Text
