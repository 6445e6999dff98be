/-!
# Locations in a text

A location counts lines and columns from one.  A column counts characters, and
only a line feed begins a new line.  The location of a place is a function of
the text that stands before it; a place may also be given by its distance from
the start in bytes of UTF-8, provided that it does not cut a character.
-/

namespace CallScript.Text

/-- A line and a column, both counted from one. -/
structure Location where
  /-- The number of the line. -/
  line : Nat
  /-- The number of the character in its line. -/
  column : Nat
  deriving DecidableEq, Repr

/-- The characters after the last line feed. -/
def lastLine (text : List Char) : List Char :=
  (text.reverse.takeWhile (· ≠ '\n')).reverse

/-- The location of the place directly behind a text. -/
def Location.behind (passed : List Char) : Location where
  line := passed.count '\n' + 1
  column := (lastLine passed).length + 1

/--
The part of a text in front of a distance in bytes.  A distance beyond the end
stands for the end, and a distance that falls inside a character has no part
in front of it.
-/
def beforeByte? : (source : List Char) → (bytes : Nat) → Option (List Char)
  | _, 0 => some []
  | [], _ + 1 => some []
  | character :: rest, bytes + 1 =>
      if character.utf8Size ≤ bytes + 1 then
        (beforeByte? rest (bytes + 1 - character.utf8Size)).map (character :: ·)
      else none

/-- The location of the place at a distance in bytes from the start of a text. -/
def Location.atByte? (source : List Char) (bytes : Nat) : Option Location :=
  (beforeByte? source bytes).map Location.behind

end CallScript.Text
