import CallScript.Text.Word

/-!
# Conditions on a place between characters

A pattern may ask for a place without matching a character there: an end of
the text or of a line, or a place where a word begins or ends.  Such a
condition depends on the characters on the two sides of the place, either of
which may be missing.
-/

namespace CallScript.Pattern

/-- The characters that count as letters, as members of a class and as parts of a word. -/
inductive Repertoire where
  /-- All characters. -/
  | unicode
  /-- The characters of ASCII. -/
  | ascii
  deriving DecidableEq

/-- The character may stand inside a word. -/
def Repertoire.isWordChar : Repertoire → Char → Bool
  | .unicode, character => Text.isWordChar character
  | .ascii, character => character.toNat < 128 && Text.isWordChar character

/-- A condition on what stands before and after a place: whether it belongs to a word. -/
inductive WordEdge where
  /-- A word character stands on exactly one side. -/
  | boundary
  /-- A word character stands on both sides or on neither. -/
  | interior
  /-- A word begins. -/
  | start
  /-- A word ends. -/
  | finish
  /-- No word character stands before the place. -/
  | noneBefore
  /-- No word character stands after the place. -/
  | noneAfter
  deriving DecidableEq

/-- The condition is met, given on which sides a word character stands. -/
def WordEdge.holds (edge : WordEdge) (before after : Bool) : Bool :=
  match edge with
  | .boundary => before != after
  | .interior => before == after
  | .start => !before && after
  | .finish => before && !after
  | .noneBefore => !before
  | .noneAfter => !after

/-- A condition on a place between two characters. -/
inductive Edge where
  /-- The start of the text. -/
  | textStart
  /-- The end of the text. -/
  | textEnd
  /-- The start of the text or the place behind a line feed. -/
  | lineStart
  /-- The end of the text or the place in front of a line feed. -/
  | lineEnd
  /-- The start of a line when a carriage return and a line feed count as one break. -/
  | breakStart
  /-- The end of a line when a carriage return and a line feed count as one break. -/
  | breakEnd
  /-- A condition on the words around the place. -/
  | word (repertoire : Repertoire) (condition : WordEdge)
  deriving DecidableEq

/-- The condition is met by a place between `before` and `after`. -/
def Edge.holds (edge : Edge) (before after : Option Char) : Bool :=
  match edge with
  | .textStart => before.isNone
  | .textEnd => after.isNone
  | .lineStart => before.isNone || before == some '\n'
  | .lineEnd => after.isNone || after == some '\n'
  | .breakStart =>
      before.isNone || before == some '\n' || (before == some '\r' && after != some '\n')
  | .breakEnd =>
      after.isNone || after == some '\r' || (after == some '\n' && before != some '\r')
  | .word repertoire condition =>
      condition.holds (before.any repertoire.isWordChar) (after.any repertoire.isWordChar)

end CallScript.Pattern
