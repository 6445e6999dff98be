import CallScript.Text.Ranges

/-!
# White space

The characters that carry the Unicode property `White_Space`, and the two
operations that the program builds on them: a text is blank when it holds
nothing else, and trimming removes them at both ends.
-/

namespace CallScript.Text

/-- The characters with the property `White_Space`. -/
def blankRanges : Ranges := [
  (0x9, 0xD), (0x20, 0x20), (0x85, 0x85), (0xA0, 0xA0), (0x1680, 0x1680),
  (0x2000, 0x200A), (0x2028, 0x2029), (0x202F, 0x202F), (0x205F, 0x205F),
  (0x3000, 0x3000)]

/-- The character separates words without being visible. -/
def isBlank (character : Char) : Bool :=
  blankRanges.contains character

/-- The text without the white space in front of it. -/
def trimStart (text : List Char) : List Char :=
  text.dropWhile isBlank

/-- The text without the white space behind it. -/
def trimEnd (text : List Char) : List Char :=
  (text.reverse.dropWhile isBlank).reverse

/-- The text without the white space at either end. -/
def trim (text : List Char) : List Char :=
  trimEnd (trimStart text)

/-- The text holds nothing but white space. -/
def allBlank (text : List Char) : Bool :=
  text.all isBlank

end CallScript.Text
