/-!
# Why a text is not a pattern

The causes for which the reader of patterns refuses a text.
-/

namespace CallScript.Pattern

/-- Why a text cannot be read as a pattern. -/
inductive PatternError where
  /-- A group is not closed. -/
  | unclosedGroup
  /-- A closing parenthesis has no group to close. -/
  | unopenedGroup
  /-- A repetition stands where there is nothing to repeat. -/
  | nothingToRepeat
  /-- The counts of a repetition are missing, too large or in the wrong order. -/
  | badCounts
  /-- A bracketed set is not closed. -/
  | unclosedSet
  /-- An element of a bracketed set does not denote characters. -/
  | badSetElement
  /-- The ends of a range are not two characters in order. -/
  | badRange
  /-- A backslash begins no known escape. -/
  | badEscape
  /-- An escape names a code point that is not a character. -/
  | badCodePoint
  /-- The flags of a group are unknown, repeated or missing. -/
  | badFlags
  /-- The name of a group is empty, malformed or not closed. -/
  | badGroupName
  /-- Two groups have the same name. -/
  | repeatedGroupName
  /-- A condition on the text around a match is not supported. -/
  | lookAround
  /-- A reference to the text of a group is not supported. -/
  | backReference
  /-- No property has the name. -/
  | unknownProperty
  /-- A class or a character lies outside ASCII where only ASCII is meant. -/
  | beyondAscii
  /-- The pattern is nested too deeply. -/
  | tooDeep
  /-- The pattern takes too much room once its repetitions are counted out. -/
  | tooLarge
  deriving DecidableEq, Repr

/-- The cause in words. -/
def PatternError.message : PatternError → String
  | .unclosedGroup => "a group is not closed"
  | .unopenedGroup => "a closing parenthesis has no group to close"
  | .nothingToRepeat => "there is nothing to repeat"
  | .badCounts => "the counts of a repetition are malformed"
  | .unclosedSet => "a bracketed set is not closed"
  | .badSetElement => "an element of a bracketed set is not a set of characters"
  | .badRange => "the ends of a range are not two characters in order"
  | .badEscape => "a backslash begins no known escape"
  | .badCodePoint => "an escape names no character"
  | .badFlags => "the flags of a group are malformed"
  | .badGroupName => "the name of a group is malformed"
  | .repeatedGroupName => "two groups have the same name"
  | .lookAround => "a condition on the surrounding text is not supported"
  | .backReference => "a reference to a group is not supported"
  | .unknownProperty => "no property has the name"
  | .beyondAscii => "a set leaves ASCII where only ASCII is meant"
  | .tooDeep => "the pattern is nested too deeply"
  | .tooLarge => "the pattern is too large"

end CallScript.Pattern
