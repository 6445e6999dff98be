import CallScript.Text.Hex
import CallScript.Text.Printable

/-!
# Quoted text

Text in double quotes, in the form in which tokens are listed.  A quote and a
backslash are written with a backslash in front, the common controls by a
letter, and every other character without a visible form of its own by its
code point in braces.
-/

namespace CallScript.Text

/-- How one character is written between the quotes. -/
def writtenInQuotes (character : Char) : List Char :=
  if character = '\x00' then ['\\', '0']
  else if character = '\t' then ['\\', 't']
  else if character = '\r' then ['\\', 'r']
  else if character = '\n' then ['\\', 'n']
  else if character = '"' then ['\\', '"']
  else if character = '\\' then ['\\', '\\']
  else if isPrintable character then [character]
  else ['\\', 'u', '{'] ++ hexCode character ++ ['}']

/-- The text between double quotes, with its special characters escaped. -/
def quoted (text : List Char) : List Char :=
  '"' :: text.flatMap writtenInQuotes ++ ['"']

end CallScript.Text
