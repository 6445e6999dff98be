import CallScript.Json.Basic
import CallScript.Text.Hex

/-!
# Writing JSON

A value is written over several lines, two spaces for each level, one element
or member a line; an empty array or object stays on one line.  In a string,
quotes, backslashes and controls are escaped and everything else is written as
it is.
-/

namespace CallScript.Json

open CallScript.Text

/-- How one character is written in a string. -/
def writtenChar (character : Char) : List Char :=
  if character = '"' then ['\\', '"']
  else if character = '\\' then ['\\', '\\']
  else if character = '\x08' then ['\\', 'b']
  else if character = '\t' then ['\\', 't']
  else if character = '\n' then ['\\', 'n']
  else if character = '\x0c' then ['\\', 'f']
  else if character = '\r' then ['\\', 'r']
  else if character.toNat < 32 then ['\\', 'u'] ++ hexPadded 4 character.toNat
  else [character]

/-- A string between its quotes. -/
def writtenString (text : List Char) : List Char :=
  '"' :: text.flatMap writtenChar ++ ['"']

/-- The line break in front of a line at a level. -/
def newLine (level : Nat) : List Char :=
  '\n' :: List.replicate (2 * level) ' '

mutual

/-- The text of a value whose first line stands at a level. -/
def written (level : Nat) : Json → List Char
  | .null => ['n', 'u', 'l', 'l']
  | .bool true => ['t', 'r', 'u', 'e']
  | .bool false => ['f', 'a', 'l', 's', 'e']
  | .number spelling => spelling
  | .string content => writtenString (content.getD "").toList
  | .array [] => ['[', ']']
  | .array (element :: elements) =>
      '[' :: newLine (level + 1) ++ written (level + 1) element ++
        writtenElements (level + 1) elements ++ newLine level ++ [']']
  | .object [] => ['{', '}']
  | .object ((key, value) :: members) =>
      '{' :: newLine (level + 1) ++ writtenString (key.getD "").toList ++ [':', ' '] ++
        written (level + 1) value ++ writtenMembers (level + 1) members ++ newLine level ++ ['}']

/-- The text of the elements behind the first one. -/
def writtenElements (level : Nat) : List Json → List Char
  | [] => []
  | element :: elements =>
      ',' :: newLine level ++ written level element ++ writtenElements level elements

/-- The text of the members behind the first one. -/
def writtenMembers (level : Nat) : List (Option String × Json) → List Char
  | [] => []
  | (key, value) :: members =>
      ',' :: newLine level ++ writtenString (key.getD "").toList ++ [':', ' '] ++
        written level value ++ writtenMembers level members

end

/-- The text of a value. -/
def render (json : Json) : String :=
  String.ofList (json.written 0)

end CallScript.Json
