import CallScript.Number.Shortest
import CallScript.Text.Blank

/-!
# Values

A value is a text, a number, a truth value or a function.  A function carries
the record of its declaration and an identity, which is different for any two
declarations; two functions are equal when they have the same identity,
whatever their records say.

Equality never converts between the types of values.  The order does: two
texts are compared as texts, and everything else as numbers, where a value
that is no number has no order.
-/

namespace CallScript

open CallScript.Text

/-- What a function declaration says; the body is kept as text. -/
structure FunctionRecord where
  /-- The name of the function. -/
  name : String
  /-- The names of its parameters. -/
  params : List String
  /-- The text of its body. -/
  body : String
  deriving DecidableEq

/-- The declaration as text. -/
def FunctionRecord.display (record : FunctionRecord) : String :=
  "function " ++ record.name ++ "(" ++ ", ".intercalate record.params ++ ") \x7b " ++
    record.body ++ " \x7d"

/-- A value of the language. -/
inductive Value where
  /-- A text. -/
  | text (content : String)
  /-- A number. -/
  | number (content : Binary64)
  /-- A truth value. -/
  | bool (content : Bool)
  /-- A function, with the identity of its declaration. -/
  | function (record : FunctionRecord) (identity : Nat)
  deriving DecidableEq

namespace Value

/-- The name of the type of a value. -/
def typeName : Value → String
  | .text _ => "string"
  | .number _ => "number"
  | .bool _ => "boolean"
  | .function _ _ => "function"

/-- The value counts as true in a condition. -/
def isTruthy : Value → Bool
  | .text content => content ≠ ""
  | .number content => content.isTruthy
  | .bool content => content
  | .function _ _ => true

/-- The value as text. -/
def display : Value → String
  | .text content => content
  | .number content => String.ofList content.text
  | .bool true => "true"
  | .bool false => "false"
  | .function record _ => record.display

/-- Two values are equal; values of different types never are. -/
def equals : Value → Value → Bool
  | .text left, .text right => left == right
  | .number left, .number right => left.equals right
  | .bool left, .bool right => left == right
  | .function _ left, .function _ right => left == right
  | _, _ => false

/-- The number that a text stands for in a comparison; a blank text stands for zero. -/
def textNumber? (text : List Char) : Option Binary64 :=
  if (trim text).isEmpty then some (.zero false) else Binary64.ofText? (trim text)

/-- The number that a value stands for in a comparison. -/
def number? : Value → Option Binary64
  | .text content => textNumber? content.toList
  | .number content => some content
  | .bool content => some (.ofRatio false content.toNat 1)
  | .function _ _ => none

/-- The order of two texts, character by character. -/
def compareText (left right : String) : Ordering :=
  if left < right then .lt else if left = right then .eq else .gt

/-- The order of two values, if they have one. -/
def compare? : Value → Value → Option Ordering
  | .text left, .text right => some (compareText left right)
  | left, right => do (← left.number?).compare? (← right.number?)

/-- The text between a double quote at the start and another one at the end. -/
def unquoted? : List Char → Option (List Char)
  | '"' :: rest => if rest.getLast? = some '"' then some rest.dropLast else none
  | _ => none

/-- The character may stand in a number that is typed as an argument of a call. -/
def isNumeralChar (character : Char) : Bool :=
  character.isDigit || "+-.eE".toList.contains character

/--
The number that is typed as an argument of a call.  A number may not be typed as a word,
although the reader of numbers knows some.
-/
def typedNumber? (text : List Char) : Option Binary64 :=
  (Binary64.ofText? text).filter fun _ => !text.isEmpty && text.all isNumeralChar

/--
The value of a text that is typed as an argument of a call: a number in decimal
notation, a truth value, a text in quotes, or else the text itself.  White
space around it is not part of it.
-/
def ofLiteral (literal : String) : Value :=
  let text := trim literal.toList
  match typedNumber? text with
  | some typed => .number typed
  | none =>
      if text = "true".toList then .bool true
      else if text = "false".toList then .bool false
      else .text (String.ofList ((unquoted? text).getD text))

end Value

end CallScript
