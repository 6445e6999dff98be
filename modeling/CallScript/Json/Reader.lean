import CallScript.Json.Basic
import CallScript.Text.Hex

/-!
# Reading JSON

A text is a JSON value with white space around it.  The reader of a value
returns the text behind it.  Each round takes at least one character, so the
length of the text bounds the number of rounds.
-/

namespace CallScript.Json

open CallScript.Text

/-- The character may stand between the parts of a value. -/
def isSpace (character : Char) : Bool :=
  character == ' ' || character == '\n' || character == '\t' || character == '\r'

/-- The text behind white space. -/
def dropSpace (text : List Char) : List Char :=
  text.dropWhile isSpace

/-- A part of a string: a character, or a code unit from an escape that names none. -/
inductive StringPart where
  /-- A character. -/
  | character (character : Char)
  /-- The first half of a surrogate pair. -/
  | highHalf (code : Nat)
  /-- The second half of a surrogate pair. -/
  | lowHalf (code : Nat)

/-- What four hexadecimal digits denote. -/
def StringPart.ofCode (code : Nat) : StringPart :=
  if 0xD800 ≤ code && code < 0xDC00 then .highHalf code
  else if 0xDC00 ≤ code && code < 0xE000 then .lowHalf code
  else .character (Char.ofNat code)

/-- The text of the parts, when every half of a surrogate pair has its other half. -/
def textOf? : List StringPart → Option (List Char)
  | [] => some []
  | .character character :: parts => (textOf? parts).map (character :: ·)
  | .highHalf high :: .lowHalf low :: parts =>
      (textOf? parts).map
        (Char.ofNat (0x10000 + (high - 0xD800) * 0x400 + (low - 0xDC00)) :: ·)
  | .highHalf _ :: _ => none
  | .lowHalf _ :: _ => none

/-- The value of four hexadecimal digits. -/
def hexCode? (first second third fourth : Char) : Option Nat := do
  let first ← hexValue? first
  let second ← hexValue? second
  let third ← hexValue? third
  let fourth ← hexValue? fourth
  return ((first * 16 + second) * 16 + third) * 16 + fourth

/-- The control or sign that a letter denotes behind a backslash. -/
def escaped? : Char → Option Char
  | '"' => some '"'
  | '\\' => some '\\'
  | '/' => some '/'
  | 'b' => some '\x08'
  | 'f' => some '\x0c'
  | 'n' => some '\n'
  | 'r' => some '\r'
  | 't' => some '\t'
  | _ => none

/-- Reads the parts of a string up to its closing quote. -/
def readParts? : List Char → Option (List StringPart × List Char)
  | '"' :: rest => some ([], rest)
  | '\\' :: 'u' :: first :: second :: third :: fourth :: rest => do
      let code ← hexCode? first second third fourth
      let (parts, tail) ← readParts? rest
      return (.ofCode code :: parts, tail)
  | '\\' :: letter :: rest => do
      let character ← escaped? letter
      let (parts, tail) ← readParts? rest
      return (.character character :: parts, tail)
  | character :: rest =>
      if character = '\\' || character.toNat < 32 then none
      else do
        let (parts, tail) ← readParts? rest
        return (.character character :: parts, tail)
  | [] => none

/-- Reads a string behind its opening quote. -/
def readString? (text : List Char) : Option (Option String × List Char) :=
  (readParts? text).map fun (parts, rest) => ((textOf? parts).map String.ofList, rest)

/-- Splits digits off a text; there has to be one. -/
def readDigits? (text : List Char) : Option (List Char × List Char) :=
  let digits := text.takeWhile Char.isDigit
  if digits.isEmpty then none else some (digits, text.dropWhile Char.isDigit)

/-- Splits the digits of a whole number off a text; only zero begins with a zero. -/
def readWhole? (text : List Char) : Option (List Char × List Char) := do
  let (digits, rest) ← readDigits? text
  if digits.head? = some '0' && digits.length ≠ 1 then none else return (digits, rest)

/-- Splits the fraction off a text, when there is one. -/
def readFraction? : List Char → Option (List Char × List Char)
  | '.' :: text => do
      let (digits, rest) ← readDigits? text
      return ('.' :: digits, rest)
  | text => some ([], text)

/-- Splits the exponent off a text, when there is one. -/
def readExponent? : List Char → Option (List Char × List Char)
  | [] => some ([], [])
  | mark :: text =>
      if mark = 'e' || mark = 'E' then
        match text with
        | [] => none
        | sign :: unsigned =>
            if sign = '+' || sign = '-' then do
              let (digits, rest) ← readDigits? unsigned
              return (mark :: sign :: digits, rest)
            else do
              let (digits, rest) ← readDigits? (sign :: unsigned)
              return (mark :: digits, rest)
      else some ([], mark :: text)

/-- Reads a number without its sign. -/
def readUnsigned? (sign : List Char) (text : List Char) : Option (Json × List Char) := do
  let (whole, afterWhole) ← readWhole? text
  let (fraction, afterFraction) ← readFraction? afterWhole
  let (exponent, rest) ← readExponent? afterFraction
  return (.number (sign ++ whole ++ fraction ++ exponent), rest)

/-- Reads a number. -/
def readNumber? : List Char → Option (Json × List Char)
  | '-' :: text => readUnsigned? ['-'] text
  | text => readUnsigned? [] text

mutual

/-- Reads a value with white space in front of it. -/
def readValue? : (rounds : Nat) → List Char → Option (Json × List Char)
  | 0, _ => none
  | rounds + 1, text =>
      match dropSpace text with
      | 'n' :: 'u' :: 'l' :: 'l' :: rest => some (.null, rest)
      | 't' :: 'r' :: 'u' :: 'e' :: rest => some (.bool true, rest)
      | 'f' :: 'a' :: 'l' :: 's' :: 'e' :: rest => some (.bool false, rest)
      | '"' :: rest => (readString? rest).map fun (content, tail) => (.string content, tail)
      | '[' :: rest =>
          match dropSpace rest with
          | ']' :: tail => some (.array [], tail)
          | inner =>
              (readElements? rounds inner).map fun (elements, tail) => (.array elements, tail)
      | '{' :: rest =>
          match dropSpace rest with
          | '}' :: tail => some (.object [], tail)
          | inner =>
              (readMembers? rounds inner).map fun (members, tail) => (.object members, tail)
      | inner => readNumber? inner

/-- Reads the elements of an array up to its closing bracket; there has to be one. -/
def readElements? : (rounds : Nat) → List Char → Option (List Json × List Char)
  | 0, _ => none
  | rounds + 1, text => do
      let (element, rest) ← readValue? rounds text
      match dropSpace rest with
      | ']' :: tail => return ([element], tail)
      | ',' :: more =>
          let (elements, tail) ← readElements? rounds more
          return (element :: elements, tail)
      | _ => none

/-- Reads the members of an object up to its closing brace; there has to be one. -/
def readMembers? : (rounds : Nat) → List Char → Option (List (Option String × Json) × List Char)
  | 0, _ => none
  | rounds + 1, text =>
      match dropSpace text with
      | '"' :: inner => do
          let (key, afterKey) ← readString? inner
          match dropSpace afterKey with
          | ':' :: afterColon =>
              let (value, rest) ← readValue? rounds afterColon
              match dropSpace rest with
              | '}' :: tail => return ([(key, value)], tail)
              | ',' :: more =>
                  let (members, tail) ← readMembers? rounds more
                  return ((key, value) :: members, tail)
              | _ => none
          | _ => none
      | _ => none

end

/-- Reads a whole text as one value. -/
def read? (text : List Char) : Option Json :=
  match readValue? (2 * text.length + 1) text with
  | some (json, rest) => if (dropSpace rest).isEmpty then some json else none
  | none => none

end CallScript.Json
