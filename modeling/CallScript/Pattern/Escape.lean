import CallScript.Pattern.Mode
import CallScript.Pattern.Property
import CallScript.Text.Hex

/-!
# Escapes in a pattern

What may follow a backslash: a sign that is to stand for itself, a letter for
a control, a class or a condition, a property, or a code point in hexadecimal
digits.
-/

namespace CallScript.Pattern

open CallScript.Text

/-- What a single element of a pattern denotes. -/
inductive Atom where
  /-- One character. -/
  | literal (character : Char)
  /-- A set of characters. -/
  | oneOf (set : CharSet)
  /-- A condition on a place. -/
  | place (condition : Edge)
  deriving DecidableEq

/-- The sign stands for itself behind a backslash. -/
def isEscapable (character : Char) : Bool :=
  character.toNat < 128 && !character.isAlphanum && character != '<' && character != '>'

/-- The character with a code point, when there is one. -/
def characterOf (code : Nat) : Except PatternError Char :=
  if code.isValidChar then .ok (Char.ofNat code) else .error .badCodePoint

/-- Reads a code point of exactly `count` hexadecimal digits. -/
def readFixedHex
    (mode : Mode)
    (value : Nat) : (count : Nat) → List Char → Except PatternError (Nat × List Char)
  | 0, text => .ok (value, text)
  | count + 1, text =>
      match mode.significant text with
      | [] => .error .badEscape
      | digit :: rest =>
          match hexValue? digit with
          | some digitValue => readFixedHex mode (16 * value + digitValue) count rest
          | none => .error .badEscape

/-- Reads a code point in hexadecimal digits up to a closing brace. -/
def readBracedHex
    (mode : Mode)
    (value : Option Nat) : (rounds : Nat) → List Char → Except PatternError (Nat × List Char)
  | 0, _ => .error .badEscape
  | rounds + 1, text =>
      match mode.significant text with
      | [] => .error .badEscape
      | '}' :: rest =>
          match value with
          | some code => .ok (code, rest)
          | none => .error .badEscape
      | digit :: rest =>
          match hexValue? digit with
          | some digitValue =>
              readBracedHex mode (some (16 * value.getD 0 + digitValue)) rounds rest
          | none => .error .badEscape

/--
Reads a code point, in braces or with a fixed number of digits.  Two digits stand
for a byte where only ASCII is meant, and then for no character beyond it.
-/
def readHex
    (mode : Mode)
    (count : Nat)
    (text : List Char) : Except PatternError (Atom × List Char) := do
  match mode.significant text with
  | '{' :: inner =>
      let (code, rest) ← readBracedHex mode none (inner.length + 1) inner
      return (.literal (← characterOf code), rest)
  | inner =>
      let (code, rest) ← readFixedHex mode 0 count inner
      let character ← characterOf code
      if count = 2 && !mode.admits character then throw .beyondAscii
      else return (.literal character, rest)

/-- The condition with a name in braces. -/
def namedEdge? : (name : List Char) → Option WordEdge
  | ['s', 't', 'a', 'r', 't'] => some .start
  | ['e', 'n', 'd'] => some .finish
  | ['s', 't', 'a', 'r', 't', '-', 'h', 'a', 'l', 'f'] => some .noneBefore
  | ['e', 'n', 'd', '-', 'h', 'a', 'l', 'f'] => some .noneAfter
  | _ => none

/-- The sign may stand in the name of a condition. -/
def isEdgeNameSign (sign : Char) : Bool :=
  sign.isAlpha || sign == '-'

/-- Reads the name of a condition up to the first sign that cannot stand in it. -/
def readEdgeName (mode : Mode) : (rounds : Nat) → List Char → List Char × List Char
  | 0, text => ([], text)
  | rounds + 1, text =>
      match mode.significant text with
      | [] => ([], [])
      | sign :: rest =>
          if isEdgeNameSign sign then
            let (name, tail) := readEdgeName mode rounds rest
            (sign :: name, tail)
          else ([], sign :: rest)

/-- A condition on the words around a place. -/
def Mode.wordEdge (mode : Mode) (condition : WordEdge) : Atom :=
  .place (.word mode.repertoire condition)

/--
Reads what follows the sign of a word boundary.  A brace with a name in it
selects one of the special boundaries; any other brace is left for the
repetition that it begins.
-/
def readBoundary (mode : Mode) (text : List Char) : Except PatternError (Atom × List Char) :=
  match text with
  | '{' :: rest =>
      match mode.significant rest with
      | [] => .error .badEscape
      | sign :: inner =>
          if isEdgeNameSign sign then
            match readEdgeName mode (inner.length + 2) (sign :: inner) with
            | (name, '}' :: tail) =>
                match namedEdge? name with
                | some condition => .ok (mode.wordEdge condition, tail)
                | none => .error .badEscape
            | _ => .error .badEscape
          else .ok (mode.wordEdge .boundary, text)
  | _ => .ok (mode.wordEdge .boundary, text)

/-- Reads a name up to its closing brace. -/
def readBracedName (mode : Mode) :
    (rounds : Nat) → List Char → Except PatternError (List Char × List Char)
  | 0, _ => .error .badEscape
  | rounds + 1, text =>
      match mode.significant text with
      | [] => .error .badEscape
      | '}' :: rest => .ok ([], rest)
      | sign :: rest => do
          let (name, tail) ← readBracedName mode rounds rest
          return (sign :: name, tail)

/--
Reads how a property is referred to, by a letter or in braces, and whether the
characters with another value of it are meant.
-/
def readPropertyName
    (mode : Mode)
    (text : List Char) : Except PatternError (PropertyName × Bool × List Char) :=
  match mode.significant text with
  | [] | '\\' :: _ => .error .badEscape
  | '{' :: inner => do
      let (name, rest) ← readBracedName mode (inner.length + 1) inner
      let (property, differs) := PropertyName.ofBraced name
      return (property, differs, rest)
  | sign :: rest => .ok (.letter sign, false, rest)

/-- Reads a class of the characters with a property, or of those without it. -/
def readProperty
    (table : PropertyTable)
    (mode : Mode)
    (negated : Bool)
    (text : List Char) : Except PatternError (Atom × List Char) := do
  let (property, differs, rest) ← readPropertyName mode text
  if mode.repertoire = .ascii then throw .beyondAscii
  match table property with
  | some set => return (.oneOf (← mode.negatedIf (negated != differs) (mode.closed set)), rest)
  | none => throw .unknownProperty

/-- The class with a letter of its own, or the characters outside it. -/
def Mode.classAtom
    (mode : Mode)
    (negated : Bool)
    (set : CharSet) : Except PatternError Atom :=
  (mode.negatedIf negated (mode.within set)).map Atom.oneOf

/-- Reads an escape; the text begins behind the backslash. -/
def readEscape
    (table : PropertyTable)
    (mode : Mode) : List Char → Except PatternError (Atom × List Char)
  | [] => .error .badEscape
  | sign :: rest =>
      let behind (atom : Except PatternError Atom) : Except PatternError (Atom × List Char) :=
        atom.map fun atom => (atom, rest)
      if sign.isDigit then .error .backReference
      else if isEscapable sign then .ok (.literal sign, rest)
      else
        match sign with
        | 'x' => readHex mode 2 rest
        | 'u' => readHex mode 4 rest
        | 'U' => readHex mode 8 rest
        | 'p' => readProperty table mode false rest
        | 'P' => readProperty table mode true rest
        | 'd' => behind (mode.classAtom false .decimalDigit)
        | 's' => behind (mode.classAtom false .blank)
        | 'w' => behind (mode.classAtom false .wordChar)
        | 'D' => behind (mode.classAtom true .decimalDigit)
        | 'S' => behind (mode.classAtom true .blank)
        | 'W' => behind (mode.classAtom true .wordChar)
        | 'a' => .ok (.literal '\x07', rest)
        | 'f' => .ok (.literal '\x0c', rest)
        | 't' => .ok (.literal '\t', rest)
        | 'n' => .ok (.literal '\n', rest)
        | 'r' => .ok (.literal '\r', rest)
        | 'v' => .ok (.literal '\x0b', rest)
        | 'A' => .ok (.place .textStart, rest)
        | 'z' => .ok (.place .textEnd, rest)
        | 'b' => readBoundary mode rest
        | 'B' => .ok (mode.wordEdge .interior, rest)
        | '<' => .ok (mode.wordEdge .start, rest)
        | '>' => .ok (mode.wordEdge .finish, rest)
        | _ => .error .badEscape

end CallScript.Pattern
