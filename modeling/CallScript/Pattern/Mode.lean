import CallScript.Pattern.Error
import CallScript.Pattern.Expr

/-!
# Reading modes

The flags that a pattern may switch on and off while it is read, and what the
signs whose meaning they change stand for.
-/

namespace CallScript.Pattern

open CallScript.Text

/-- The flags in force at a place of a pattern. -/
structure Mode where
  /-- Letters match in either case. -/
  caseless : Bool
  /-- The signs for the ends of the text stand for the ends of a line. -/
  multiLine : Bool
  /-- The dot matches a line feed too. -/
  dotAll : Bool
  /-- The greedy and the lazy form of a repetition change places. -/
  lazyFirst : Bool
  /-- A carriage return counts as a line break. -/
  carriageReturns : Bool
  /-- White space and comments are skipped. -/
  spaced : Bool
  /-- The characters that letters, classes and words are made of. -/
  repertoire : Repertoire
  deriving DecidableEq

namespace Mode

/-- The mode in which a pattern begins. -/
def initial : Mode :=
  ⟨false, false, false, false, false, false, .unicode⟩

/-- The mode with the flag of a letter switched. -/
def switch (mode : Mode) (value : Bool) : (flag : Char) → Option Mode
  | 'i' => some { mode with caseless := value }
  | 'm' => some { mode with multiLine := value }
  | 's' => some { mode with dotAll := value }
  | 'U' => some { mode with lazyFirst := value }
  | 'R' => some { mode with carriageReturns := value }
  | 'x' => some { mode with spaced := value }
  | 'u' => some { mode with repertoire := if value then .unicode else .ascii }
  | _ => none

/-- The text behind white space and comments; a comment runs from `#` to a line feed. -/
def dropSpace : (inComment : Bool) → List Char → List Char
  | _, [] => []
  | true, character :: rest => dropSpace (character != '\n') rest
  | false, character :: rest =>
      if isBlank character then dropSpace false rest
      else if character = '#' then dropSpace true rest
      else character :: rest

/-- The text from the next significant character on. -/
def significant (mode : Mode) (text : List Char) : List Char :=
  if mode.spaced then dropSpace false text else text

/--
The sign that decides, behind a minus sign in a bracket, whether a range
follows: the next one that is not white space.  The sign that begins a comment
is passed over, but the comment itself is not.
-/
def signAhead? (mode : Mode) (text : List Char) : Option Char :=
  if mode.spaced then
    match text.dropWhile isBlank with
    | '#' :: rest => (rest.dropWhile isBlank).head?
    | rest => rest.head?
  else text.head?

/-- The characters of a set that are in the repertoire. -/
def within (mode : Mode) (set : CharSet) : CharSet :=
  match mode.repertoire with
  | .unicode => set
  | .ascii => .ascii set

/-- The set with the other cases of its letters, when case is ignored. -/
def closed (mode : Mode) (set : CharSet) : CharSet :=
  mode.within (set.closedIf mode.caseless)

/-- The set, or its complement when that is wanted; the complement must not leave the repertoire. -/
def negatedIf (mode : Mode) (negated : Bool) (set : CharSet) : Except PatternError CharSet :=
  match negated, mode.repertoire with
  | false, _ => .ok set
  | true, .unicode => .ok (.complement set)
  | true, .ascii => .error .beyondAscii

/-- The character may stand in a bracketed set. -/
def admits (mode : Mode) (character : Char) : Bool :=
  mode.repertoire == .unicode || character.toNat < 128

/-- What the dot stands for. -/
def dot (mode : Mode) : Except PatternError CharSet :=
  mode.negatedIf true <|
    if mode.dotAll then .empty
    else if mode.carriageReturns then .union (.single '\r') (.single '\n')
    else .single '\n'

/-- What the sign for the start stands for. -/
def start (mode : Mode) : Edge :=
  if mode.multiLine then
    if mode.carriageReturns then .breakStart else .lineStart
  else .textStart

/-- What the sign for the end stands for. -/
def finish (mode : Mode) : Edge :=
  if mode.multiLine then
    if mode.carriageReturns then .breakEnd else .lineEnd
  else .textEnd

end Mode

/--
Reads the flags of a group up to the sign that ends them, a colon or a closing
parenthesis.  Gives the mode, whether there was any flag, that sign and the
text behind it.
-/
def readFlags
    (seen : List Char)
    (value afterMinus : Bool)
    (mode : Mode) : List Char → Except PatternError (Mode × Bool × Char × List Char)
  | [] => .error .badFlags
  | sign :: rest =>
      if sign = ':' || sign = ')' then
        if afterMinus then .error .badFlags
        else .ok (mode, !seen.isEmpty, sign, rest)
      else if seen.contains sign then .error .badFlags
      else if sign = '-' then readFlags (sign :: seen) false true mode rest
      else
        match mode.switch value sign with
        | some switched => readFlags (sign :: seen) value false switched rest
        | none => .error .badFlags

end CallScript.Pattern
