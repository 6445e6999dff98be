import CallScript.Pattern.BracketSet
import CallScript.Pattern.Normal
import CallScript.Pattern.Room.Limit
import CallScript.Text.Letter

/-!
# Reading a pattern

A pattern is read from left to right with a stack of the groups that are still
open.  A group holds its finished alternatives and the pieces of the one that
is being read; when it closes, the flags in force before it come back.  Each
round of the reader takes at least one character, so the length of the text
bounds their number.
-/

namespace CallScript.Pattern

open CallScript.Text

/-- A part of a pattern that has been read. -/
structure Piece where
  /-- What the part means. -/
  expr : Expr
  /-- How deep the part is nested. -/
  depth : Nat
  /-- A repetition may follow the part. -/
  repeatable : Bool

/-- A group that is still open; the last element of each list comes first. -/
structure Level where
  /-- The finished alternatives. -/
  branches : List Piece
  /-- The pieces of the alternative that is being read. -/
  pieces : List Piece
  /-- The mode that comes back when the group closes. -/
  outerMode : Mode
  /-- The number of the group, if it has one. -/
  number : Option Nat

/-- The depth of parts that stand side by side. -/
def depthOf (pieces : List Piece) : Nat :=
  match pieces with
  | [] => 0
  | [piece] => piece.depth
  | pieces => 1 + (pieces.map Piece.depth).foldl max 0

namespace Level

/-- The level with one more piece. -/
def push (level : Level) (piece : Piece) : Level :=
  { level with pieces := piece :: level.pieces }

/-- The level with its current alternative finished. -/
def finishBranch (level : Level) : Level :=
  let branch : Piece :=
    { expr := Expr.inSequence (level.pieces.reverse.map Piece.expr)
      depth := depthOf level.pieces
      repeatable := true }
  { level with branches := branch :: level.branches, pieces := [] }

/-- What the level means as a whole. -/
def close (level : Level) : Piece :=
  let branches := level.finishBranch.branches
  let body := Expr.asChoice (branches.reverse.map Piece.expr)
  { expr := (level.number.map fun number => Expr.group number body).getD body
    depth := depthOf branches
    repeatable := true }

/-- The level with its last piece repeated. -/
def repeatLast
    (level : Level)
    (repetition : Expr → Expr) : Except PatternError Level :=
  match level.pieces with
  | piece :: pieces =>
      if piece.repeatable then
        .ok { level with pieces := ⟨repetition piece.expr, piece.depth + 1, true⟩ :: pieces }
      else .error .nothingToRepeat
  | [] => .error .nothingToRepeat

end Level

/-- What stands at the start of a group. -/
inductive GroupStart where
  /-- The parentheses only switch flags. -/
  | flags (mode : Mode)
  /-- A group begins, which gets a number if it is counted. -/
  | opened (counted : Bool) (mode : Mode) (names : List (List Char))

/-- The sign may stand in the name of a group. -/
def isGroupNameSign (first : Bool) (sign : Char) : Bool :=
  sign == '_' || isLetter sign ||
    (!first && (sign == '.' || sign == '[' || sign == ']' || isNumeral sign))

/-- Reads the name of a group up to its closing angle bracket. -/
def readGroupName
    (names : List (List Char))
    (text : List Char) : Except PatternError (List (List Char) × List Char) :=
  match text.takeWhile (· ≠ '>'), text.dropWhile (· ≠ '>') with
  | sign :: signs, _ :: rest =>
      if isGroupNameSign true sign && signs.all (isGroupNameSign false) then
        if names.contains (sign :: signs) then .error .repeatedGroupName
        else .ok ((sign :: signs) :: names, rest)
      else .error .badGroupName
  | _, _ => .error .badGroupName

/-- Reads the start of a group behind its opening parenthesis. -/
def readGroupStart
    (mode : Mode)
    (names : List (List Char))
    (text : List Char) : Except PatternError (GroupStart × List Char) := do
  let named (rest : List Char) : Except PatternError (GroupStart × List Char) := do
    let (names, tail) ← readGroupName names rest
    return (.opened true mode names, tail)
  match mode.significant text with
  | '?' :: '=' :: _ | '?' :: '!' :: _ | '?' :: '<' :: '=' :: _ | '?' :: '<' :: '!' :: _ =>
      throw .lookAround
  | '?' :: 'P' :: '<' :: rest => named rest
  | '?' :: '<' :: rest => named rest
  | '?' :: rest =>
      let (inner, anyFlag, sign, tail) ← readFlags [] true false mode rest
      if sign = ':' then return (.opened false inner names, tail)
      else if anyFlag then return (.flags inner, tail)
      else throw .nothingToRepeat
  | rest => return (.opened true mode names, rest)

/-- Reads whether a repetition is greedy: a question mark behind it makes it lazy. -/
def readGreed (mode : Mode) : List Char → Bool × List Char
  | '?' :: rest => (mode.lazyFirst, rest)
  | rest => (!mode.lazyFirst, rest)

/-- The largest count of a repetition. -/
def largestCount : Nat :=
  4294967295

/-- Reads the digits of a count; comments and white space may stand behind each of them. -/
def readDigits (mode : Mode) : (rounds : Nat) → List Char → List Char × List Char
  | 0, text => ([], text)
  | rounds + 1, text =>
      match text with
      | [] => ([], [])
      | sign :: rest =>
          if sign.isDigit then
            let (digits, tail) := readDigits mode rounds (mode.significant rest)
            (sign :: digits, tail)
          else ([], sign :: rest)

/-- Reads a count, with white space around it. -/
def readCount (mode : Mode) (text : List Char) : Option Nat × List Char :=
  let (digits, rest) := readDigits mode text.length (text.dropWhile isBlank)
  let count := digits.foldl (fun value digit => 10 * value + (digit.toNat - 48)) 0
  (if digits.isEmpty || largestCount < count then none else some count,
    mode.significant (rest.dropWhile isBlank))

/-- Reads the counts of a repetition behind the opening brace. -/
def readCounts
    (mode : Mode)
    (text : List Char) : Except PatternError ((Bool → Expr → Expr) × List Char) :=
  match readCount mode (mode.significant text) with
  | (some count, '}' :: rest) => .ok (Expr.repeated count (some count), rest)
  | (some least, ',' :: inner) =>
      match mode.significant inner with
      | '}' :: rest => .ok (Expr.repeated least none, rest)
      | bound =>
          match readCount mode bound with
          | (some most, '}' :: rest) =>
              if least ≤ most then .ok (Expr.repeated least (some most), rest)
              else .error .badCounts
          | _ => .error .badCounts
  | _ => .error .badCounts

/-- What a character stands for outside brackets. -/
def Mode.letter (mode : Mode) (character : Char) : Expr :=
  match mode.repertoire with
  | .unicode => Expr.letter mode.caseless character
  | .ascii =>
      if mode.caseless && character.toNat < 128 then .ofSet (.ascii (.sameLetter character))
      else .word [character]

/-- The piece that an element outside brackets stands for. -/
def Atom.piece (mode : Mode) (atom : Atom) : Piece :=
  match atom with
  | .literal character => ⟨mode.letter character, 0, true⟩
  | .oneOf set => ⟨.ofSet set, 0, true⟩
  | .place condition => ⟨.edge condition, 0, true⟩

/--
Reads a pattern to its end.  `outer` holds the groups around the current one,
`count` the number of the groups that were counted.
-/
def readPieces (table : PropertyTable) :
    (rounds : Nat) → (outer : List Level) → (level : Level) → Mode → (count : Nat) →
      (names : List (List Char)) → List Char → Except PatternError Piece
  | 0, _, _, _, _, _, _ => .error .unclosedGroup
  | rounds + 1, outer, level, mode, count, names, text => do
      let pushed (piece : Piece) (rest : List Char) : Except PatternError Piece :=
        readPieces table rounds outer (level.push piece) mode count names rest
      let repeated
          (repetition : Bool → Expr → Expr)
          (rest : List Char) : Except PatternError Piece := do
        let (greedy, tail) := readGreed mode rest
        readPieces table rounds outer (← level.repeatLast (repetition greedy)) mode count names tail
      match mode.significant text with
      | [] => if outer.isEmpty then return level.close else throw .unclosedGroup
      | '(' :: rest =>
          match ← readGroupStart mode names rest with
          | (.flags inner, tail) =>
              readPieces table rounds outer (level.push ⟨.empty, 0, false⟩) inner count names tail
          | (.opened counted inner names, tail) =>
              let number := if counted then some (count + 1) else none
              readPieces table rounds (level :: outer) ⟨[], [], mode, number⟩ inner
                (if counted then count + 1 else count) names tail
      | ')' :: rest =>
          match outer with
          | [] => throw .unopenedGroup
          | parent :: outer =>
              let whole := level.close
              readPieces table rounds outer (parent.push ⟨whole.expr, whole.depth + 1, true⟩)
                level.outerMode count names rest
      | '|' :: rest => readPieces table rounds outer level.finishBranch mode count names rest
      | '[' :: rest =>
          let (part, tail) ← readBracketSet table mode (rest.length + 2) [] [] ('[' :: rest)
          pushed ⟨.ofSet part.set, part.depth, true⟩ tail
      | '?' :: rest => repeated (Expr.repeated 0 (some 1)) rest
      | '*' :: rest => repeated (Expr.repeated 0 none) rest
      | '+' :: rest => repeated (Expr.repeated 1 none) rest
      | '{' :: rest =>
          if level.pieces.isEmpty then throw .nothingToRepeat
          else
            let (repetition, tail) ← readCounts mode rest
            repeated repetition (mode.significant tail)
      | '.' :: rest => pushed ⟨.chars (← mode.dot), 0, true⟩ rest
      | '^' :: rest => pushed ⟨.edge mode.start, 0, true⟩ rest
      | '$' :: rest => pushed ⟨.edge mode.finish, 0, true⟩ rest
      | '\\' :: rest =>
          let (atom, tail) ← readEscape table mode rest
          pushed (atom.piece mode) tail
      | character :: rest => pushed (Atom.piece mode (.literal character)) rest

/-- How deep a pattern may be nested. -/
def depthLimit : Nat :=
  250

/-- Reads a pattern in a mode. -/
def Expr.readIn
    (table : PropertyTable)
    (mode : Mode)
    (source : List Char) : Except PatternError Expr := do
  let start : Level := ⟨[], [], mode, none⟩
  let whole ← readPieces table (source.length + 1) [] start mode 0 [] source
  if depthLimit < whole.depth then throw .tooDeep
  else if !whole.expr.fits then throw .tooLarge
  else return whole.expr

/-- Reads a pattern. -/
def Expr.read (table : PropertyTable) (source : List Char) : Except PatternError Expr :=
  Expr.readIn table Mode.initial source

end CallScript.Pattern
