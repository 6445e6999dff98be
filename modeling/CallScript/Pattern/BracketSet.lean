import CallScript.Pattern.Escape

/-!
# Bracketed sets

A set of characters in brackets: characters, ranges, classes and further
brackets side by side, with the operations intersection, difference and
symmetric difference between them, which bind to the left.

Reading keeps a stack of what is still open.  Each round of the reader takes
at least one character, so the length of the text bounds their number.
-/

namespace CallScript.Pattern

open CallScript.Text

/-- A part of a bracketed set that has been read, and how deep it is nested. -/
structure SetPart where
  /-- The characters of the part. -/
  set : CharSet
  /-- The depth of its nesting. -/
  depth : Nat

/-- An operation between two sides of a bracketed set. -/
inductive SetOperation where
  /-- The characters on both sides. -/
  | intersection
  /-- The characters of the left side that are not on the right. -/
  | difference
  /-- The characters on exactly one side. -/
  | symmetricDifference

/-- The result of an operation on two sets. -/
def SetOperation.apply (operation : SetOperation) (left right : CharSet) : CharSet :=
  match operation with
  | .intersection => .intersection left right
  | .difference => .difference left right
  | .symmetricDifference => .symmetricDifference left right

/-- What is still open around a place in a bracketed set. -/
inductive SetFrame where
  /-- A bracket, with the parts read before it in the bracket around it, the last one first. -/
  | bracket (negated : Bool) (outer : List SetPart)
  /-- An operation that waits for its right side. -/
  | operation (operation : SetOperation) (left : SetPart)

/-- The parts of a bracket as one; the last part comes first in the list. -/
def SetPart.join (parts : List SetPart) : SetPart where
  set := CharSet.unionOf (parts.reverse.map SetPart.set)
  depth :=
    match parts with
    | [] => 0
    | [part] => part.depth
    | parts => 1 + (parts.map SetPart.depth).foldl max 0

/-- Completes the operation that waits for its right side, if there is one. -/
def applyPending
    (mode : Mode)
    (right : SetPart) : List SetFrame → SetPart × List SetFrame
  | .operation operation left :: frames =>
      ({ set := operation.apply (mode.closed left.set) (mode.closed right.set)
         depth := 1 + max left.depth right.depth }, frames)
  | frames => (right, frames)

/-- The sets of ASCII characters that have a name. -/
def namedSet? (name : List Char) : Option CharSet :=
  let digits := CharSet.range '0' '9'
  let lower := CharSet.range 'a' 'z'
  let upper := CharSet.range 'A' 'Z'
  match String.ofList name with
  | "alnum" => some (.unionOf [digits, upper, lower])
  | "alpha" => some (.union upper lower)
  | "ascii" => some (.range '\x00' '\x7f')
  | "blank" => some (.union (.single '\t') (.single ' '))
  | "cntrl" => some (.union (.range '\x00' '\x1f') (.single '\x7f'))
  | "digit" => some digits
  | "graph" => some (.range '!' '~')
  | "lower" => some lower
  | "print" => some (.range ' ' '~')
  | "punct" =>
      some (.unionOf [.range '!' '/', .range ':' '@', .range '[' '\x60', .range '{' '~'])
  | "space" => some (.union (.range '\t' '\r') (.single ' '))
  | "upper" => some upper
  | "word" => some (.unionOf [digits, upper, .single '_', lower])
  | "xdigit" => some (.unionOf [digits, .range 'A' 'F', .range 'a' 'f'])
  | _ => none

/-- Reads a named set, and whether it is negated; the text begins behind its opening bracket. -/
def readNamedSet? : List Char → Option (Bool × CharSet × List Char)
  | ':' :: text =>
      let (negated, named) :=
        match text with
        | '^' :: rest => (true, rest)
        | rest => (false, rest)
      match named.dropWhile (· ≠ ':') with
      | ':' :: ']' :: rest =>
          (namedSet? (named.takeWhile (· ≠ ':'))).map fun set => (negated, set, rest)
      | _ => none
  | _ => none

/-- Reads the minus signs at the start of a bracket, which stand for themselves. -/
def readLeadingDashes
    (mode : Mode)
    (parts : List SetPart) : (rounds : Nat) → List Char → List SetPart × List Char
  | 0, text => (parts, text)
  | rounds + 1, text =>
      match mode.significant text with
      | '-' :: rest => readLeadingDashes mode (⟨.single '-', 0⟩ :: parts) rounds rest
      | rest => (parts, rest)

/--
Reads the start of a bracket behind its opening sign: whether it is negated,
and the signs that stand for themselves there.
-/
def readBracketStart
    (mode : Mode)
    (text : List Char) : Except PatternError (Bool × List SetPart × List Char) :=
  let (negated, inner) :=
    match mode.significant text with
    | '^' :: rest => (true, rest)
    | rest => (false, rest)
  match readLeadingDashes mode [] inner.length inner with
  | (_, []) => .error .unclosedSet
  | ([], ']' :: rest) => .ok (negated, [⟨.single ']', 0⟩], rest)
  | (parts, rest) => .ok (negated, parts, rest)

/-- Reads a single element of a bracket. -/
def readSetAtom
    (table : PropertyTable)
    (mode : Mode) : List Char → Except PatternError (Atom × List Char)
  | [] => .error .unclosedSet
  | '\\' :: rest => readEscape table mode rest
  | character :: rest => .ok (.literal character, rest)

/-- The characters that an element stands for in a bracket. -/
def Atom.inBracket (mode : Mode) : Atom → Except PatternError CharSet
  | .literal character =>
      if mode.admits character then .ok (.single character) else .error .beyondAscii
  | .oneOf set => .ok set
  | .place _ => .error .badSetElement

/-- The characters from one element of a bracket to another one. -/
def Atom.upTo (mode : Mode) : (first last : Atom) → Except PatternError CharSet
  | .literal low, .literal high =>
      if high < low then .error .badRange
      else if mode.admits low && mode.admits high then .ok (.range low high)
      else .error .beyondAscii
  | _, _ => .error .badRange

/-- Reads an element of a bracket, or a range between two characters. -/
def readSetRange
    (table : PropertyTable)
    (mode : Mode)
    (text : List Char) : Except PatternError (SetPart × List Char) := do
  let (first, afterFirst) ← readSetAtom table mode text
  match mode.significant afterFirst with
  | [] => throw .unclosedSet
  | '-' :: rest =>
      let ahead := mode.signAhead? rest
      if ahead = some ']' || ahead = some '-' then
        return (⟨← first.inBracket mode, 0⟩, '-' :: rest)
      else
        let (last, afterLast) ← readSetAtom table mode (mode.significant rest)
        return (⟨← first.upTo mode last, 0⟩, afterLast)
  | rest => return (⟨← first.inBracket mode, 0⟩, rest)

/-- Reads a bracketed set from its opening bracket on. -/
def readBracketSet
    (table : PropertyTable)
    (mode : Mode) :
    (rounds : Nat) → List SetFrame → List SetPart → List Char →
      Except PatternError (SetPart × List Char)
  | 0, _, _, _ => .error .unclosedSet
  | rounds + 1, frames, parts, text =>
      match mode.significant text with
      | [] => .error .unclosedSet
      | '[' :: rest =>
          match if frames.isEmpty then none else readNamedSet? rest with
          | some (negated, named, tail) => do
              let set ← mode.negatedIf negated (mode.closed named)
              readBracketSet table mode rounds frames (⟨set, 0⟩ :: parts) tail
          | none => do
              let (negated, inner, tail) ← readBracketStart mode rest
              readBracketSet table mode rounds (.bracket negated parts :: frames) inner tail
      | ']' :: rest =>
          match applyPending mode (SetPart.join parts) frames with
          | (whole, .bracket negated outer :: below) => do
              let set ← mode.negatedIf negated (mode.closed whole.set)
              let part : SetPart := ⟨set, whole.depth + 1⟩
              if below.isEmpty then return (part, rest)
              else readBracketSet table mode rounds below (part :: outer) rest
          | _ => .error .unclosedSet
      | '&' :: '&' :: rest =>
          let (left, below) := applyPending mode (SetPart.join parts) frames
          readBracketSet table mode rounds (.operation .intersection left :: below) [] rest
      | '-' :: '-' :: rest =>
          let (left, below) := applyPending mode (SetPart.join parts) frames
          readBracketSet table mode rounds (.operation .difference left :: below) [] rest
      | '~' :: '~' :: rest =>
          let (left, below) := applyPending mode (SetPart.join parts) frames
          readBracketSet table mode rounds (.operation .symmetricDifference left :: below) []
            rest
      | inner => do
          let (part, rest) ← readSetRange table mode inner
          readBracketSet table mode rounds frames (part :: parts) rest

end CallScript.Pattern
