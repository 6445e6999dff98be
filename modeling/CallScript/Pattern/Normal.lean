import CallScript.Pattern.Expr

/-!
# Normal forms of expressions

The ways to put expressions together that keep them in a normal form.  In it,
a sequence holds no sequence, nothing empty and no two words side by side, a
choice holds no choice, alternatives that are single characters or sets are
one set, sequences that all begin alike share their beginning, a set with one
member is a word, and a repetition of what takes no character has at most one
round.

The form decides in which order a match tries its alternatives and how much
room a pattern takes.
-/

namespace CallScript.Pattern

namespace Expr

/-- One character of a set. -/
def ofSet (set : CharSet) : Expr :=
  match set.only? with
  | some character => .word [character]
  | none => .chars set

/-- One given character, or every character of the same letter when case is ignored. -/
def letter (caseless : Bool) (character : Char) : Expr :=
  if caseless then ofSet (.sameLetter character) else .word [character]

/-- The parts of a sequence with a further one in front. -/
def pushPart (part : Expr) (parts : List Expr) : List Expr :=
  match part, parts with
  | .empty, parts => parts
  | .word first, .word second :: parts => .word (first ++ second) :: parts
  | part, parts => part :: parts

/-- The expressions one after another, in normal form. -/
def inSequence (exprs : List Expr) : Expr :=
  sequenceOf ((exprs.flatMap parts).foldr pushPart [])

/-- The character of a word that has only one. -/
def singleChar? : Expr → Option Char
  | .word [character] => some character
  | _ => none

/-- The set of an expression that is nothing but a set. -/
def set? : Expr → Option CharSet
  | .chars set => some set
  | _ => none

/-- The set that alternatives form when all are single characters, or all are sets. -/
def asSet? (branches : List Expr) : Option CharSet :=
  match branches.mapM singleChar? with
  | some characters => some (.unionOf (characters.map .single))
  | none => (branches.mapM set?).map .unionOf

/-- The two expressions are equal up to the way in which their sets are given. -/
def alike : Expr → Expr → Bool
  | .chars left, .chars right => left.isAlike right
  | .group number body, .group other inner => number == other && body.alike inner
  | .sequence first rest, .sequence other others => first.alike other && rest.alike others
  | .choice first rest, .choice other others => first.alike other && rest.alike others
  | .repetition least most greedy body, .repetition low high greed inner =>
      least == low && most == high && greedy == greed && body.alike inner
  | .empty, .empty => true
  | .word left, .word right => left == right
  | .edge left, .edge right => left == right
  | _, _ => false

/-- How many parts two lists have in common at their start. -/
def sharedLength : List Expr → List Expr → Nat
  | left :: lefts, right :: rights =>
      if left.alike right then sharedLength lefts rights + 1 else 0
  | _, _ => 0

/-- How many parts all alternatives share at their start; only sequences share any. -/
def sharedStart : List Expr → Nat
  | [] => 0
  | branch :: branches =>
      if (branch :: branches).all fun expr => 1 < expr.parts.length then
        (branches.map fun other => sharedLength branch.parts other.parts).foldl min
          branch.parts.length
      else 0

/-- The expressions as alternatives, in normal form; `depth` bounds the shared beginnings. -/
def choiceWithin : (depth : Nat) → List Expr → Expr
  | 0, exprs => choiceOf exprs
  | depth + 1, exprs =>
      let branches := exprs.flatMap branches
      match branches with
      | [] => .chars .empty
      | [branch] => branch
      | first :: _ =>
          match asSet? branches with
          | some set => ofSet set
          | none =>
              let shared := sharedStart branches
              if shared = 0 then choiceOf branches
              else
                let endings := branches.map fun branch => inSequence (branch.parts.drop shared)
                inSequence (first.parts.take shared ++ [choiceWithin depth endings])

/-- The expressions as alternatives, the preferred one first, in normal form. -/
def asChoice (exprs : List Expr) : Expr :=
  choiceWithin (exprs.foldl (fun total expr => total + expr.extent) 1) exprs

/-- The body at least `least` times and at most `most` times, in normal form. -/
def repeated (least : Nat) (most : Option Nat) (greedy : Bool) (body : Expr) : Expr :=
  let least := if body.takesNothing then min least 1 else least
  let most := if body.takesNothing then some (min (most.getD 1) 1) else most
  if least = 0 && most = some 0 then .empty
  else if least = 1 && most = some 1 then body
  else .repetition least most greedy body

end Expr

end CallScript.Pattern
