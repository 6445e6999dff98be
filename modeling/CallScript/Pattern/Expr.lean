import CallScript.Pattern.CharSet
import CallScript.Pattern.Edge

/-!
# Pattern expressions

What a pattern means, freed from how it was written: words, sets of characters
and conditions on places, joined by sequence, ordered choice and repetition.
Repetitions are greedy or lazy.  A group does not change what its body means;
its number tells it apart from every other group of the pattern.
-/

namespace CallScript.Pattern

/-- An expression that a text is matched against. -/
inductive Expr where
  /-- Matches without taking a character. -/
  | empty
  /-- Matches the characters one after another. -/
  | word (characters : List Char)
  /-- Matches one character of the set. -/
  | chars (set : CharSet)
  /-- Matches without taking a character where the condition holds. -/
  | edge (condition : Edge)
  /-- Matches the body. -/
  | group (number : Nat) (body : Expr)
  /-- Matches the first expression, then the rest. -/
  | sequence (first rest : Expr)
  /-- Matches one of two expressions and prefers the first. -/
  | choice (first rest : Expr)
  /-- Matches the body at least `least` times and at most `most` times, if that is given. -/
  | repetition (least : Nat) (most : Option Nat) (greedy : Bool) (body : Expr)
  deriving DecidableEq

namespace Expr

/-- The expressions that a sequence puts one after another. -/
def parts : Expr → List Expr
  | .sequence first rest => first :: rest.parts
  | expr => [expr]

/-- The alternatives of a choice, the preferred one first. -/
def branches : Expr → List Expr
  | .choice first rest => first :: rest.branches
  | expr => [expr]

/-- The expressions one after another. -/
def sequenceOf : List Expr → Expr
  | [] => .empty
  | [expr] => expr
  | expr :: exprs => .sequence expr (sequenceOf exprs)

/-- The expressions as alternatives, the preferred one first. -/
def choiceOf : List Expr → Expr
  | [] => .chars .empty
  | [expr] => expr
  | expr :: exprs => .choice expr (choiceOf exprs)

/-- The least number of characters in a match, when every part of the expression can match. -/
def leastLength? : Expr → Option Nat
  | .empty | .edge _ => some 0
  | .word characters => some characters.length
  | .chars set => if set.ranges.isEmpty then none else some 1
  | .group _ body => body.leastLength?
  | .sequence first rest => do return (← first.leastLength?) + (← rest.leastLength?)
  | .choice first rest => do return min (← first.leastLength?) (← rest.leastLength?)
  | .repetition least _ _ body => do return least * (← body.leastLength?)

/-- Every match of the expression takes a character. -/
def takesChar (expr : Expr) : Bool :=
  expr.leastLength?.any (0 < ·)

/-- No match of the expression takes a character. -/
def takesNothing : Expr → Bool
  | .empty | .edge _ => true
  | .word _ | .chars _ => false
  | .group _ body => body.takesNothing
  | .sequence first rest => first.takesNothing && rest.takesNothing
  | .choice first rest => first.takesNothing && rest.takesNothing
  | .repetition _ most _ body => most.isSome && body.takesNothing

/--
A bound for the number of different situations in a match of the expression,
each round of a repetition counted for itself.
-/
def extent : Expr → Nat
  | .empty | .word _ | .chars _ | .edge _ => 1
  | .group _ body => body.extent + 1
  | .sequence first rest | .choice first rest => first.extent + rest.extent + 1
  | .repetition least most _ body => (most.getD least + 1) * (body.extent + 2) + 2

end Expr

end CallScript.Pattern
