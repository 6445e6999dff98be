import CallScript.Pattern.Thread

/-!
# Matching at a place

An expression is matched character by character; the threads alive at a place
are kept in the order of preference.  The main definition is `advance`: the
length of the preferred match of a list of threads.  It recurses on the text
alone.
-/

namespace CallScript.Pattern

/-- The threads that are left after a character. -/
def threadsOver (character : Char) (steps : List Step) : List Thread :=
  (steps.filter (·.set.contains character)).map (·.remaining)

/--
The length of the preferred match of a list of threads at the start of a text,
when there is one.  The steps that are left over in front of the end of a match
are preferred to it whenever they lead to a match.
-/
def advance
    (depth : Nat)
    (threads : List Thread)
    (before : Option Char) : List Char → Option Nat
  | [] =>
      let reached := Frontier.ofThreads before none depth 0 threads
      if reached.ends then some 0 else none
  | character :: rest =>
      let reached := Frontier.ofThreads before (some character) depth 0 threads
      let left := threadsOver character reached.steps
      let onward := if left.isEmpty then none else advance depth left (some character) rest
      match onward with
      | some length => some (length + 1)
      | none => if reached.ends then some 0 else none

/-- The length of the preferred match of an expression at the start of a text. -/
def Expr.matchLength? (expr : Expr) (before : Option Char) (text : List Char) : Option Nat :=
  advance expr.depth [Thread.ofExpr expr] before text

end CallScript.Pattern
