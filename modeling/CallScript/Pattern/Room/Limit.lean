import CallScript.Pattern.Expr
import CallScript.Pattern.Room.Graph
import CallScript.Pattern.Room.Words

/-!
# The room of a pattern

Every repetition of an expression is counted out, and each automaton has to
stay within the limit.  The main definition is `Expr.fits`.  A generous bound
settles the question for all patterns of an ordinary size without a count.
-/

namespace CallScript.Pattern

open CallScript.Text

namespace Expr

/-- The bytes of an expression that is nothing but a word. -/
def wordBytes? : Expr → Option (List Nat)
  | .word characters =>
      some (characters.flatMap fun character => ByteRange.bytesOf character.toNat)
  | _ => none

/--
Counts an expression as the alternative of a choice with a number; the
expressions of a choice are numbered from the first to the last.
-/
def tally (backward : Bool) : (alternative : Nat) → Expr → Tally Unit
  | alternative, .choice first rest =>
      let words? := (Expr.choice first rest).branches.mapM wordBytes?
      match if alternative = 0 then words? else none with
      | some words => Tally.ofWords backward words
      | none => do
          Tally.asAlternative (max alternative 1) (first.tally backward 0)
          rest.tally backward (max alternative 1 + 1)
  | alternative, .empty => .asAlternative alternative (Tally.addMany 1)
  | alternative, .edge _ => .asAlternative alternative (Tally.addMany 1)
  | alternative, .word characters =>
      .asAlternative alternative (Tally.addMany (characters.map Char.utf8Size).sum)
  | alternative, .chars set => .asAlternative alternative (Tally.ofRanges backward set.ranges)
  | alternative, .group _ body => .asAlternative alternative do
      if !backward then Tally.addMany 1
      body.tally backward 0
      if !backward then Tally.addMany 1
  | alternative, .sequence first rest => .asAlternative alternative do
      if backward then
        rest.tally backward 0
        first.tally backward 0
      else
        first.tally backward 0
        rest.tally backward 0
  | alternative, .repetition least most _ body => .asAlternative alternative
      (Tally.ofRepetition least most body.takesChar (body.tally backward 0))

/-- A match of the expression has to begin where the condition holds. -/
def beginsAt (condition : Edge) : Expr → Bool
  | .edge other => other == condition
  | .group _ body => body.beginsAt condition
  | .sequence first rest =>
      first.beginsAt condition || (first.takesNothing && rest.beginsAt condition)
  | .choice first rest => first.beginsAt condition && rest.beginsAt condition
  | .repetition least _ _ body => 0 < least && body.beginsAt condition
  | .empty | .word _ | .chars _ => false

/-- A match of the expression has to end where the condition holds. -/
def endsAt (condition : Edge) : Expr → Bool
  | .edge other => other == condition
  | .group _ body => body.endsAt condition
  | .sequence first rest =>
      rest.endsAt condition || (rest.takesNothing && first.endsAt condition)
  | .choice first rest => first.endsAt condition && rest.endsAt condition
  | .repetition least _ _ body => 0 < least && body.endsAt condition
  | .empty | .word _ | .chars _ => false

/-- Counts the automaton of a whole pattern, whose match may begin anywhere. -/
def tallyWhole (backward : Bool) (expr : Expr) : Tally Unit := do
  let anchored := if backward then expr.endsAt .textEnd else expr.beginsAt .textStart
  if anchored then Tally.addMany 1
  else
    Tally.times Tally.fork 2
    Tally.addMany 1
  (Expr.group 0 expr).tally backward 0
  Tally.addMany 1

/-- A number of bytes that neither automaton of the expression exceeds. -/
def roomBound : Expr → Nat
  | .empty | .edge _ => 32
  | .word characters => 320 * characters.length
  | .chars set => 3360 * set.ranges.length + 128
  | .group _ body => body.roomBound + 64
  | .sequence first rest => first.roomBound + rest.roomBound
  | .choice first rest => first.roomBound + rest.roomBound + 128
  | .repetition least most _ body => (most.getD least + 1) * (body.roomBound + 40) + 256

/-- Neither automaton of the pattern takes more room than there is. -/
def fits (expr : Expr) : Bool :=
  expr.roomBound + 1024 ≤ roomLimit ||
    ((expr.tallyWhole false).fits && (expr.tallyWhole true).fits)

end Expr

end CallScript.Pattern
