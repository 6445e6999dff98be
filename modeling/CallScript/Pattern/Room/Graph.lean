import CallScript.Pattern.Room.Tally
import CallScript.Text.ByteRanges
import CallScript.Text.Ranges
import Std.Data.HashMap

/-!
# The room of a set of characters

A set within ASCII is one list of byte ranges.  Any other set becomes a graph
over byte ranges.  The graph that reads forwards shares the ends of its paths
and is counted from the last byte of each path to the first; the one that reads
backwards is a bundle of chains that share their beginnings.

What is shared is looked up in a table with a fixed number of slots; where two
parts fall into one slot, only the later one is remembered.
-/

namespace CallScript.Pattern

open CallScript.Text

/-- A step in a graph over bytes: the range of the byte and the state behind it. -/
structure ByteStep where
  /-- The range of the byte. -/
  range : ByteRange
  /-- The number of the state behind the byte. -/
  next : Nat
  deriving DecidableEq

/-- The step as numbers. -/
def ByteStep.numbers (step : ByteStep) : List Nat :=
  [step.range.first, step.range.last, step.next]

/-- A number that spreads lists of numbers evenly. -/
def spread (numbers : List Nat) : UInt64 :=
  numbers.foldl (fun value number => (value ^^^ number.toUInt64) * 1099511628211)
    14695981039346656037

/-- A count that shares states; a slot holds steps and the number of the state with them. -/
abbrev SharedTally := StateT (Std.HashMap UInt64 (List ByteStep × Nat)) Tally

/-- Takes a state for steps, unless their slot holds one with the same steps. -/
def SharedTally.share
    (slot : UInt64)
    (steps : List ByteStep)
    (add : Tally Nat) : SharedTally Nat := do
  let fresh : SharedTally Nat := do
    let number ← add
    modify fun table => table.insert slot (steps, number)
    return number
  match (← get)[slot]? with
  | some (known, number) => if known = steps then return number else fresh
  | none => fresh

/-- The sequences gathered by their first range, as far as neighbours have it in common. -/
def gatherHeads : List (List ByteRange) → List (ByteRange × List (List ByteRange))
  | [] => []
  | [] :: rest => gatherHeads rest
  | (range :: tail) :: rest =>
      match gatherHeads rest with
      | (other, tails) :: groups =>
          if range = other then (range, tail :: tails) :: groups
          else (range, [tail]) :: (other, tails) :: groups
      | [] => [(range, [tail])]

/-- The slots for a graph that reads forwards. -/
def forwardSlots : UInt64 :=
  10000

/-- Counts a graph that reads sequences forwards; the result is its first state. -/
def tallyForward (target : Nat) : (depth : Nat) → List (List ByteRange) → SharedTally Nat
  | 0, _ => return target
  | _ + 1, [] :: _ => return target
  | depth + 1, sequences => do
      let steps ← (gatherHeads sequences).mapM fun (range, tails) => do
        return ⟨range, ← tallyForward target depth tails⟩
      SharedTally.share (spread (steps.flatMap ByteStep.numbers) % forwardSlots) steps
        (Tally.add (rangeSize * steps.length))

/-- The slots for a graph that reads backwards. -/
def backwardSlots : UInt64 :=
  1000

/-- Counts a chain that reads a sequence backwards; the result is its last state. -/
def tallyBackward (target : Nat) : List ByteRange → SharedTally Nat
  | [] => return target
  | range :: ranges => do
      let slot := spread [target, range.first, range.last] % backwardSlots
      tallyBackward (← SharedTally.share slot [⟨range, target⟩] (Tally.add 0)) ranges

/-- Counts a set of characters, given as ranges. -/
def Tally.ofRanges (backward : Bool) (ranges : Ranges) : Tally Unit := do
  if ranges.all fun (_, last) => last < 0x80 then
    addMany 1
    discard (add (rangeSize * ranges.length))
  else
    let sequences := ranges.flatMap fun (first, last) => ByteRange.sequences first last
    if backward then
      addMany 1
      let target ← add 0
      let chains : SharedTally Unit := sequences.forM fun sequence => do
        discard (tallyBackward target sequence)
        extend alternativeSize
      discard (chains.run ∅)
    else
      let target ← add 0
      discard ((tallyForward target 5 sequences).run ∅)

end CallScript.Pattern
