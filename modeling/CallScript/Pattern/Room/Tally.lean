/-!
# Counting room

A pattern is meant to be carried out by two automata over the bytes of a text,
one that reads forwards and one that reads backwards.  Neither is built, but
their states and the lists in them are counted, because a pattern is refused
when one of them would take too much room.

A count is an action that takes room and stops as soon as the limit is passed.
States are numbered in the order in which they are taken.
-/

namespace CallScript.Pattern

/-- The room that has been taken. -/
structure Room where
  /-- The number of states. -/
  states : Nat
  /-- The bytes of the lists that belong to states. -/
  lists : Nat

/-- The bytes of a state without its lists. -/
def stateSize : Nat :=
  32

/-- The bytes that an alternative adds to the list of a state. -/
def alternativeSize : Nat :=
  4

/-- The bytes that a range of bytes adds to the list of a state. -/
def rangeSize : Nat :=
  8

/-- The most bytes that an automaton may take. -/
def roomLimit : Nat :=
  10 * 1024 * 1024

/-- A count of room, which stops at the limit. -/
abbrev Tally := StateT Room Option

namespace Tally

/-- Takes a number of bytes for lists. -/
def extend (bytes : Nat) : Tally Unit := fun room =>
  let taken : Room := { room with lists := room.lists + bytes }
  if stateSize * taken.states + taken.lists ≤ roomLimit then some ((), taken) else none

/-- Takes a state with lists of a number of bytes; the result is the number of the state. -/
def add (bytes : Nat) : Tally Nat := do
  let number := (← get).states
  modify fun room => { room with states := number + 1 }
  extend bytes
  return number

/-- Takes several states without lists. -/
def addMany : (count : Nat) → Tally Unit
  | 0 => pure ()
  | count + 1 => do
      discard (add 0)
      addMany count

/-- Takes a state with two alternatives. -/
def fork : Tally Unit :=
  discard (add (2 * alternativeSize))

/-- Repeats a count. -/
def times (round : Tally Unit) : (count : Nat) → Tally Unit
  | 0 => pure ()
  | count + 1 => do
      round
      times round count

/--
A count as the alternative with a number, which begins at one; zero stands for
no alternative.  Behind the second one, the states around all of them are taken.
-/
def asAlternative (alternative : Nat) (count : Tally Unit) : Tally Unit := do
  count
  if alternative = 2 then addMany 2
  if alternative ≠ 0 then extend alternativeSize

/-- A repetition, given the count of a round and whether each round takes a character. -/
def ofRepetition (least : Nat) (most : Option Nat) (takesChar : Bool) (round : Tally Unit) :
    Tally Unit :=
  match least, most with
  | 0, some 1 => do
      fork
      round
      addMany 1
  | least, some most => do
      if least = 0 then addMany 1 else times round least
      if least < most then
        addMany 1
        times (do fork; round) (most - least)
  | 0, none =>
      if takesChar then do
        fork
        round
      else do
        round
        times fork 2
        addMany 1
  | least + 1, none => do
      times round (least + 1)
      fork

/-- The count stays within the limit. -/
def fits (count : Tally Unit) : Bool :=
  (count.run ⟨0, 0⟩).isSome

end Tally

end CallScript.Pattern
