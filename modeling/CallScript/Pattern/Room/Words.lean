import CallScript.Pattern.Room.Tally

/-!
# The room of a choice between words

Words that are the alternatives of a choice share their beginnings.  Where a
word ends, the words behind it begin a new part, so that the order of
preference is kept.
-/

namespace CallScript.Pattern

/-- What several words form from a place on, given by the bytes that remain of them. -/
structure WordNode where
  /-- The bytes that lead on, each with what remains of the words behind it. -/
  current : List (Nat × List (List Nat))
  /-- The same for the words in front of each word that ends here. -/
  closed : List (List (Nat × List (List Nat)))

namespace WordNode

/-- A part with one more word that begins with a byte. -/
def insertWord (byte : Nat) (tail : List Nat) :
    List (Nat × List (List Nat)) → List (Nat × List (List Nat))
  | [] => [(byte, [tail])]
  | (other, tails) :: part =>
      if byte = other then (other, tails ++ [tail]) :: part
      else (other, tails) :: insertWord byte tail part

/-- The node with one more word. -/
def push (node : WordNode) : List Nat → WordNode
  | [] =>
      if node.current.isEmpty && !node.closed.isEmpty && node.closed.all List.isEmpty then node
      else ⟨[], node.closed ++ [node.current]⟩
  | byte :: tail => { node with current := insertWord byte tail node.current }

/-- The node of a list of words. -/
def ofWords (words : List (List Nat)) : WordNode :=
  words.foldl push ⟨[], []⟩

/-- Counts the states of the node and of those behind it; a node without bytes has none. -/
def tally : (depth : Nat) → WordNode → Tally Unit
  | 0, _ => pure ()
  | depth + 1, node => do
      let used := (node.closed ++ [node.current]).filter fun part => !part.isEmpty
      if used.isEmpty then return
      used.forM fun part => do
        part.forM fun (_, words) => tally depth (ofWords words)
        discard (Tally.add (if part.length < 2 then 0 else rangeSize * part.length))
      discard (Tally.add (alternativeSize * (used.length + node.closed.length)))

end WordNode

/-- Counts a choice between words, given by their bytes. -/
def Tally.ofWords (backward : Bool) (words : List (List Nat)) : Tally Unit := do
  addMany 1
  let words := words.map fun word => if backward then word.reverse else word
  WordNode.tally ((words.map List.length).foldl max 0 + 1) (WordNode.ofWords words)

end CallScript.Pattern
