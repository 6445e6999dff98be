import CallScript.Pattern.Reader
import CallScript.Pattern.Search
import CallScript.Text.Blank

/-!
# Blocks

The body of a control-flow call is text that holds calls of its own.  It is
cut into fragments for an evaluator: line feeds are removed, the text is cut
at spaces into chunks, and every chunk is trimmed and cut around its
delimiters.  Delimiters that stand side by side form a cluster, of which only
the last unit is kept.  The string literals of the body are listed apart and
stay in the text.
-/

namespace CallScript

open CallScript.Pattern
open CallScript.Text

/-- The fragments of the body of a control-flow call. -/
structure Block where
  /-- The string literals of the body. -/
  literals : List String
  /-- The fragments of each chunk, none of them empty. -/
  lines : List (List String)
  deriving DecidableEq

namespace Block

/-- The pattern of the string literals in a body, as it is written. -/
def literalPattern : String :=
  "\"([a-zA-Z]|\\s|\\d)+\""

/-- The characters inside a string literal of a body. -/
def literalCharSet : CharSet :=
  .union (.union (.range 'a' 'z') (.range 'A' 'Z')) (.union .blank .decimalDigit)

/-- A string literal in a body: letters, white space and digits between two quotes. -/
def literalExpr : Expr :=
  .sequence (.word ['"'])
    (.sequence (.repetition 1 none true (.group 1 (.chars literalCharSet))) (.word ['"']))

set_option maxRecDepth 4000 in
/-- Reading the pattern of string literals as it is written gives its meaning. -/
theorem read_literalPattern
    (table : PropertyTable) :
    Expr.read table literalPattern.toList = .ok literalExpr := by
  rfl

/-- The pattern of a unit among the delimiters, as it is written. -/
def unitPattern : String :=
  "\\(\\\x7b|\\\x7d\\)|\\(|\\)"

/-- A unit among the delimiters: a parenthesis, with the brace that it touches on its inside. -/
def unitExpr : Expr :=
  Expr.choiceOf [.word ['(', '{'], .word ['}', ')'], .word ['('], .word [')']]

/-- The pattern of a cluster of delimiters, as it is written. -/
def clusterPattern : String :=
  "(\\(\\\x7b|\\\x7d\\)|\\(|\\))+"

/-- A cluster of delimiters. -/
def clusterExpr : Expr :=
  .repetition 1 none true (.group 1 unitExpr)

set_option maxRecDepth 4000 in
/-- Reading the patterns of delimiters as they are written gives their meanings. -/
theorem read_delimiterPatterns
    (table : PropertyTable) :
    Expr.read table unitPattern.toList = .ok unitExpr ∧
      Expr.read table clusterPattern.toList = .ok clusterExpr := by
  exact ⟨rfl, rfl⟩

/-- The last unit of a cluster, as a list that is empty when there is none. -/
def lastUnit (cluster : List Char) : List (List Char) :=
  (unitExpr.matchesIn cluster).getLast?.toList

/-- A chunk cut around its clusters, empty pieces included. -/
def cutChunk (chunk : List Char) : List (List Char) :=
  let (hits, tail) := clusterExpr.hitsIn chunk
  hits.flatMap (fun hit => hit.skipped :: lastUnit hit.matched) ++ [tail]

/-- The fragments of a chunk. -/
def chunkFragments (chunk : List Char) : List (List Char) :=
  (cutChunk (trim chunk)).filter fun fragment => !fragment.isEmpty

/-- The chunks of a body: its pieces between spaces, once the line feeds are removed. -/
def chunks (body : List Char) : List (List Char) :=
  (body.filter (· ≠ '\n')).splitOn ' '

/-- Reads the body of a control-flow call. -/
def ofBody (body : String) : Block where
  literals := (literalExpr.matchesIn body.toList).map String.ofList
  lines := (chunks body.toList).map fun chunk => (chunkFragments chunk).map String.ofList

/-- The fragments of all chunks in order. -/
def fragments (block : Block) : List String :=
  block.lines.flatten

end Block

/-- The fragments of the body of a control-flow call. -/
def blockFragments (body : String) : List String :=
  (Block.ofBody body).fragments

end CallScript
