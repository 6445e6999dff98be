import CallScript.Block
import CallScript.Proofs.Lexer.Cutting
import CallScript.Proofs.Text.Pieces

/-!
# Scanning the fragments of a block

The cuts that lead from a body to its fragments lose white space, parentheses
and braces, and fall where one of these stands.  A body without quotes may be
cut there without a change to its other tokens.  The main statement is
`Block.scan_fragments`.
-/

namespace CallScript.Block

open CallScript.Lexer
open CallScript.Pattern
open CallScript.Text

theorem takesOnly_unitExpr :
    unitExpr.TakesOnly (isBracket · = true) := by
  simp [unitExpr, Expr.choiceOf, Expr.TakesOnly, isBracket]

/-- Cutting at spaces separates tokens only. -/
theorem content_splitOn
    {text : List Char}
    (quoteless : '"' ∉ text) :
    (text.splitOn ' ').flatMap content = content text := by
  rcases exists_splitOn ' ' text with ⟨piece, pieces, cut, rfl⟩
  rw [cut, List.flatMap_cons]
  clear cut
  have space : isBoundary ' ' = true := by decide
  induction pieces generalizing piece with
  | nil => simp
  | cons next pieces ih =>
      rw [List.flatMap_cons, List.mem_append, not_or] at quoteless
      have restQuoteless : '"' ∉ next ++ pieces.flatMap (' ' :: ·) := by
        intro inside
        exact quoteless.2 (List.mem_cons_of_mem _ inside)
      rw [List.flatMap_cons, List.flatMap_cons, List.cons_append,
        content_append_cons quoteless.1 space, ← ih next restQuoteless]

/-- White space at the ends of a text leaves no token. -/
theorem content_trim
    {text : List Char}
    (quoteless : '"' ∉ text) :
    content (trim text) = content text := by
  rcases exists_trim text with ⟨front, behind, frontBlank, behindBlank, whole⟩
  have innerQuoteless : '"' ∉ trim text := fun inside => quoteless (mem_of_mem_trim inside)
  have trimmed :
      content (trim text ++ behind) = content (trim text) := by
    by_cases none : behind = []
    · rw [none, List.append_nil]
    · have cut := content_append_boundaries_append
        (fun character listed => isBoundary_of_isBlank (behindBlank character listed))
        innerQuoteless none []
      simpa using cut
  conv_rhs => rw [whole]
  rw [content_boundaries_append fun character listed =>
      isBoundary_of_isBlank (frontBlank character listed),
    trimmed]

/-- What stands between clusters has all the tokens of a text but its parentheses and braces. -/
theorem content_hitsFrom
    (before : Option Char)
    (closed : Bool)
    {text : List Char}
    (quoteless : '"' ∉ text) :
    (clusterExpr.hitsFrom before closed text).1.flatMap (fun hit => content hit.skipped) ++
        content (clusterExpr.hitsFrom before closed text).2 =
      content text := by
  fun_induction Expr.hitsFrom clusterExpr before closed text with
  | case1 => rfl
  | case2 before closed text hit tail found hits rest further ih =>
      have whole := Expr.append_of_firstHit? found
      have only : clusterExpr.TakesOnly (isBracket · = true) := takesOnly_unitExpr
      have cluster := Expr.matched_of_firstHit? only rfl found
      rw [Hit.passed, List.append_assoc] at whole
      rw [← whole, List.mem_append, List.mem_append, not_or, not_or] at quoteless
      have onward := ih quoteless.2.2
      simp only [further] at onward
      rw [List.flatMap_cons, List.append_assoc, onward, ← whole,
        content_append_boundaries_append
          (fun character listed => isBoundary_of_isBracket (cluster.2 character listed))
          quoteless.1 cluster.1]

theorem content_lastUnit
    (cluster : List Char) :
    (lastUnit cluster).flatMap content = [] := by
  rw [List.flatMap_eq_nil_iff]
  intro unit last
  have matched := List.mem_of_getLast? (Option.mem_toList.1 last)
  rcases List.mem_map.1 matched with ⟨hit, listed, rfl⟩
  have unitMatched :=
    Expr.matched_of_mem_hitsFrom takesOnly_unitExpr rfl none false cluster hit listed
  apply content_boundaries
  intro character inside
  exact isBoundary_of_isBracket (unitMatched.2 character inside)

/-- A chunk and its fragments have the same tokens but for parentheses and braces. -/
theorem content_chunkFragments
    {chunk : List Char}
    (quoteless : '"' ∉ chunk) :
    (chunkFragments chunk).flatMap content = content chunk := by
  have nonemptyOnly (pieces : List (List Char)) :
      (pieces.filter fun piece => !piece.isEmpty).flatMap content = pieces.flatMap content := by
    induction pieces with
    | nil => rfl
    | cons piece pieces ih =>
        cases piece with
        | nil => simpa using ih
        | cons character piece => simpa using ih
  have trimmedQuoteless : '"' ∉ trim chunk := fun inside => quoteless (mem_of_mem_trim inside)
  rw [chunkFragments, nonemptyOnly, cutChunk, Expr.hitsIn, List.flatMap_append,
    List.flatMap_assoc, ← content_trim quoteless,
    ← content_hitsFrom none false trimmedQuoteless]
  simp [content_lastUnit]

theorem fragments_ofBody
    (body : String) :
    blockFragments body = ((chunks body.toList).flatMap chunkFragments).map String.ofList := by
  rw [blockFragments, fragments, ofBody, List.map_flatMap, List.flatMap_def]

/--
When a body holds no quote, its fragments are scanned by the rules of the
language to the same tokens, one fragment after the other, as the body without
its line feeds; only the tokens of parentheses and braces may differ.
-/
theorem scan_fragments
    (body : String)
    (quoteless : '"' ∉ body.toList) :
    ∃ pieces whole,
      (blockFragments body).mapM (Grammar.builtIn.scan .standard) = .ok pieces ∧
        Grammar.builtIn.scan .standard (String.ofList (body.toList.filter (· ≠ '\n'))) =
          .ok whole ∧
        withoutBrackets pieces.flatten = withoutBrackets whole := by
  have scanned :
      Grammar.builtIn.scan .standard = fun source => .ok (Lexer.tokens source.toList) :=
    funext Grammar.scan_standard
  refine ⟨(blockFragments body).map fun fragment => Lexer.tokens fragment.toList, _, ?_,
    congrFun scanned _, ?_⟩
  · rw [scanned]
    exact List.mapM_pure
  · have clean : '"' ∉ body.toList.filter (· ≠ '\n') :=
      fun inside => quoteless (List.mem_of_mem_filter inside)
    have asContent :
        withoutBrackets ((blockFragments body).map fun piece => tokens piece.toList).flatten =
          ((chunks body.toList).flatMap chunkFragments).flatMap content := by
      rw [fragments_ofBody, withoutBrackets, List.filter_flatten, List.map_map, List.map_map,
        List.flatMap_def]
      simp only [Function.comp_def, String.toList_ofList]
      rfl
    rw [asContent, String.toList_ofList, List.flatMap_assoc]
    calc
      (chunks body.toList).flatMap (fun chunk => (chunkFragments chunk).flatMap content) =
          (chunks body.toList).flatMap content :=
        List.flatMap_congr fun chunk listed =>
          content_chunkFragments fun inside => clean (mem_of_mem_splitOn listed inside)
      _ = content (body.toList.filter (· ≠ '\n')) := content_splitOn clean

theorem scan_fragments_call :
    '"' ∉ "set(x) \n\x7b y\x7d".toList ∧
      ∃ pieces whole,
        (blockFragments "set(x) \n\x7b y\x7d").mapM (Grammar.builtIn.scan .standard) = .ok pieces ∧
          Grammar.builtIn.scan .standard
              (String.ofList ("set(x) \n\x7b y\x7d".toList.filter (· ≠ '\n'))) =
            .ok whole ∧
          withoutBrackets pieces.flatten = withoutBrackets whole :=
  ⟨by decide, scan_fragments "set(x) \n\x7b y\x7d" (by decide)⟩

end CallScript.Block
