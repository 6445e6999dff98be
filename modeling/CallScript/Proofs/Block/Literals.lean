import CallScript.Block
import CallScript.Proofs.Lexer.Scan

/-!
# The string literals of a block

The literals of a block are the successive matches of one pattern in the whole
body, whereas a scan starts ten patterns anew behind each of its matches.  Both
meet the same literals: nothing that a scan reads holds a quote but a string
literal.  The main statement is `Block.literals_ofBody`.
-/

namespace CallScript

open CallScript.Pattern
open CallScript.Text

namespace Lexer

/-- The string literals of a text from left to right. -/
def literalsIn : List Char → List (List Char)
  | [] => []
  | character :: rest =>
      match if character = '"' then literalBody? rest else none with
      | none => literalsIn rest
      | some body => ('"' :: body) :: literalsIn (rest.drop body.length)
termination_by source => source.length
decreasing_by
  · exact Nat.lt_succ_self _
  · rw [List.length_drop, List.length_cons]
    omega

theorem literalsIn_nil :
    literalsIn [] = [] := by
  rw [literalsIn]

theorem literalsIn_of_none
    {character : Char}
    {rest : List Char}
    (missing : character = '"' → literalBody? rest = none) :
    literalsIn (character :: rest) = literalsIn rest := by
  have unread : (if character = '"' then literalBody? rest else none) = none := by
    split
    · rename_i quote
      exact missing quote
    · rfl
  rw [literalsIn, unread]

theorem literalsIn_of_some
    {body rest behind : List Char}
    (closed : literalBody? rest = some body)
    (divided : rest = body ++ behind) :
    literalsIn ('"' :: rest) = ('"' :: body) :: literalsIn behind := by
  rw [literalsIn, if_pos rfl, closed]
  simp only [divided, List.drop_left]

/-- No literal begins in a text without quotes. -/
theorem literalsIn_append
    {front : List Char}
    (quoteless : '"' ∉ front)
    (rest : List Char) :
    literalsIn (front ++ rest) = literalsIn rest := by
  induction front with
  | nil => rfl
  | cons character front ih =>
      rw [List.mem_cons, not_or] at quoteless
      have missing :
          character = '"' → literalBody? (front ++ rest) = none :=
        fun quote => absurd quote.symm quoteless.1
      rw [List.cons_append, literalsIn_of_none missing, ih quoteless.2]

theorem delimiterKind?_ne_stringKind
    (character : Char) :
    delimiterKind? character ≠ some stringKind := by
  grind [delimiterKind?, stringKind]

theorem Reads.of_stringKind
    {source : List Char}
    {kind : String}
    {text : List Char}
    (reads : Reads source kind text)
    (isString : kind = stringKind) :
    ∃ rest body,
      source = '"' :: rest ∧ text = '"' :: body ∧ literalBody? rest = some body := by
  cases reads with
  | @literal rest body closed => exact ⟨rest, body, rfl, rfl, closed⟩
  | blank => exact absurd isString (by decide)
  | number => exact absurd isString (by decide)
  | name => exact absurd isString (by decide)
  | @delimiter character rest kind first =>
      exact absurd (isString ▸ first) (delimiterKind?_ne_stringKind character)
  | operator => exact absurd isString (by decide)

theorem quote_notMem_takeWhile
    {member : Char → Bool}
    (quote : member '"' = false)
    (text : List Char) :
    '"' ∉ text.takeWhile member := by
  intro inside
  have kept := List.all_eq_true.1 List.all_takeWhile _ inside
  rw [quote] at kept
  cases kept

/-- Only a string literal holds a quote. -/
theorem Reads.quote_notMem
    {source : List Char}
    {kind : String}
    {text : List Char}
    (reads : Reads source kind text)
    (other : kind ≠ stringKind) :
    '"' ∉ text := by
  cases reads with
  | literal => exact absurd rfl other
  | blank first =>
      rintro (_ | ⟨_, later⟩)
      · exact absurd first (by decide)
      · exact quote_notMem_takeWhile (by decide) _ later
  | number first =>
      rcases number_cases _ with plain | ⟨behind, -, -, pointed⟩
      · rw [plain]
        exact quote_notMem_takeWhile (by decide) _
      · rw [pointed, List.mem_append, List.mem_cons]
        rintro (whole | point | fraction)
        · exact quote_notMem_takeWhile (by decide) _ whole
        · exact absurd point (by decide)
        · exact quote_notMem_takeWhile (by decide) _ fraction
  | name first =>
      rintro (_ | ⟨_, later⟩)
      · exact absurd first (by decide)
      · exact quote_notMem_takeWhile (by decide) _ later
  | delimiter first =>
      rw [List.mem_singleton]
      rintro rfl
      cases first
  | operator first =>
      rintro (_ | ⟨_, later⟩)
      · exact absurd first (by decide)
      · exact quote_notMem_takeWhile (by decide) _ later

def stringTexts (tokens : List Token) : List String :=
  (tokens.filter fun token => token.kind = stringKind).map Token.text

theorem stringTexts_append
    (front back : List Token) :
    stringTexts (front ++ back) = stringTexts front ++ stringTexts back := by
  simp [stringTexts]

theorem stringTexts_gapTokens
    (gap : List Char) :
    stringTexts (gapTokens gap) = [] := by
  have other : ¬ invalidKind = stringKind := by decide
  rw [gapTokens]
  split
  · rfl
  · simp [stringTexts, other]

theorem stringTexts_lexemeTokens
    (kind : String)
    (text : List Char) :
    stringTexts (lexemeTokens kind text) =
      if kind = stringKind then [String.ofList text] else [] := by
  have reserved : ¬ reservedKind = stringKind := by decide
  have blank : ¬ whitespaceKind = stringKind := by decide
  rw [lexemeTokens]
  split
  · rename_i isBlankKind
    rw [isBlankKind, if_neg blank]
    rfl
  · split
    · rename_i promoted
      rw [Bool.and_eq_true, decide_eq_true_eq] at promoted
      simp [stringTexts, reserved, promoted.1]
    · by_cases isString : kind = stringKind
      · simp [stringTexts, isString]
      · simp [stringTexts, isString]

/-- The string literals among the tokens of a text are the literals of the text. -/
theorem stringTexts_tokensFrom
    (gap source : List Char) :
    stringTexts (tokensFrom gap source) = (literalsIn source).map String.ofList := by
  induction length : source.length using Nat.strongRecOn generalizing gap source with
  | ind size ih =>
      cases source with
      | nil =>
          rw [tokensFrom_nil, stringTexts_gapTokens, literalsIn_nil]
          rfl
      | cons character rest =>
          cases read : lexeme? (character :: rest) with
          | none =>
              have missing : character = '"' → literalBody? rest = none := by
                rintro rfl
                simpa [lexeme?] using read
              rw [tokensFrom_of_none read, literalsIn_of_none missing]
              exact ih rest.length (by simp [← length]) _ rest rfl
          | some lexeme =>
              rcases lexeme with ⟨kind, text⟩
              have reads := reads_of_lexeme? read
              rcases reads.exists_append with ⟨behind, divided⟩
              have shorter : behind.length < size := by
                have taken := List.length_pos_iff.2 reads.ne_nil
                rw [← length, divided, List.length_append]
                omega
              rw [tokensFrom_of_some read divided, stringTexts_append, stringTexts_append,
                stringTexts_gapTokens, stringTexts_lexemeTokens, ih _ shorter [] behind rfl]
              -- Anything but a literal holds no quote, and no literal begins inside it.
              by_cases isString : kind = stringKind
              · rcases reads.of_stringKind isString with ⟨rest, body, starts, rfl, closed⟩
                rw [starts] at divided ⊢
                have bodyDivided : rest = body ++ behind := by simpa using divided
                rw [literalsIn_of_some closed bodyDivided, if_pos isString]
                rfl
              · rw [divided, literalsIn_append (reads.quote_notMem isString), if_neg isString]
                rfl

end Lexer

namespace Block

open CallScript.Lexer

/-- At a place of a text there is no literal, or there is one, and the pattern matches it. -/
theorem literalExpr_cases
    (before : Option Char)
    (character : Char)
    (rest : List Char) :
    (literalExpr.matchLength? before (character :: rest) = none ∧
        literalsIn (character :: rest) = literalsIn rest) ∨
      ∃ literal behind,
        literal ≠ [] ∧
          character :: rest = literal ++ behind ∧
          literalExpr.matchLength? before (character :: rest) = some literal.length ∧
          literalsIn (character :: rest) = literal :: literalsIn behind := by
  by_cases quote : character = '"'
  · subst quote
    have matched := Grammar.matchLength?_stringRule before rest
    cases closed : literalBody? rest with
    | none =>
        rw [closed] at matched
        exact .inl ⟨matched, literalsIn_of_none fun _ => closed⟩
    | some body =>
        rcases literalBody?_eq_some.1 closed with ⟨inner, behind, -, -, rfl, divided⟩
        have bodyDivided : rest = inner ++ ['"'] ++ behind := by simp [divided]
        rw [closed] at matched
        refine .inr ⟨'"' :: (inner ++ ['"']), behind, by simp, ?_, matched,
          literalsIn_of_some closed bodyDivided⟩
        rw [bodyDivided, List.cons_append]
  · refine .inl ⟨Grammar.matchLength?_stringRule_other before quote rest, ?_⟩
    exact literalsIn_of_none fun isQuote => absurd isQuote quote

theorem literalsIn_of_firstHit?_none
    {before : Option Char}
    {closed : Bool}
    {text : List Char}
    (missing : literalExpr.firstHit? before closed text = none) :
    literalsIn text = [] := by
  induction text generalizing before closed with
  | nil => exact literalsIn_nil
  | cons character rest ih =>
      simp only [Expr.firstHit?] at missing
      rcases literalExpr_cases before character rest with
        ⟨unmatched, same⟩ | ⟨literal, behind, nonempty, -, matched, -⟩
      · rw [unmatched] at missing
        rw [same]
        exact ih (Option.map_eq_none_iff.1 missing)
      · simp [matched, nonempty] at missing

theorem literalsIn_of_firstHit?
    {before : Option Char}
    {closed : Bool}
    {text tail : List Char}
    {hit : Hit}
    (found : literalExpr.firstHit? before closed text = some (hit, tail)) :
    literalsIn text = hit.matched :: literalsIn tail := by
  induction text generalizing before closed hit tail with
  | nil =>
      have unmatched : literalExpr.matchLength? before [] = none :=
        Grammar.matchLength?_stringRule_nil before
      simp [Expr.firstHit?, unmatched] at found
  | cons character rest ih =>
      rcases literalExpr_cases before character rest with
        ⟨unmatched, same⟩ | ⟨literal, behind, nonempty, divided, matched, first⟩
      · rcases Expr.firstHit?_cons found with ⟨length, chosen, -⟩ | ⟨later, -, laterFound, rfl⟩
        · rw [unmatched] at chosen
          cases chosen
        · rw [same, ih laterFound]
          rfl
      · rcases Expr.firstHit?_cons found with
          ⟨length, chosen, -, rfl, rfl⟩ | ⟨later, notTaking, -⟩
        · rw [matched] at chosen
          cases chosen
          rw [first, divided, List.take_left, List.drop_left]
        · obtain ⟨length, positive⟩ :=
            Nat.exists_eq_succ_of_ne_zero (mt List.length_eq_zero_iff.1 nonempty)
          rw [positive] at matched
          exact absurd matched (notTaking length)

/-- The successive hits in a text are its literals. -/
theorem matched_hitsFrom_literalExpr
    (before : Option Char)
    (closed : Bool)
    (text : List Char) :
    (literalExpr.hitsFrom before closed text).1.map Hit.matched = literalsIn text := by
  fun_induction Expr.hitsFrom literalExpr before closed text with
  | case1 before closed text missing => exact (literalsIn_of_firstHit?_none missing).symm
  | case2 before closed text hit tail found hits rest further ih =>
      simp only [further] at ih
      rw [literalsIn_of_firstHit? found, List.map_cons, ih]

/--
The literals of a block are, in order, the texts of the string literals that a
scan of the body by the rules of the language lists under the usual options.
-/
theorem literals_ofBody
    (body : String) :
    ∃ tokens,
      Grammar.builtIn.scan .standard body = .ok tokens ∧
        (ofBody body).literals =
          (tokens.filter fun token => token.kind = stringKind).map Token.text := by
  refine ⟨Lexer.tokens body.toList, ?_, ?_⟩
  · rw [Grammar.scan_eq_label Grammar.builtIn rfl, Grammar.label_spans_builtIn]
  · have listed := stringTexts_tokensFrom [] body.toList
    rw [ofBody, Expr.matchesIn, Expr.hitsIn, matched_hitsFrom_literalExpr]
    exact listed.symm

end Block

end CallScript
