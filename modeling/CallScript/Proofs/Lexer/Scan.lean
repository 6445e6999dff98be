import CallScript.Proofs.Lexer.Rules
import CallScript.Proofs.Scan.Labelling

/-!
# Scanning is direct lexing

A scan by the rules of the language searches the remaining text for ten
patterns after each match.  The direct lexer never looks ahead of the cursor
but to find the end of what it reads.  Both list the same tokens; the main
statement is `Grammar.scan_builtIn`.
-/

namespace CallScript

open CallScript.Lexer

namespace Lexer

theorem tokensFrom_nil
    (gap : List Char) :
    tokensFrom gap [] = gapTokens gap := by
  rw [tokensFrom]

theorem tokensFrom_of_none
    {character : Char}
    {rest : List Char}
    (unread : lexeme? (character :: rest) = none)
    (gap : List Char) :
    tokensFrom gap (character :: rest) = tokensFrom (gap ++ [character]) rest := by
  rw [tokensFrom]
  split
  · rfl
  · simp_all

theorem tokensFrom_of_some
    {character : Char}
    {rest text behind : List Char}
    {kind : String}
    (read : lexeme? (character :: rest) = some (kind, text))
    (divided : character :: rest = text ++ behind)
    (gap : List Char) :
    tokensFrom gap (character :: rest) =
      gapTokens gap ++ lexemeTokens kind text ++ tokensFrom [] behind := by
  have dropped : (character :: rest).drop text.length = behind := by
    rw [divided, List.drop_left]
  rw [tokensFrom]
  split
  · simp_all
  · rename_i otherKind otherText otherRead
    rw [read] at otherRead
    cases otherRead
    rw [dropped]

end Lexer

namespace Grammar

theorem lexeme?_of_ruleAt?_none
    {before : Option Char}
    {character : Char}
    {rest : List Char}
    (missing : ruleAt? before (character :: rest) builtIn.rules = none) :
    lexeme? (character :: rest) = none := by
  have same := ruleAt?_builtIn before character rest
  rw [missing] at same
  exact Option.map_eq_none_iff.1 same.symm

/-- Where a rule is chosen, the lexer reads the text that the rule matches. -/
theorem lexeme?_of_ruleAt?_some
    {before : Option Char}
    {character : Char}
    {rest : List Char}
    {rule : Rule}
    {length : Nat}
    (chosen : ruleAt? before (character :: rest) builtIn.rules = some (rule, length)) :
    lexeme? (character :: rest) = some (rule.kind, (character :: rest).take length) := by
  have same := ruleAt?_builtIn before character rest
  rw [chosen] at same
  rcases Option.map_eq_some_iff.1 same.symm with ⟨⟨kind, text⟩, read, equal⟩
  obtain ⟨rfl, rfl⟩ : kind = rule.kind ∧ text.length = length := by simpa using equal
  rcases (reads_of_lexeme? read).exists_append with ⟨behind, divided⟩
  rw [read, divided, List.take_left]

/-- The lexer goes on to the next match of a rule, and collects a gap on its way. -/
theorem tokensFrom_eq_nextFind?
    (gap : List Char)
    (before : Option Char)
    (source : List Char) :
    tokensFrom gap source =
      match nextFind? builtIn.rules before source with
      | none => gapTokens (gap ++ source)
      | some find =>
          gapTokens (gap ++ find.skipped) ++ lexemeTokens find.rule.kind find.matched ++
            tokensFrom [] find.rest := by
  -- Without conditions on places in the rules, the character in front plays no part.
  induction source generalizing gap before with
  | nil => rw [tokensFrom_nil, nextFind?, List.append_nil]
  | cons character rest ih =>
      simp only [nextFind?]
      cases chosen : ruleAt? before (character :: rest) builtIn.rules with
      | some pick =>
          rcases pick with ⟨rule, length⟩
          have divided := (List.take_append_drop length (character :: rest)).symm
          rw [tokensFrom_of_some (lexeme?_of_ruleAt?_some chosen) divided]
          simp only [List.append_nil]
      | none =>
          rw [tokensFrom_of_none (lexeme?_of_ruleAt?_none chosen), ih _ (some character)]
          cases nextFind? builtIn.rules (some character) rest with
          | none => simp
          | some find => simp [Find.after]

theorem label_gapOf_standard
    (text : List Char) :
    ScanOptions.standard.label (gapOf text) = gapTokens text := by
  cases text with
  | nil => rfl
  | cons character rest => rfl

theorem listing_hit_standard
    (kind : String)
    (text : List Char) :
    ScanOptions.standard.listing (.hit kind text) = lexemeTokens kind text := by
  have kinds :
      ScanOptions.standard.whitespaceKind = whitespaceKind ∧
        ScanOptions.standard.classifier.stringKind = stringKind :=
    ⟨rfl, rfl⟩
  simp only [ScanOptions.listing, lexemeTokens, Classifier.classify, Classifier.kindOf,
    String.toList_ofList, kinds]
  split
  · rfl
  · split
    · rfl
    · rfl

/-- The spans of a source become the tokens that the lexer reads. -/
theorem label_spans_builtIn
    (source : List Char) :
    ScanOptions.standard.label (builtIn.spans source) = Lexer.tokens source := by
  induction length : source.length using Nat.strongRecOn generalizing source with
  | ind size ih =>
      rw [Lexer.tokens, tokensFrom_eq_nextFind? [] none]
      cases found : nextFind? builtIn.rules none source with
      | none => rw [spans_of_none found, label_gapOf_standard, List.nil_append]
      | some find =>
          have shorter : find.rest.length < size := length ▸ length_rest_lt found
          rw [spans_of_some found, ScanOptions.label_append, ScanOptions.label_cons,
            label_gapOf_standard, listing_hit_standard, ih _ shorter find.rest rfl]
          simp [Lexer.tokens]

theorem scan_standard
    (source : String) :
    builtIn.scan .standard source = .ok (Lexer.tokens source.toList) := by
  rw [scan_eq_label builtIn rfl, label_spans_builtIn]

/--
The rules of the language are read as they are written, whatever properties are
known, and a scan by them under the usual options lists exactly the tokens of the
direct lexer.
-/
theorem scan_builtIn
    (table : Pattern.PropertyTable)
    (source : String) :
    ofEntries table builtIn.entries = .ok builtIn ∧
      builtIn.scan .standard source = .ok (Lexer.tokens source.toList) := by
  exact ⟨ofEntries_builtIn table, scan_standard source⟩

end Grammar

end CallScript
