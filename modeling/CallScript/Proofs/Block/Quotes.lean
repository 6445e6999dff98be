import CallScript.Proofs.Block.Literals
import CallScript.Proofs.Scan.Strictness

/-!
# Quotes outside literals

A strict scan by the rules of the language fails on a quote that stands in a gap.
The string literals of a text are found by a search of their own, as for a block.
Both agree about every quote, not only about the literals: each literal that the
search finds is a span of the scan at the same place and takes two quotes, and
outside the literals only gaps hold quotes.  The main statement is
`Grammar.scan_strict_builtIn`.
-/

namespace CallScript

open CallScript.Lexer
open CallScript.Pattern
open CallScript.Text

/-- The place lies inside the hit. -/
def Pattern.Hit.Covers (hit : Hit) (place : Nat) : Prop :=
  hit.skipped.length ≤ place ∧ place < hit.passed.length

namespace Block

/-- The string literals of a text, each with all the text in front of it. -/
def placedLiterals (text : List Char) : List Hit :=
  Hit.placedBehind [] (literalExpr.hitsIn text).1

theorem literals_eq_placedLiterals
    (body : String) :
    (ofBody body).literals =
      (placedLiterals body.toList).map fun hit => String.ofList hit.matched := by
  rw [ofBody, Expr.matchesIn, placedLiterals, ← Hit.map_matched_placedBehind [], List.map_map]
  rfl

/-- The place holds the first quote of the text that no string literal covers. -/
structure IsFirstQuoteOutside (text : List Char) (place : Nat) : Prop where
  /-- There is a quote. -/
  quote : text[place]? = some '"'
  /-- No literal covers it. -/
  outside : ∀ literal ∈ placedLiterals text, ¬ literal.Covers place
  /-- Every earlier quote is covered by a literal. -/
  first :
    ∀ earlier < place,
      text[earlier]? = some '"' → ∃ literal ∈ placedLiterals text, literal.Covers earlier

end Block

theorem Lexer.Reads.count_quote
    {source : List Char}
    {kind : String}
    {text : List Char}
    (reads : Reads source kind text) :
    text.count '"' = if kind = stringKind then 2 else 0 := by
  by_cases isString : kind = stringKind
  · rcases reads.of_stringKind isString with ⟨rest, body, -, rfl, closed⟩
    rcases literalBody?_eq_some.1 closed with ⟨inner, behind, -, members, rfl, -⟩
    have none : inner.count '"' = 0 := by
      refine List.count_eq_zero.2 fun inside => ?_
      have member := members _ inside
      rw [isLiteralChar_quote] at member
      cases member
    rw [if_pos isString, List.count_cons_self, List.count_append, none, List.count_singleton_self]
  · rw [if_neg isString]
    exact List.count_eq_zero.2 (reads.quote_notMem isString)

namespace Span

/-- Of the hits, string literals hold two quotes and the others none. -/
def KeepsQuotes : Span → Prop
  | .gap _ => True
  | .hit kind text => text.count '"' = if kind = stringKind then 2 else 0

/-- The number of quotes in the gaps. -/
def openQuotes : List Span → Nat
  | [] => 0
  | .gap text :: spans => text.count '"' + openQuotes spans
  | .hit _ _ :: spans => openQuotes spans

/-- The string literals among spans behind a text, each with all the text in front of it. -/
def literals (passed : List Char) : List Span → List Hit
  | [] => []
  | .gap text :: spans => literals (passed ++ text) spans
  | .hit kind text :: spans =>
      if kind = stringKind then ⟨passed, text⟩ :: literals (passed ++ text) spans
      else literals (passed ++ text) spans

theorem hasOpenQuote_iff
    {spans : List Span} :
    HasOpenQuote spans ↔ openQuotes spans ≠ 0 := by
  induction spans with
  | nil => simp [HasOpenQuote, openQuotes]
  | cons span spans ih =>
      rw [hasOpenQuote_cons, ih]
      cases span with
      | gap text =>
          have counted : text.count '"' ≠ 0 ↔ '"' ∈ text := by
            rw [ne_eq, List.count_eq_zero, not_not]
          simp only [openQuotes, Span.gap.injEq, exists_eq_left', ← counted]
          omega
      | hit kind text => simp [openQuotes]

section Quotes

variable
    {spans : List Span}
    (keeps : ∀ span ∈ spans, span.KeepsQuotes)
    (passed : List Char)

include keeps

/-- Two quotes belong to each literal, and the others stand in gaps. -/
theorem count_joined :
    (joined spans).count '"' = openQuotes spans + 2 * (literals passed spans).length := by
  induction spans generalizing passed with
  | nil => rfl
  | cons span spans ih =>
      rw [List.forall_mem_cons] at keeps
      have later := ih keeps.2 (passed ++ span.text)
      rw [joined_cons, List.count_append, later]
      cases span with
      | gap text => simp only [openQuotes, literals, Span.text]; omega
      | hit kind text =>
          have counted : text.count '"' = if kind = stringKind then 2 else 0 := keeps.1
          simp only [openQuotes, literals, Span.text, counted]
          split
          · rw [List.length_cons]
            omega
          · omega

/-- Among spans without open quotes, every quote lies inside a literal. -/
theorem exists_covers
    (clean : ¬ HasOpenQuote spans)
    {place : Nat}
    (quote : (joined spans)[place]? = some '"') :
    ∃ literal ∈ literals passed spans, literal.Covers (passed.length + place) := by
  induction spans generalizing passed place with
  | nil => simp at quote
  | cons span spans ih =>
      rw [List.forall_mem_cons] at keeps
      rw [hasOpenQuote_cons, not_or] at clean
      rw [joined_cons] at quote
      by_cases here : place < span.text.length
      · rw [List.getElem?_append_left here] at quote
        have inside := List.mem_of_getElem? quote
        cases span with
        | gap text => exact absurd ⟨text, rfl, inside⟩ clean.1
        | hit kind text =>
            have counted : text.count '"' = if kind = stringKind then 2 else 0 := keeps.1
            by_cases isString : kind = stringKind
            · refine ⟨⟨passed, text⟩, by simp [literals, isString], Nat.le_add_right _ _, ?_⟩
              simpa [Hit.passed, Span.text] using here
            · rw [if_neg isString, List.count_eq_zero] at counted
              exact absurd inside counted
      · rw [List.getElem?_append_right (Nat.le_of_not_lt here)] at quote
        rcases ih keeps.2 (passed ++ span.text) clean.2 quote with ⟨literal, listed, covers⟩
        have shifted :
            (passed ++ span.text).length + (place - span.text.length) = passed.length + place := by
          rw [List.length_append]
          omega
        rw [shifted] at covers
        cases span with
        | gap text => exact ⟨literal, listed, covers⟩
        | hit kind text =>
            refine ⟨literal, ?_, covers⟩
            rw [literals]
            split
            · exact List.mem_cons_of_mem _ listed
            · exact listed

end Quotes

/-- A literal stands behind the text in front of the spans and inside what the spans make up. -/
theorem prefix_of_mem_literals
    {spans : List Span}
    {passed : List Char}
    {literal : Hit}
    (listed : literal ∈ literals passed spans) :
    passed <+: literal.skipped ∧ literal.passed <+: passed ++ joined spans := by
  induction spans generalizing passed with
  | nil => cases listed
  | cons span spans ih =>
      have later (listed : literal ∈ literals (passed ++ span.text) spans) :
          passed <+: literal.skipped ∧ literal.passed <+: passed ++ joined (span :: spans) := by
        have inside := ih listed
        rw [List.append_assoc, ← joined_cons] at inside
        exact ⟨(List.prefix_append _ _).trans inside.1, inside.2⟩
      cases span with
      | gap text => exact later listed
      | hit kind text =>
          rw [literals] at listed
          split at listed
          · rcases List.mem_cons.1 listed with rfl | listed
            · refine ⟨List.prefix_rfl, ?_⟩
              rw [joined_cons, ← List.append_assoc]
              exact List.prefix_append _ _
            · exact later listed
          · exact later listed

@[simp]
theorem literals_append
    (passed : List Char)
    (front back : List Span) :
    literals passed (front ++ back) =
      literals passed front ++ literals (passed ++ joined front) back := by
  induction front generalizing passed with
  | nil => simp [literals]
  | cons span front ih =>
      cases span with
      | gap text => simp [literals, ih, Span.text]
      | hit kind text =>
          simp only [List.cons_append, literals, ih, joined_cons, Span.text, List.append_assoc]
          split
          · rfl
          · rfl

end Span

section FirstOpenQuote

variable
    {spans : List Span}
    {before after : List Char}
    (first : FirstOpenQuote spans before after)

include first

/-- An open quote stands in a gap, so no literal covers it. -/
theorem FirstOpenQuote.not_covers :
    ∀ literal ∈ Span.literals [] spans, ¬ literal.Covers before.length := by
  cases first with
  | @inGap front back passed rest frontClean passedClean =>
      rw [Span.literals_append, List.nil_append, Span.literals]
      rintro literal listed ⟨low, high⟩
      rw [List.length_append] at low high
      rcases List.mem_append.1 listed with inFront | inBack
      · have inside := (Span.prefix_of_mem_literals inFront).2.length_le
        rw [List.nil_append] at inside
        omega
      · have behind := (Span.prefix_of_mem_literals inBack).1.length_le
        simp only [List.length_append, List.length_cons] at behind
        omega

/-- In front of the first open quote, every quote lies inside a literal. -/
theorem FirstOpenQuote.exists_covers
    (keeps : ∀ span ∈ spans, span.KeepsQuotes)
    {earlier : Nat}
    (less : earlier < before.length)
    (quote : (Span.joined spans)[earlier]? = some '"') :
    ∃ literal ∈ Span.literals [] spans, literal.Covers earlier := by
  cases first with
  | @inGap front back passed rest frontClean passedClean =>
      rw [List.length_append] at less
      rw [Span.joined_append] at quote
      rw [List.forall_mem_append] at keeps
      rw [Span.literals_append]
      by_cases inFront : earlier < (Span.joined front).length
      · rw [List.getElem?_append_left inFront] at quote
        rcases Span.exists_covers keeps.1 [] frontClean quote with ⟨literal, listed, covers⟩
        rw [List.length_nil, Nat.zero_add] at covers
        exact ⟨literal, List.mem_append_left _ listed, covers⟩
      · have inPassed : earlier - (Span.joined front).length < passed.length := by
          omega
        rw [List.getElem?_append_right (Nat.le_of_not_lt inFront), Span.joined_cons, Span.text,
          List.append_assoc, List.getElem?_append_left inPassed] at quote
        exact absurd (List.mem_of_getElem? quote) passedClean

end FirstOpenQuote

namespace Grammar

/-- What a find matches is what the lexer reads there. -/
theorem reads_of_nextFind?
    {before : Option Char}
    {source : List Char}
    {find : Find}
    (found : nextFind? builtIn.rules before source = some find) :
    Reads (find.matched ++ find.rest) find.rule.kind find.matched := by
  induction source generalizing before find with
  | nil => simp [nextFind?] at found
  | cons character rest ih =>
      simp only [nextFind?] at found
      split at found
      · rename_i rule length chosen
        cases found
        rw [List.take_append_drop]
        exact reads_of_lexeme? (lexeme?_of_ruleAt?_some chosen)
      · rcases Option.map_eq_some_iff.1 found with ⟨later, laterFound, rfl⟩
        have reads := ih laterFound
        exact reads

theorem keepsQuotes_of_mem_spans
    {source : List Char} :
    ∀ span ∈ builtIn.spans source, span.KeepsQuotes := by
  have ofGap (text : List Char) : ∀ span ∈ gapOf text, span.KeepsQuotes := by
    intro span listed
    rw [gapOf] at listed
    split at listed
    · cases listed
    · rw [List.mem_singleton] at listed
      subst listed
      trivial
  induction length : source.length using Nat.strongRecOn generalizing source with
  | ind size ih =>
      cases found : nextFind? builtIn.rules none source with
      | none =>
          rw [spans_of_none found]
          exact ofGap source
      | some find =>
          have shorter : find.rest.length < size := length ▸ length_rest_lt found
          rw [spans_of_some found, List.forall_mem_append, List.forall_mem_cons]
          exact ⟨ofGap find.skipped, (reads_of_nextFind? found).count_quote, ih _ shorter rfl⟩

end Grammar

namespace Block

theorem matchLength?_literalExpr_of_missing
    {character : Char}
    {rest : List Char}
    (missing : character = '"' → literalBody? rest = none)
    (before : Option Char) :
    literalExpr.matchLength? before (character :: rest) = none := by
  by_cases quote : character = '"'
  · subst quote
    have matched := Grammar.matchLength?_stringRule before rest
    rw [missing rfl] at matched
    exact matched
  · exact Grammar.matchLength?_stringRule_other before quote rest

theorem firstHit?_literalExpr_of_some
    {body rest behind : List Char}
    (bodyClosed : literalBody? rest = some body)
    (divided : rest = body ++ behind)
    (before : Option Char)
    (closed : Bool) :
    literalExpr.firstHit? before closed ('"' :: rest) = some (⟨[], '"' :: body⟩, behind) := by
  subst divided
  have matched := Grammar.matchLength?_stringRule before (body ++ behind)
  rw [bodyClosed] at matched
  exact Expr.firstHit?_of_matched (List.cons_ne_nil _ _) matched closed

/-- No literal begins in a text without quotes. -/
theorem firstHit?_literalExpr_append
    {front : List Char}
    (nonempty : front ≠ [])
    (quoteless : '"' ∉ front)
    (before : Option Char)
    (closed : Bool)
    (rest : List Char) :
    literalExpr.firstHit? before closed (front ++ rest) =
      (literalExpr.firstHit? (lastOr before front) false rest).map fun (hit, tail) =>
        (hit.behind front, tail) := by
  have opened : (closed && front.isEmpty) = false := by
    simp [nonempty]
  rw [← opened]
  apply Expr.firstHit?_append_of_unmatched
  rintro passed character behind rfl
  apply matchLength?_literalExpr_of_missing
  rintro rfl
  simp at quoteless

/-- Where no rule matches any more, no literal begins. -/
theorem firstHit?_literalExpr_of_nextFind?_none
    {place : Option Char}
    {source : List Char}
    (missing : Grammar.nextFind? Grammar.builtIn.rules place source = none)
    (before : Option Char)
    (closed : Bool) :
    literalExpr.firstHit? before closed source = none := by
  induction source generalizing place before closed with
  | nil =>
      have unmatched : literalExpr.matchLength? before [] = none :=
        Grammar.matchLength?_stringRule_nil before
      simp only [Expr.firstHit?, unmatched]
  | cons character rest ih =>
      simp only [Grammar.nextFind?] at missing
      split at missing
      · cases missing
      · rename_i unchosen
        have unread := Grammar.lexeme?_of_ruleAt?_none unchosen
        have noLiteral : character = '"' → literalBody? rest = none := by
          rintro rfl
          simpa [lexeme?] using unread
        rw [Expr.firstHit?_of_unmatched (matchLength?_literalExpr_of_missing noLiteral before),
          ih (Option.map_eq_none_iff.1 missing)]
        rfl

/-- The next match of a rule is the first literal, or else lies in front of it. -/
theorem firstHit?_literalExpr_of_nextFind?
    {place : Option Char}
    {source : List Char}
    {find : Grammar.Find}
    (found : Grammar.nextFind? Grammar.builtIn.rules place source = some find)
    (before : Option Char)
    (closed : Bool) :
    (find.rule.kind = stringKind ∧
        literalExpr.firstHit? before closed source =
          some (⟨find.skipped, find.matched⟩, find.rest)) ∨
      (find.rule.kind ≠ stringKind ∧
        literalExpr.firstHit? before closed source =
          (literalExpr.firstHit? (lastOr before (find.skipped ++ find.matched)) false
              find.rest).map fun (hit, tail) =>
            (hit.behind (find.skipped ++ find.matched), tail)) := by
  induction source generalizing place before closed find with
  | nil => simp [Grammar.nextFind?] at found
  | cons character rest ih =>
      simp only [Grammar.nextFind?] at found
      split at found
      · rename_i rule length chosen
        cases found
        have reads := reads_of_lexeme? (Grammar.lexeme?_of_ruleAt?_some chosen)
        have divided := List.take_append_drop length (character :: rest)
        by_cases isString : rule.kind = stringKind
        · refine .inl ⟨isString, ?_⟩
          rcases reads.of_stringKind isString with ⟨others, body, starts, taken, bodyClosed⟩
          cases starts
          rw [taken, List.cons_append, List.cons.injEq] at divided
          simp only [taken]
          exact firstHit?_literalExpr_of_some bodyClosed divided.2.symm before closed
        · refine .inr ⟨isString, ?_⟩
          have skipped := firstHit?_literalExpr_append reads.ne_nil (reads.quote_notMem isString)
            before closed ((character :: rest).drop length)
          rw [divided] at skipped
          exact skipped
      · rename_i unchosen
        rcases Option.map_eq_some_iff.1 found with ⟨later, laterFound, rfl⟩
        have unread := Grammar.lexeme?_of_ruleAt?_none unchosen
        have noLiteral : character = '"' → literalBody? rest = none := by
          rintro rfl
          simpa [lexeme?] using unread
        rw [Expr.firstHit?_of_unmatched (matchLength?_literalExpr_of_missing noLiteral before)]
        rcases ih laterFound (some character) false with ⟨isString, first⟩ | ⟨other, first⟩
        · refine .inl ⟨isString, ?_⟩
          rw [first]
          rfl
        · refine .inr ⟨other, ?_⟩
          rw [first, Option.map_map, Grammar.Find.after, List.cons_append, lastOr_cons]
          rfl

/-- The literals of a text are the spans of their kind, at the same places. -/
theorem placedBehind_hitsFrom_literalExpr
    (passed : List Char)
    (before : Option Char)
    (closed : Bool)
    (source : List Char) :
    Hit.placedBehind passed (literalExpr.hitsFrom before closed source).1 =
      Span.literals passed (Grammar.builtIn.spans source) := by
  have ofGap
      (passed text : List Char)
      (spans : List Span) :
      Span.literals passed (Grammar.gapOf text ++ spans) =
        Span.literals (passed ++ text) spans := by
    cases text with
    | nil => simp [Grammar.gapOf]
    | cons character text => rfl
  induction length : source.length using Nat.strongRecOn
    generalizing passed before closed source with
  | ind size ih =>
      cases found : Grammar.nextFind? Grammar.builtIn.rules none source with
      | none =>
          have missing := firstHit?_literalExpr_of_nextFind?_none found before closed
          have noSpan := ofGap passed source []
          rw [List.append_nil] at noSpan
          rw [Expr.hitsFrom_of_none missing, Grammar.spans_of_none found, noSpan]
          rfl
      | some find =>
          have shorter : find.rest.length < size := length ▸ Grammar.length_rest_lt found
          rcases Grammar.nextFind?_isEarliest found with ⟨-, -, -, divided⟩
          rw [Grammar.spans_of_some found, ofGap, Span.literals]
          rcases firstHit?_literalExpr_of_nextFind? found before closed with
            ⟨isString, first⟩ | ⟨other, moved⟩
          · rw [if_pos isString, Expr.hitsFrom_of_some first, Hit.placedBehind,
              ih _ shorter _ _ _ find.rest rfl, Hit.passed, List.append_assoc]
          · rw [← divided] at moved ⊢
            rw [if_neg other, Expr.placedBehind_hitsFrom_append moved,
              ih _ shorter _ _ _ find.rest rfl, List.append_assoc]

theorem placedLiterals_eq_literals
    (text : List Char) :
    placedLiterals text = Span.literals [] (Grammar.builtIn.spans text) :=
  placedBehind_hitsFrom_literalExpr [] none false text

/-- The first quote in a gap is the first one that no literal covers. -/
theorem isFirstQuoteOutside_of_firstOpenQuote
    {text before after : List Char}
    (first : FirstOpenQuote (Grammar.builtIn.spans text) before after) :
    IsFirstQuoteOutside text before.length := by
  have joined := Grammar.builtIn.joined_spans text
  constructor
  · rw [← first.append.trans joined, List.getElem?_append_right (Nat.le_refl _), Nat.sub_self]
    rfl
  · rw [placedLiterals_eq_literals]
    exact first.not_covers
  · intro earlier less quote
    rw [← joined] at quote
    rw [placedLiterals_eq_literals]
    exact first.exists_covers Grammar.keepsQuotes_of_mem_spans less quote

end Block

/--
Under all options, a strict scan by the rules of the language succeeds exactly when
the source holds two quotes for each of its string literals, as they are found for a
block.  Otherwise it reports an unterminated string at the line and the column of
the first quote that no literal covers.
-/
theorem Grammar.scan_strict_builtIn
    (options : ScanOptions)
    (source : String) :
    let text := source.toList
    (Block.ofBody source).literals =
        (Block.placedLiterals text).map (fun literal => String.ofList literal.matched) ∧
      (∀ literal ∈ Block.placedLiterals text, literal.skipped ++ literal.matched <+: text) ∧
      ((∃ tokens, builtIn.scan options.strict source = .ok tokens) ↔
        text.count '"' = 2 * (Block.ofBody source).literals.length) ∧
      ∀ fault,
        builtIn.scan options.strict source = .error fault →
          ∃ place location,
            Block.IsFirstQuoteOutside text place ∧
              IsPlaceBehind (text.take place) location ∧
              fault.diagnostic =
                ⟨.unterminatedString, "string literal is never closed", some location⟩ := by
  intro text
  let spans := builtIn.spans text
  have joined : Span.joined spans = text := builtIn.joined_spans text
  have listed : (Block.ofBody source).literals.length = (Span.literals [] spans).length := by
    rw [Block.literals_eq_placedLiterals, List.length_map, Block.placedLiterals_eq_literals]
  have counted :
      text.count '"' = Span.openQuotes spans + 2 * (Block.ofBody source).literals.length := by
    rw [listed, ← Span.count_joined keepsQuotes_of_mem_spans [], joined]
  have scanned : builtIn.scan options.strict source = options.strict.outcome [] spans := by
    rw [scan_eq_scanFrom, Scanner.scanFrom_eq_outcome]
  rw [scanned]
  refine ⟨Block.literals_eq_placedLiterals source, ?_, ?_⟩
  · intro literal found
    rw [Block.placedLiterals_eq_literals] at found
    have inside := (Span.prefix_of_mem_literals found).2
    rwa [List.nil_append, joined] at inside
  by_cases quoted : HasOpenQuote spans
  · rcases quoted.exists_first with ⟨before, after, first⟩
    have unbalanced := Span.hasOpenQuote_iff.1 quoted
    have divided := first.append.trans joined
    rw [ScanOptions.outcome_of_firstOpenQuote rfl first, List.nil_append]
    constructor
    · constructor
      · rintro ⟨tokens, ⟨⟩⟩
      · intro balanced
        omega
    · rintro fault ⟨⟩
      refine ⟨before.length, Location.behind before,
        Block.isFirstQuoteOutside_of_firstOpenQuote first, ?_, rfl⟩
      rw [← divided, List.take_left]
      exact Location.behind_isPlaceBehind before
  · have balanced : Span.openQuotes spans = 0 := not_not.1 (mt Span.hasOpenQuote_iff.2 quoted)
    rw [options.strict.outcome_of_not_hasOpenQuote quoted]
    constructor
    · constructor
      · intro _
        omega
      · intro _
        exact ⟨_, rfl⟩
    · rintro fault ⟨⟩

/-- The second quote closes a literal; the third one opens none. -/
theorem Grammar.scan_strict_builtIn_third :
    let source := "rem(\"a\"\nb\")"
    ∃ fault place,
      builtIn.scan ScanOptions.standard.strict source = .error fault ∧
        fault.diagnostic.category = .unterminatedString ∧
        Block.IsFirstQuoteOutside source.toList place ∧
        fault.diagnostic.line = (source.toList.take place).count '\n' + 1 := by
  intro source
  obtain ⟨-, -, balanced, reported⟩ := Grammar.scan_strict_builtIn .standard source
  have three : source.toList.count '"' = 3 := by
    decide
  have odd : source.toList.count '"' ≠ 2 * (Block.ofBody source).literals.length := by
    omega
  cases outcome : builtIn.scan ScanOptions.standard.strict source with
  | ok tokens => exact absurd (balanced.1 ⟨tokens, outcome⟩) odd
  | error fault =>
      rcases reported fault outcome with ⟨place, location, first, behind, report⟩
      refine ⟨fault, place, rfl, ?_, first, ?_⟩
      · rw [report]
      · rw [report]
        exact behind.line

end CallScript
