import CallScript.Proofs.Lexer.Lexemes
import CallScript.Proofs.Scan.Reference

/-!
# The order of the rules

The order of the rules of a grammar decides only between matches at one place.
`AreUntied` says that no two proposals of a round begin at one place, and
`Grammar.CursorAt` lists the places at which a scan looks for its next match; a
strict scan gets no further than to the first gap with a quote.  Where the
proposals are untied at every such place, the rules may be declared in any order.

The rules of the language are never tied, because each rule asks for a first
character of its own.  The main statement is `Grammar.scan_perm`.
-/

namespace CallScript

open CallScript.Lexer
open CallScript.Pattern

/-- No two of several proposals begin at the same place. -/
def AreUntied (proposals : List (Option Hit)) : Prop :=
  proposals.Pairwise fun left right =>
    ∀ first ∈ left, ∀ second ∈ right, first.start ≠ second.start

/-- Proposals are untied when they all begin one character later and are untied then. -/
theorem AreUntied.of_after
    {proposals : List (Option Hit)}
    {character : Char}
    (untied : AreUntied (proposals.map (Option.map (Hit.after character)))) :
    AreUntied proposals := by
  refine (List.pairwise_map.1 untied).imp ?_
  intro left right apart first inLeft second inRight sameStart
  refine apart (first.after character) ?_ (second.after character) ?_ ?_
  · exact Option.mem_map_of_mem _ inLeft
  · exact Option.mem_map_of_mem _ inRight
  · exact congrArg Nat.succ sameStart

/-- Of two proposals, the first one is chosen when the second one begins later. -/
theorem IsEarliest.eq_first
    {first second hit : Hit}
    {index : Nat}
    (chosen : IsEarliest [some first, some second] index hit)
    (later : first.start < second.start) :
    hit = first := by
  have least := chosen.earliest 0 first rfl
  have proposed := chosen.proposed
  match index with
  | 0 => simpa using proposed.symm
  | 1 =>
      obtain rfl : second = hit := by simpa using proposed
      omega
  | index + 2 => simp at proposed

/-- The rule takes a character at the start of a text. -/
def Rule.Takes (before : Option Char) (text : List Char) (rule : Rule) : Prop :=
  ∃ length, rule.expr.matchLength? before text = some (length + 1)

namespace Grammar

/--
The text behind the cursor wherever a scan of a source looks for a match.  A
strict scan goes on behind a match only when the gap in front of it holds no quote.
-/
inductive CursorAt
    (grammar : Grammar)
    (options : ScanOptions)
    (source : List Char) : List Char → Prop where
  /-- The scan begins at the start of the source. -/
  | start : CursorAt grammar options source source
  /-- The scan goes on behind the match that is chosen. -/
  | behind
      {text rest : List Char}
      {index : Nat}
      {hit : Hit}
      (front : CursorAt grammar options source text)
      (chosen : IsEarliest (grammar.proposals text) index hit)
      (divided : hit.skipped ++ hit.matched ++ rest = text)
      (closed : options.strictStrings = true → '"' ∉ hit.skipped) :
      CursorAt grammar options source rest

section Places

variable
    {before : Option Char}
    {text : List Char}
    {rule : Rule}

theorem ruleAt?_cons_of_takes
    (takes : rule.Takes before text)
    (rules others : List Rule) :
    ruleAt? before text (rule :: rules) = ruleAt? before text (rule :: others) := by
  rcases takes with ⟨length, taken⟩
  rw [ruleAt?_cons_of_some taken (Nat.succ_pos _), ruleAt?_cons_of_some taken (Nat.succ_pos _)]

theorem ruleAt?_cons_of_not_takes
    (passes : ¬ rule.Takes before text)
    (rules : List Rule) :
    ruleAt? before text (rule :: rules) = ruleAt? before text rules := by
  simp only [ruleAt?]
  split
  · rename_i length taken
    exact absurd ⟨length, taken⟩ passes
  · rfl

/-- Where at most one rule takes a character, the choice does not depend on the order. -/
theorem ruleAt?_perm
    {rules others : List Rule}
    (same : rules.Perm others)
    (alone :
      rules.Pairwise fun left right => ¬ (left.Takes before text ∧ right.Takes before text)) :
    ruleAt? before text rules = ruleAt? before text others := by
  induction same with
  | nil => rfl
  | cons rule same ih =>
      have rest := ih (List.pairwise_cons.1 alone).2
      by_cases takes : rule.Takes before text
      · exact ruleAt?_cons_of_takes takes _ _
      · rw [ruleAt?_cons_of_not_takes takes, ruleAt?_cons_of_not_takes takes, rest]
  | swap first second rules =>
      have notBoth := (List.pairwise_cons.1 alone).1 first List.mem_cons_self
      by_cases firstTakes : first.Takes before text
      · have secondPasses : ¬ second.Takes before text := fun takes => notBoth ⟨takes, firstTakes⟩
        rw [ruleAt?_cons_of_not_takes secondPasses]
        exact ruleAt?_cons_of_takes firstTakes _ _
      · rw [ruleAt?_cons_of_not_takes firstTakes]
        by_cases secondTakes : second.Takes before text
        · exact ruleAt?_cons_of_takes secondTakes _ _
        · rw [ruleAt?_cons_of_not_takes secondTakes, ruleAt?_cons_of_not_takes secondTakes,
            ruleAt?_cons_of_not_takes firstTakes]
  | trans first second ihFirst ihSecond =>
      have swapped := (first.pairwise_iff fun notBoth both => notBoth both.symm).1 alone
      rw [ihFirst alone, ihSecond swapped]

end Places

/-- A rule that takes a character at the start of a text proposes to do so. -/
theorem exists_search?_of_takes
    {before : Option Char}
    {character : Char}
    {rest : List Char}
    {rule : Rule}
    (takes : rule.Takes before (character :: rest)) :
    ∃ hit, rule.expr.search? before (character :: rest) = some hit ∧ hit.start = 0 := by
  rcases takes with ⟨length, taken⟩
  refine ⟨⟨[], (character :: rest).take (length + 1)⟩, ?_, rfl⟩
  simp only [Expr.search?, taken]

/-- A proposal behind the first character is one for the text behind this character. -/
theorem exists_search?_of_start_ne_zero
    {before : Option Char}
    {character : Char}
    {rest : List Char}
    {rule : Rule}
    {hit : Hit}
    (found : rule.expr.search? before (character :: rest) = some hit)
    (behind : hit.start ≠ 0) :
    ∃ inner,
      rule.expr.search? (some character) rest = some inner ∧ hit = inner.after character := by
  have notTaking (length : Nat) :
      rule.expr.matchLength? before (character :: rest) ≠ some (length + 1) := by
    intro taken
    rcases exists_search?_of_takes ⟨length, taken⟩ with ⟨first, firstFound, atStart⟩
    rw [found] at firstFound
    cases firstFound
    exact behind atStart
  rw [Expr.search?_of_notTaking notTaking] at found
  rcases Option.map_eq_some_iff.1 found with ⟨inner, innerFound, rfl⟩
  exact ⟨inner, innerFound, rfl⟩

/-- What is found next does not depend on the order of rules with untied proposals. -/
theorem nextFind?_perm
    {rules others : List Rule}
    (same : rules.Perm others)
    {before : Option Char}
    {text : List Char}
    (untied : AreUntied (rules.map fun rule => rule.expr.search? before text)) :
    nextFind? rules before text = nextFind? others before text := by
  induction text generalizing before with
  | nil => rfl
  | cons character rest ih =>
      have alone :
          rules.Pairwise fun left right =>
            ¬ (left.Takes before (character :: rest) ∧ right.Takes before (character :: rest)) := by
        refine (List.pairwise_map.1 untied).imp ?_
        rintro left right apart ⟨leftTakes, rightTakes⟩
        rcases exists_search?_of_takes leftTakes with ⟨first, found, firstStart⟩
        rcases exists_search?_of_takes rightTakes with ⟨second, secondFound, secondStart⟩
        exact apart first found second secondFound (firstStart.trans secondStart.symm)
      have sameRule := ruleAt?_perm same alone
      simp only [nextFind?, ← sameRule]
      cases chosen : ruleAt? before (character :: rest) rules with
      | some pick => rfl
      | none =>
          -- No rule takes a character here, so every proposal begins later.
          have later :
              (rules.map fun rule => rule.expr.search? before (character :: rest)) =
                (rules.map fun rule => rule.expr.search? (some character) rest).map
                  (Option.map (Hit.after character)) := by
            rw [List.map_map]
            exact List.map_congr_left fun rule declared => search?_of_ruleAt?_none chosen declared
          rw [later] at untied
          rw [ih untied.of_after]

end Grammar

theorem ScanOptions.quoteless_of_gapTokens
    {options : ScanOptions}
    {passed gap : List Char}
    {tokens : List Token}
    (listed : options.gapTokens passed gap = .ok tokens)
    (strict : options.strictStrings = true) :
    '"' ∉ gap := by
  intro quote
  have nonempty : gap.isEmpty = false := by
    cases gap with
    | nil => cases quote
    | cons character rest => rfl
  simp [gapTokens, nonempty, strict, quote] at listed

/-- From every place that it comes to, a scan by reordered rules goes on in the same way. -/
theorem Scanner.scanFrom_perm
    {grammar other : Grammar}
    (same : grammar.rules.Perm other.rules)
    {options : ScanOptions}
    {source : List Char}
    (untied : ∀ text, grammar.CursorAt options source text → AreUntied (grammar.proposals text))
    (classifier : Classifier)
    (passed : List Char)
    {rest : List Char}
    (reached : grammar.CursorAt options source rest) :
    Scanner.scanFrom ⟨grammar, options, classifier⟩ passed rest =
      Scanner.scanFrom ⟨other, options, classifier⟩ passed rest := by
  induction length : rest.length using Nat.strongRecOn generalizing passed rest with
  | ind size ih =>
      have here := untied rest reached
      rw [Grammar.proposals_eq_search?] at here
      rw [scanFrom_eq, scanFrom_eq ⟨other, options, classifier⟩]
      simp only [← Grammar.nextFind?_perm same here]
      cases found : Grammar.nextFind? grammar.rules none rest with
      | none => rfl
      | some find =>
          cases listed : options.gapTokens passed find.skipped with
          | error fault =>
              simp only [listed]
              rfl
          | ok gap =>
              rcases Grammar.nextFind?_isEarliest found with ⟨index, -, chosen, divided⟩
              rw [← Grammar.proposals_eq_search?] at chosen
              have next : grammar.CursorAt options source find.rest :=
                reached.behind chosen divided (ScanOptions.quoteless_of_gapTokens listed)
              have shorter : find.rest.length < size := length ▸ Grammar.length_rest_lt found
              simp only [ih _ shorter _ next rfl]

namespace Grammar

/-- Where a rule of the language takes a character, the direct lexer reads something of its kind. -/
theorem exists_reads_of_takes
    {rule : Rule}
    (declared : rule ∈ builtIn.rules)
    {before : Option Char}
    {character : Char}
    {rest : List Char}
    (takes : rule.Takes before (character :: rest)) :
    ∃ text, Reads (character :: rest) rule.kind text := by
  have ofFirst {first : Prop} [Decidable first] {length taken : Nat}
      (matched : (if first then some length else none) = some taken) : first :=
    (Option.ite_none_right_eq_some.1 matched).1
  have ofSingle {kind pattern : String} {sign : Char}
      (delimiter : delimiterKind? sign = some kind)
      (takes : (singleRule kind pattern sign).Takes before (character :: rest)) :
      ∃ text, Reads (character :: rest) kind text := by
    rcases takes with ⟨length, taken⟩
    obtain rfl := ofFirst ((matchLength?_single sign before character rest).symm.trans taken)
    exact ⟨_, .delimiter delimiter⟩
  simp only [builtIn, List.mem_cons, List.not_mem_nil, or_false] at declared
  rcases declared with rfl | rfl | rfl | rfl | rfl | rfl | rfl | rfl | rfl | rfl
  · rcases takes with ⟨length, taken⟩
    by_cases quote : character = '"'
    · subst quote
      rw [matchLength?_stringRule] at taken
      rcases Option.map_eq_some_iff.1 taken with ⟨body, closed, -⟩
      exact ⟨_, .literal closed⟩
    · rw [matchLength?_stringRule_other before quote] at taken
      cases taken
  · rcases takes with ⟨length, taken⟩
    rw [matchLength?_whitespaceRule] at taken
    exact ⟨_, .blank (ofFirst taken)⟩
  · rcases takes with ⟨length, taken⟩
    rw [matchLength?_numberRule] at taken
    exact ⟨_, .number (ofFirst taken)⟩
  · rcases takes with ⟨length, taken⟩
    rw [matchLength?_barewordRule] at taken
    exact ⟨_, .name (ofFirst taken)⟩
  · exact ofSingle rfl takes
  · exact ofSingle rfl takes
  · exact ofSingle rfl takes
  · exact ofSingle rfl takes
  · exact ofSingle rfl takes
  · rcases takes with ⟨length, taken⟩
    rw [matchLength?_operatorRule] at taken
    exact ⟨_, .operator (ofFirst taken)⟩

/-- Of two different rules of the language, at most one takes a character at a place. -/
theorem pairwise_not_takes_builtIn :
    builtIn.rules.Pairwise fun left right =>
      ∀ before character rest,
        ¬ (left.Takes before (character :: rest) ∧ right.Takes before (character :: rest)) := by
  have distinct : builtIn.rules.Pairwise fun left right => left.kind ≠ right.kind :=
    List.pairwise_map.1 (show builtIn.kinds.Nodup by decide)
  refine distinct.imp_of_mem ?_
  rintro left right leftDeclared rightDeclared apart before character rest ⟨leftTakes, rightTakes⟩
  rcases exists_reads_of_takes leftDeclared leftTakes with ⟨text, reads⟩
  rcases exists_reads_of_takes rightDeclared rightTakes with ⟨otherText, otherReads⟩
  have same := reads.lexeme?.symm.trans otherReads.lexeme?
  exact apart (Prod.mk.inj (Option.some.inj same)).1

/-- Rules that never take a character at one place propose different places. -/
theorem start_ne_of_not_takes
    {left right : Rule}
    (apart :
      ∀ before character rest,
        ¬ (left.Takes before (character :: rest) ∧ right.Takes before (character :: rest)))
    {before : Option Char}
    {text : List Char}
    {first second : Hit}
    (found : left.expr.search? before text = some first)
    (otherFound : right.expr.search? before text = some second) :
    first.start ≠ second.start := by
  intro sameStart
  induction text generalizing before first second with
  | nil => cases found
  | cons character rest ih =>
      by_cases here : first.start = 0
      · have otherHere : second.start = 0 := sameStart.symm.trans here
        exact apart before character rest
          ⟨Expr.takes_of_search?_skipped_nil found here,
            Expr.takes_of_search?_skipped_nil otherFound otherHere⟩
      · have otherBehind : second.start ≠ 0 := fun other => here (sameStart.trans other)
        rcases exists_search?_of_start_ne_zero found here with ⟨inner, innerFound, rfl⟩
        rcases exists_search?_of_start_ne_zero otherFound otherBehind with
          ⟨otherInner, otherInnerFound, rfl⟩
        exact ih innerFound otherInnerFound (Nat.succ.inj sameStart)

theorem areUntied_proposals_builtIn
    (text : List Char) :
    AreUntied (builtIn.proposals text) := by
  rw [proposals_eq_search?]
  refine List.pairwise_map.2 (pairwise_not_takes_builtIn.imp ?_)
  intro left right apart first found second otherFound
  exact start_ne_of_not_takes apart found otherFound

/--
Two grammars with the same rules in any two orders scan a source alike, under
whatever options, provided that no two rules propose matches at the same place
for the text behind any cursor of the scan by the first grammar.  The rules of
the language do so for no text, and hence they scan every source alike in every
order.
-/
theorem scan_perm :
    (∀ (grammar other : Grammar) (options : ScanOptions) (source : String),
        grammar.rules.Perm other.rules →
          (∀ text,
            grammar.CursorAt options source.toList text → AreUntied (grammar.proposals text)) →
            grammar.scan options source = other.scan options source) ∧
      (∀ text, AreUntied (builtIn.proposals text)) ∧
      ∀ (other : Grammar) (options : ScanOptions) (source : String),
        builtIn.rules.Perm other.rules →
          builtIn.scan options source = other.scan options source := by
  have untiedAlike
      (grammar other : Grammar)
      (options : ScanOptions)
      (source : String)
      (same : grammar.rules.Perm other.rules)
      (untied :
        ∀ text,
          grammar.CursorAt options source.toList text → AreUntied (grammar.proposals text)) :
      grammar.scan options source = other.scan options source := by
    rw [scan_eq_scanFrom, scan_eq_scanFrom]
    exact Scanner.scanFrom_perm same untied _ _ .start
  refine ⟨untiedAlike, areUntied_proposals_builtIn, ?_⟩
  intro other options source same
  exact untiedAlike builtIn other options source same fun text _ => areUntied_proposals_builtIn text

/--
Names and the letter `x`, scanned strictly.  Both rules match the `x`, but the scan
ends at the first quote and does not come to a cursor where this is a tie.
-/
theorem scan_perm_strict :
    let options := { ScanOptions.standard with strictStrings := true }
    let grammar : Grammar := ⟨[barewordRule, singleRule "LETTER" "x" 'x']⟩
    let other : Grammar := ⟨[singleRule "LETTER" "x" 'x', barewordRule]⟩
    grammar.rules.Perm other.rules ∧
      (∀ text,
        grammar.CursorAt options "a\" b\"x".toList text → AreUntied (grammar.proposals text)) ∧
      grammar.scan options "a\" b\"x" = other.scan options "a\" b\"x" := by
  intro options grammar other
  have same : grammar.rules.Perm other.rules := .swap _ _ _
  have atStart :
      grammar.proposals "a\" b\"x".toList =
        [some ⟨[], ['a']⟩, some ⟨"a\" b\"".toList, ['x']⟩] := by
    rw [proposals_eq_search?]
    decide +kernel
  have behindName :
      grammar.proposals "\" b\"x".toList =
        [some ⟨"\" ".toList, ['b']⟩, some ⟨"\" b\"".toList, ['x']⟩] := by
    rw [proposals_eq_search?]
    decide +kernel
  have untied (text : List Char) (reached : grammar.CursorAt options "a\" b\"x".toList text) :
      AreUntied (grammar.proposals text) := by
    have places : text = "a\" b\"x".toList ∨ text = "\" b\"x".toList := by
      induction reached with
      | start => exact .inl rfl
      | @behind text rest index hit front chosen divided closed ih =>
          rcases ih with rfl | rfl
          · rw [atStart] at chosen
            obtain rfl := chosen.eq_first (by decide)
            exact .inr (List.append_cancel_left divided)
          · rw [behindName] at chosen
            obtain rfl := chosen.eq_first (by decide)
            exact absurd (closed rfl) (by decide)
    rcases places with rfl | rfl
    · rw [atStart]
      simp [AreUntied, Hit.start]
    · rw [behindName]
      simp [AreUntied, Hit.start]
  exact ⟨same, untied, scan_perm.1 grammar other options _ same untied⟩

end Grammar

end CallScript
