import CallScript.Proofs.Vocabulary.Reading

/-!
# Labelling the spans of a source

The spans of a source depend on the grammar alone, and a scan treats them one
after another.  The main statement, `Scanner.scanFrom_eq_outcome`, says what becomes of
them: a lenient scan lists each span by itself, and a strict scan does the same
unless a gap holds a double quote.
-/

namespace CallScript

open CallScript.Text

namespace Grammar

theorem spans_of_none
    {grammar : Grammar}
    {source : List Char}
    (missing : nextFind? grammar.rules none source = none) :
    grammar.spans source = gapOf source := by
  rw [spans]
  split
  · rfl
  · simp_all

theorem spans_of_some
    {grammar : Grammar}
    {source : List Char}
    {find : Find}
    (found : nextFind? grammar.rules none source = some find) :
    grammar.spans source =
      gapOf find.skipped ++ .hit find.rule.kind find.matched :: grammar.spans find.rest := by
  rw [spans]
  split
  · simp_all
  · simp_all

@[simp]
theorem spans_nil
    (grammar : Grammar) :
    grammar.spans [] = [] := by
  rw [spans_of_none rfl]
  rfl

end Grammar

namespace ScanOptions

/-- The tokens that a span becomes. -/
def listing (options : ScanOptions) : Span → List Token
  | .gap text => [⟨String.ofList text, options.defaultKind⟩]
  | .hit kind text =>
      if kind = options.whitespaceKind then []
      else [options.classifier.classify ⟨String.ofList text, kind⟩]

def label (options : ScanOptions) (spans : List Span) : List Token :=
  spans.flatMap options.listing

@[simp]
theorem label_nil
    (options : ScanOptions) :
    options.label [] = [] := by
  rfl

@[simp]
theorem label_cons
    (options : ScanOptions)
    (span : Span)
    (spans : List Span) :
    options.label (span :: spans) = options.listing span ++ options.label spans := by
  rfl

@[simp]
theorem label_append
    (options : ScanOptions)
    (front back : List Span) :
    options.label (front ++ back) = options.label front ++ options.label back := by
  simp [label]

theorem listing_hit
    (options : ScanOptions)
    (kind : String)
    (text : List Char) :
    options.listing (.hit kind text) = options.matchTokens options.classifier kind text := by
  rfl

end ScanOptions

/-- The first double quote of a gap, as the fault of a strict scan; hits are never at fault. -/
def ScanOptions.fault?
    (options : ScanOptions)
    (passed : List Char) : Span → Option Fault
  | .gap text =>
      if options.strictStrings && text.contains '"' then
        some (.openQuote (Location.behind (passed ++ text.takeWhile (· ≠ '"'))))
      else none
  | .hit _ _ => none

/-- What becomes of spans that stand behind some text. -/
def ScanOptions.outcome
    (options : ScanOptions)
    (passed : List Char) : List Span → Except Fault (List Token)
  | [] => .ok []
  | span :: spans =>
      match options.fault? passed span with
      | some fault => .error fault
      | none => do
          let later ← options.outcome (passed ++ span.text) spans
          return options.listing span ++ later

theorem ScanOptions.outcome_gapOf_append
    (options : ScanOptions)
    (passed gap : List Char)
    (spans : List Span) :
    options.outcome passed (Grammar.gapOf gap ++ spans) = (do
      let first ← options.gapTokens passed gap
      let later ← options.outcome (passed ++ gap) spans
      return first ++ later) := by
  cases gap with
  | nil =>
      cases outcome : options.outcome passed spans with
      | error fault => simp [Grammar.gapOf, gapTokens, outcome, bind, Except.bind]
      | ok tokens => simp [Grammar.gapOf, gapTokens, outcome, bind, Except.bind, pure, Except.pure]
  | cons character rest =>
      simp only [Grammar.gapOf, List.isEmpty_cons, Bool.false_eq_true, if_false,
        List.cons_append, List.nil_append, outcome, fault?, gapTokens, Span.text, listing]
      cases options.strictStrings && (character :: rest).contains '"' with
      | true => rfl
      | false => rfl

theorem Scanner.scanFrom_eq
    (scanner : Scanner)
    (passed rest : List Char) :
    scanner.scanFrom passed rest =
      match Grammar.nextFind? scanner.grammar.rules none rest with
      | none => scanner.options.gapTokens passed rest
      | some find => do
          let gap ← scanner.options.gapTokens passed find.skipped
          let hit := scanner.options.matchTokens scanner.classifier find.rule.kind find.matched
          let later ← scanner.scanFrom (passed ++ find.skipped ++ find.matched) find.rest
          return gap ++ hit ++ later := by
  rw [scanFrom]
  split
  · simp_all
  · simp_all

/-- A scan goes through the spans of a source and makes of each what its outcome says. -/
theorem Scanner.scanFrom_eq_outcome
    (grammar : Grammar)
    (options : ScanOptions)
    (passed rest : List Char) :
    Scanner.scanFrom ⟨grammar, options, options.classifier⟩ passed rest =
      options.outcome passed (grammar.spans rest) := by
  induction length : rest.length using Nat.strongRecOn generalizing passed rest with
  | ind size ih =>
      rw [scanFrom_eq]
      cases found : Grammar.nextFind? grammar.rules none rest with
      | none =>
          rw [Grammar.spans_of_none found]
          have gapOnly := options.outcome_gapOf_append passed rest []
          rw [List.append_nil] at gapOnly
          rw [gapOnly]
          cases options.gapTokens passed rest with
          | error fault => rfl
          | ok tokens => simp [ScanOptions.outcome, bind, Except.bind, pure, Except.pure]
      | some find =>
          -- The find is a gap and a hit; a fault can only come from the gap.
          have shorter : find.rest.length < size := length ▸ Grammar.length_rest_lt found
          rw [Grammar.spans_of_some found, options.outcome_gapOf_append]
          simp only [ih _ shorter _ find.rest rfl]
          cases options.gapTokens passed find.skipped with
          | error fault => rfl
          | ok first =>
              simp only [ScanOptions.outcome, ScanOptions.fault?, Span.text]
              cases options.outcome (passed ++ find.skipped ++ find.matched)
                  (grammar.spans find.rest) with
              | error fault => rfl
              | ok later =>
                  simp [bind, Except.bind, pure, Except.pure, ScanOptions.listing_hit]

theorem ScanOptions.outcome_eq_ok
    {options : ScanOptions}
    {spans : List Span}
    (faultless : ∀ passed, ∀ span ∈ spans, options.fault? passed span = none)
    (passed : List Char) :
    options.outcome passed spans = .ok (options.label spans) := by
  induction spans generalizing passed with
  | nil => rfl
  | cons span spans ih =>
      have spanFaultless := faultless passed span List.mem_cons_self
      have restFaultless :
          ∀ passed, ∀ other ∈ spans, options.fault? passed other = none :=
        fun passed other member => faultless passed other (List.mem_cons_of_mem _ member)
      rw [outcome, spanFaultless, ih restFaultless]
      rfl

/-- A lenient scan lists the spans of the source and never fails. -/
theorem Grammar.scan_eq_label
    (grammar : Grammar)
    {options : ScanOptions}
    (lenient : options.strictStrings = false)
    (source : String) :
    grammar.scan options source = .ok (options.label (grammar.spans source.toList)) := by
  rw [Grammar.scan_eq_scanFrom, Scanner.scanFrom_eq_outcome]
  apply ScanOptions.outcome_eq_ok
  intro passed span _
  cases span with
  | gap text => simp [ScanOptions.fault?, lenient]
  | hit kind text => rfl

end CallScript
