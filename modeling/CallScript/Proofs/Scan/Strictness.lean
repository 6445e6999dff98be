import CallScript.Grammar.BuiltIn
import CallScript.Proofs.Scan.Earliest
import CallScript.Proofs.Scan.Labelling
import CallScript.Proofs.Text.Location

/-!
# Strict and lenient scans

A strict scan and a lenient scan cut a source into the same spans.  The strict
one fails at the first quote that stands in a gap, and reports the line and the
column of this quote in the whole source; quotes inside matches do not count.
The main statement, `Grammar.scan_strict_of_lenient`, compares the two scans.
-/

namespace CallScript

open CallScript.Text

def ScanOptions.lenient (options : ScanOptions) : ScanOptions :=
  { options with strictStrings := false }

def ScanOptions.strict (options : ScanOptions) : ScanOptions :=
  { options with strictStrings := true }

/-- The text that spans make up. -/
def Span.joined (spans : List Span) : List Char :=
  (spans.map Span.text).flatten

@[simp]
theorem Span.joined_nil :
    Span.joined [] = [] := by
  rfl

@[simp]
theorem Span.joined_cons
    (span : Span)
    (spans : List Span) :
    Span.joined (span :: spans) = span.text ++ Span.joined spans := by
  rfl

@[simp]
theorem Span.joined_append
    (front back : List Span) :
    Span.joined (front ++ back) = Span.joined front ++ Span.joined back := by
  simp [joined]

/-- Some gap among the spans holds a quote. -/
def HasOpenQuote (spans : List Span) : Prop :=
  ∃ text, Span.gap text ∈ spans ∧ '"' ∈ text

/--
The first quote of the first gap that holds one, by the text in front of it
and the text behind it.
-/
inductive FirstOpenQuote : List Span → List Char → List Char → Prop where
  /-- The gaps in front hold no quote, nor does the gap itself in front of the quote. -/
  | inGap
      {front back : List Span}
      {passed rest : List Char}
      (frontClean : ¬ HasOpenQuote front)
      (passedClean : '"' ∉ passed) :
      FirstOpenQuote (front ++ .gap (passed ++ '"' :: rest) :: back)
        (Span.joined front ++ passed)
        (rest ++ Span.joined back)

theorem hasOpenQuote_cons
    {span : Span}
    {spans : List Span} :
    HasOpenQuote (span :: spans) ↔
      (∃ text, span = .gap text ∧ '"' ∈ text) ∨ HasOpenQuote spans := by
  constructor
  · rintro ⟨text, member, quote⟩
    rcases List.mem_cons.1 member with rfl | later
    · exact .inl ⟨text, rfl, quote⟩
    · exact .inr ⟨text, later, quote⟩
  · rintro (⟨text, rfl, quote⟩ | ⟨text, later, quote⟩)
    · exact ⟨text, List.mem_cons_self, quote⟩
    · exact ⟨text, List.mem_cons_of_mem _ later, quote⟩

/-- What stands in front of and behind an open quote makes up the text of the spans with it. -/
theorem FirstOpenQuote.append
    {spans : List Span}
    {before after : List Char}
    (first : FirstOpenQuote spans before after) :
    before ++ '"' :: after = Span.joined spans := by
  cases first with
  | inGap => simp [Span.text]

/-- A first open quote stays the first one behind a span without open quotes. -/
theorem FirstOpenQuote.cons
    {span : Span}
    {spans : List Span}
    {before after : List Char}
    (clean : ∀ text, span = .gap text → '"' ∉ text)
    (first : FirstOpenQuote spans before after) :
    FirstOpenQuote (span :: spans) (span.text ++ before) after := by
  cases first with
  | @inGap front back passed rest frontClean passedClean =>
      rw [← List.append_assoc, ← Span.joined_cons, ← List.cons_append]
      refine .inGap ?_ passedClean
      rw [hasOpenQuote_cons]
      rintro (⟨text, rfl, quote⟩ | later)
      · exact clean text rfl quote
      · exact frontClean later

theorem HasOpenQuote.exists_first
    {spans : List Span}
    (quoted : HasOpenQuote spans) :
    ∃ before after, FirstOpenQuote spans before after := by
  induction spans with
  | nil =>
      rcases quoted with ⟨text, member, -⟩
      simp at member
  | cons span spans ih =>
      by_cases here : ∃ text, span = .gap text ∧ '"' ∈ text
      · rcases here with ⟨text, rfl, quote⟩
        rcases List.eq_append_cons_of_mem quote with ⟨passed, rest, rfl, passedClean⟩
        have noFront : ¬ HasOpenQuote [] := by
          rintro ⟨text, member, -⟩
          simp at member
        exact ⟨_, _, .inGap noFront passedClean⟩
      · rcases hasOpenQuote_cons.1 quoted with atSpan | later
        · exact absurd atSpan here
        · rcases ih later with ⟨before, after, first⟩
          exact ⟨_, after, first.cons fun text isGap quote => here ⟨text, isGap, quote⟩⟩

theorem ScanOptions.fault?_eq_none
    (options : ScanOptions)
    (passed : List Char)
    {span : Span}
    (clean : ∀ text, span = .gap text → '"' ∉ text) :
    options.fault? passed span = none := by
  cases span with
  | gap text => simp [fault?, clean text rfl]
  | hit kind text => rfl

/-- A strict scan fails at the first open quote. -/
theorem ScanOptions.outcome_of_firstOpenQuote
    {options : ScanOptions}
    (strict : options.strictStrings = true)
    {spans : List Span}
    {before after : List Char}
    (first : FirstOpenQuote spans before after)
    (passed : List Char) :
    options.outcome passed spans = .error (.openQuote (Location.behind (passed ++ before))) := by
  cases first with
  | @inGap front back clean rest frontClean passedClean =>
      induction front generalizing passed with
      | nil =>
          have untilQuote :
              (clean ++ '"' :: rest).takeWhile (fun character => decide (character ≠ '"')) =
                clean := by
            rw [List.takeWhile_append_of_pos]
            · simp
            · intro character member
              rw [decide_eq_true_eq]
              rintro rfl
              exact passedClean member
          simp only [List.nil_append, outcome, fault?, strict, untilQuote, Span.joined_nil]
          simp
      | cons span front ih =>
          rw [hasOpenQuote_cons, not_or] at frontClean
          have spanFaultless :=
            options.fault?_eq_none passed fun text isGap quote =>
              frontClean.1 ⟨text, isGap, quote⟩
          rw [List.cons_append, outcome, spanFaultless, ih _ frontClean.2, Span.joined_cons,
            List.append_assoc, List.append_assoc]
          rfl

/-- Without an open quote, a scan lists the spans, whether it is strict or not. -/
theorem ScanOptions.outcome_of_not_hasOpenQuote
    (options : ScanOptions)
    {spans : List Span}
    (clean : ¬ HasOpenQuote spans)
    (passed : List Char) :
    options.outcome passed spans = .ok (options.label spans) := by
  apply ScanOptions.outcome_eq_ok
  intro passed span member
  apply options.fault?_eq_none
  rintro text rfl quote
  exact clean ⟨text, member, quote⟩

theorem Grammar.joined_spans
    (grammar : Grammar)
    (source : List Char) :
    Span.joined (grammar.spans source) = source := by
  have joinedGap (text : List Char) : Span.joined (gapOf text) = text := by
    cases text with
    | nil => rfl
    | cons character rest => simp [gapOf, Span.text]
  induction length : source.length using Nat.strongRecOn generalizing source with
  | ind size ih =>
      cases found : nextFind? grammar.rules none source with
      | none => rw [spans_of_none found, joinedGap]
      | some find =>
          rcases nextFind?_isEarliest found with ⟨index, -, -, divided⟩
          have shorter : find.rest.length < size := length ▸ length_rest_lt found
          rw [spans_of_some found, Span.joined_append, Span.joined_cons, joinedGap,
            ih _ shorter find.rest rfl, ← List.append_assoc]
          exact divided

/--
Every scanner can be made, and a lenient scan never fails: it lists the spans
of the source, which make it up.  The strict scan fails exactly when some gap
among them holds a quote.  It then reports an unterminated string at the line
and the column of the first such quote, the same as at its distance in bytes
from the start of the source.  Otherwise, it lists what the lenient scan lists.
-/
theorem Grammar.scan_strict_of_lenient
    (grammar : Grammar)
    (options : ScanOptions)
    (source : String) :
    let spans := grammar.spans source.toList
    (∃ scanner, Scanner.ofOptions grammar options = .ok scanner) ∧
      Span.joined spans = source.toList ∧
      grammar.scan options.lenient source = .ok (options.label spans) ∧
      ((∃ fault, grammar.scan options.strict source = .error fault) ↔ HasOpenQuote spans) ∧
      (∀ fault,
        grammar.scan options.strict source = .error fault →
          ∃ before after location,
            FirstOpenQuote spans before after ∧
              before ++ '"' :: after = source.toList ∧
              IsPlaceBehind before location ∧
              fault.diagnostic =
                ⟨.unterminatedString, "string literal is never closed", some location⟩ ∧
              Diagnostic.atByte? .unterminatedString "string literal is never closed" source
                  (String.ofList before).utf8ByteSize =
                some fault.diagnostic) ∧
      (¬ HasOpenQuote spans →
        grammar.scan options.strict source = grammar.scan options.lenient source) := by
  intro spans
  have joined : Span.joined spans = source.toList := grammar.joined_spans source.toList
  have lenientScan : grammar.scan options.lenient source = .ok (options.label spans) :=
    scan_eq_label grammar rfl source
  have strictScan : grammar.scan options.strict source = options.strict.outcome [] spans := by
    rw [scan_eq_scanFrom, Scanner.scanFrom_eq_outcome]
  refine ⟨⟨_, Scanner.ofOptions_eq_ok grammar options⟩, joined, lenientScan, ?_, ?_, ?_⟩
  · rw [strictScan]
    constructor
    · rintro ⟨fault, failed⟩
      by_cases quoted : HasOpenQuote spans
      · exact quoted
      · rw [options.strict.outcome_of_not_hasOpenQuote quoted] at failed
        cases failed
    · intro quoted
      rcases quoted.exists_first with ⟨before, after, first⟩
      exact ⟨_, ScanOptions.outcome_of_firstOpenQuote rfl first []⟩
  · intro fault failed
    rw [strictScan] at failed
    by_cases quoted : HasOpenQuote spans
    · rcases quoted.exists_first with ⟨before, after, first⟩
      have divided : before ++ '"' :: after = source.toList := first.append.trans joined
      rw [ScanOptions.outcome_of_firstOpenQuote rfl first, List.nil_append] at failed
      cases failed
      refine ⟨before, after, Location.behind before, first, divided,
        Location.behind_isPlaceBehind before, rfl, ?_⟩
      rw [Diagnostic.atByte?, ← divided, Location.atByte?_utf8ByteSize]
      rfl
    · rw [options.strict.outcome_of_not_hasOpenQuote quoted] at failed
      cases failed
  · intro clean
    rw [strictScan, lenientScan, options.strict.outcome_of_not_hasOpenQuote clean]
    rfl

/-- The literal of the second line is never closed. -/
theorem Grammar.scan_strict_of_lenient_secondLine :
    let source := "print(\"ok\")\nprint(\"open)"
    ∃ fault,
      builtIn.scan ScanOptions.standard.strict source = .error fault ∧
        fault.diagnostic.category = .unterminatedString ∧
        ∃ before after,
          FirstOpenQuote (builtIn.spans source.toList) before after ∧
            before ++ '"' :: after = source.toList ∧
            fault.diagnostic.line = before.count '\n' + 1 := by
  intro source
  obtain ⟨-, -, -, fails, reported, -⟩ :=
    Grammar.scan_strict_of_lenient builtIn .standard source
  have spans :
      Span.gap "\"".toList ∈ builtIn.spans source.toList := by
    decide +kernel
  rcases fails.2 ⟨_, spans, by decide⟩ with ⟨fault, failed⟩
  rcases reported fault failed with ⟨before, after, location, first, divided, place, report, -⟩
  refine ⟨fault, failed, ?_, before, after, first, divided, ?_⟩
  · rw [report]
  · rw [report]
    exact place.line

end CallScript
