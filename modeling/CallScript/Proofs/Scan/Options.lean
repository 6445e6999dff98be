import CallScript.Proofs.Scan.Tiling
import CallScript.Proofs.Vocabulary.Words

/-!
# What the options of a scan decide

The options say how the spans of a source are labelled, and nothing else: the
spans are the same for all of them.  `Grammar.scan_labels_spans` says what a
lenient scan makes of each span, whatever the kinds in the options have in
common with each other or with the kinds of the grammar.

The policy by which reserved words are looked for changes the kinds of tokens,
but not the calls that they stand for.  `Grammar.scan_calls` says this of single
tokens and of whole scans, strict ones included.
-/

namespace CallScript

open CallScript.Pattern

/--
The source has one sequence of spans, which tile it, for all options.  A
lenient scan makes a token of the default kind of every gap, leaves out the
hits of the kind for white space, and gives every other hit its own kind, or
the kind of reserved words when the classifier of the options accepts its text
and it is no string literal.
-/
theorem Grammar.scan_labels_spans
    (grammar : Grammar)
    (source : String) :
    ∃ spans,
      IsTiling grammar source.toList spans ∧
        ∀ options : ScanOptions,
          options.strictStrings = false →
            ∃ classifier,
              Classifier.read options.reservedMatch options.caseInsensitive options.stringKind =
                  .ok classifier ∧
                grammar.scan options source =
                  .ok (spans.flatMap fun
                    | .gap text => [⟨String.ofList text, options.defaultKind⟩]
                    | .hit kind text =>
                        if kind = options.whitespaceKind then []
                        else if kind ≠ options.stringKind ∧ classifier.accepts text = true then
                          [⟨String.ofList text, reservedKind⟩]
                        else [⟨String.ofList text, kind⟩]) := by
  refine ⟨grammar.spans source.toList, grammar.isTiling_spans source.toList, ?_⟩
  intro options lenient
  refine ⟨options.classifier, Classifier.read_eq_ofPolicy _ _ _, ?_⟩
  rw [scan_eq_label grammar lenient, ScanOptions.label]
  congr 1
  apply List.flatMap_congr
  intro span _
  cases span with
  | gap text => rfl
  | hit kind text =>
      have literals : options.classifier.stringKind = options.stringKind := rfl
      by_cases dropped : kind = options.whitespaceKind
      · simp [ScanOptions.listing, dropped]
      · by_cases promoted :
            kind ≠ options.stringKind ∧ options.classifier.accepts text = true
        · simp [ScanOptions.listing, Classifier.classify, Classifier.kindOf, literals, dropped,
            promoted]
        · simp [ScanOptions.listing, Classifier.classify, Classifier.kindOf, literals, dropped,
            promoted]

/--
A vocabulary word outside every match is no reserved word, and the kinds of the
options may be kinds of the grammar, here one for two purposes.
-/
theorem Grammar.scan_labels_spans_sharedKinds :
    let grammar : Grammar :=
      ⟨[⟨"WORD", "[a-z]+", .repetition 1 none true (.chars (.range 'a' 'z'))⟩,
        ⟨"DIGIT", "[0-9]", .chars (.range '0' '9')⟩]⟩
    let options :=
      { ScanOptions.standard with
        defaultKind := "WORD"
        whitespaceKind := "DIGIT"
        stringKind := "DIGIT"
        caseInsensitive := false }
    let tokens : List Token := [⟨"set", reservedKind⟩, ⟨" %", "WORD"⟩, ⟨"ab", "WORD"⟩]
    grammar.scan options "set %1ab" = .ok tokens ∧
      ∃ spans,
        IsTiling grammar "set %1ab".toList spans ∧
          ∃ classifier,
            Classifier.read .contains false "DIGIT" = .ok classifier ∧
              tokens =
                spans.flatMap fun
                  | .gap text => [⟨String.ofList text, "WORD"⟩]
                  | .hit kind text =>
                      if kind = "DIGIT" then []
                      else if kind ≠ "DIGIT" ∧ classifier.accepts text = true then
                        [⟨String.ofList text, reservedKind⟩]
                      else [⟨String.ofList text, kind⟩] := by
  intro grammar options tokens
  have scanned : grammar.scan options "set %1ab" = .ok tokens := by
    have evaluated : options.label (grammar.spans "set %1ab".toList) = tokens := by
      decide +kernel
    rw [scan_eq_label grammar rfl, evaluated]
  obtain ⟨spans, tiling, labelled⟩ := Grammar.scan_labels_spans grammar "set %1ab"
  obtain ⟨classifier, words, listed⟩ := labelled options rfl
  rw [scanned] at listed
  exact ⟨scanned, spans, tiling, classifier, words, Except.ok.inj listed⟩

section Calls

variable
    (options : ScanOptions)
    (reservedMatch : ReservedMatch)
    (caseless : Bool)

/-- The options with another policy by which reserved words are looked for. -/
def ScanOptions.withPolicy : ScanOptions :=
  { options with
    reservedMatch := reservedMatch
    caseInsensitive := caseless }

/-- What a token is to a program: its text, and the built-in that it calls. -/
def Token.call (token : Token) : String × Option Builtin :=
  (token.text, token.builtin?)

/-- The call of a classified token depends on no more of the options than their string kind. -/
theorem ScanOptions.call_classify
    (token : Token) :
    (options.classifier.classify token).call =
      (token.text,
        if token.kind ≠ options.stringKind ∨ token.kind = reservedKind then
          Builtin.named? token.text
        else none) := by
  rw [Token.call, classifier, Classifier.builtin?_classify]
  rfl

theorem ScanOptions.map_call_listing
    (span : Span) :
    ((options.withPolicy reservedMatch caseless).listing span).map Token.call =
      (options.listing span).map Token.call := by
  cases span with
  | gap text => rfl
  | hit kind text =>
      by_cases dropped : kind = options.whitespaceKind
      · simp [listing, withPolicy, dropped]
      · have kept : kind ≠ (options.withPolicy reservedMatch caseless).whitespaceKind := dropped
        rw [listing, listing, if_neg dropped, if_neg kept, List.map_singleton,
          List.map_singleton, call_classify, call_classify]
        rfl

theorem Token.map_call_append
    (first : List Token)
    (outcome : Except Fault (List Token)) :
    (do let later ← outcome; return first ++ later : Except Fault (List Token)).map
        (List.map Token.call) =
      (outcome.map (List.map Token.call)).map (first.map Token.call ++ ·) := by
  cases outcome with
  | error fault => rfl
  | ok later => simp [bind, Except.bind, pure, Except.pure, Except.map]

/-- The calls of a scan, or its fault, do not depend on the policy. -/
theorem ScanOptions.map_call_outcome
    (passed : List Char)
    (spans : List Span) :
    ((options.withPolicy reservedMatch caseless).outcome passed spans).map (List.map Token.call) =
      (options.outcome passed spans).map (List.map Token.call) := by
  induction spans generalizing passed with
  | nil => rfl
  | cons span spans ih =>
      have same :
          (options.withPolicy reservedMatch caseless).fault? passed span =
            options.fault? passed span := by
        cases span <;> rfl
      simp only [outcome, same]
      cases options.fault? passed span with
      | some fault => rfl
      | none => simp only [Token.map_call_append, ih, map_call_listing]

/--
The built-in that a token calls behind the classifier is the one that its text
names, unless the token is a string literal that is not of the kind of reserved
words; where the classifier looks for words, and with which regard to case,
does not matter.  So two scans that differ in this policy alone give tokens
with the same texts and the same calls, or fail alike.
-/
theorem Grammar.scan_calls :
    (∀ stringKind,
        ∃ classifier,
          Classifier.read reservedMatch caseless stringKind = .ok classifier ∧
            ∀ token : Token,
              (classifier.classify token).builtin? =
                if token.kind ≠ stringKind ∨ token.kind = reservedKind then
                  Builtin.named? token.text
                else none) ∧
      ∀ (grammar : Grammar) (source : String),
        (grammar.scan (options.withPolicy reservedMatch caseless) source).map
            (List.map Token.call) =
          (grammar.scan options source).map (List.map Token.call) := by
  constructor
  · intro stringKind
    exact ⟨_, Classifier.read_eq_ofPolicy _ _ _, Classifier.builtin?_classify _ _ _⟩
  · intro grammar source
    rw [scan_eq_scanFrom, scan_eq_scanFrom, Scanner.scanFrom_eq_outcome,
      Scanner.scanFrom_eq_outcome, ScanOptions.map_call_outcome]

end Calls

end CallScript
