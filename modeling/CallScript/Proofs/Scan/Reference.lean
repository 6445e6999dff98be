import CallScript.Grammar.BuiltIn
import CallScript.Proofs.Scan.Earliest
import CallScript.Proofs.Scan.Labelling

/-!
# The reference tokenization

A round looks at the text behind the cursor.  Every rule proposes the first of
its successive matches that takes a character; the earliest proposal, and among
equals the one declared first, decides.  The round lists the text in front of
the chosen match as a gap, lists the match unless it is white space, and leaves
the text behind the match.  Where there is no proposal, it lists all that is
left as one gap.

The main statement, `Grammar.scan_follows_rounds`, says that a lenient scan
lists exactly what the rounds list, and that from every cursor position on it
goes on as a scan of the remaining text alone.
-/

namespace CallScript

open CallScript.Pattern

/-- What the rules of a grammar propose for a text. -/
def Grammar.proposals (grammar : Grammar) (text : List Char) : List (Option Hit) :=
  grammar.rules.map fun rule => rule.expr.firstTaking? text

/--
One round of the tokenization: the text behind the cursor, the tokens that the
round lists, and the text behind the new cursor.
-/
inductive Round
    (grammar : Grammar)
    (options : ScanOptions) : List Char → List Token → List Char → Prop where
  /-- Nothing is proposed for a text that is not empty. -/
  | unmatched
      {text : List Char}
      (nonempty : text ≠ [])
      (missing : ∀ proposal ∈ grammar.proposals text, proposal = none) :
      Round grammar options text [⟨String.ofList text, options.defaultKind⟩] []
  /-- The earliest proposal decides. -/
  | matched
      {text rest : List Char}
      {index : Nat}
      {rule : Rule}
      {hit : Hit}
      (declared : grammar.rules[index]? = some rule)
      (chosen : IsEarliest (grammar.proposals text) index hit)
      (divided : hit.skipped ++ hit.matched ++ rest = text) :
      Round grammar options text
        ((if hit.skipped = [] then []
            else [⟨String.ofList hit.skipped, options.defaultKind⟩]) ++
          if rule.kind = options.whitespaceKind then []
          else [options.classifier.classify ⟨String.ofList hit.matched, rule.kind⟩])
        rest

/-- Rounds one after another: where they start, what they list, and where the cursor is then. -/
inductive Reaches
    (grammar : Grammar)
    (options : ScanOptions) : List Char → List Token → List Char → Prop where
  /-- No round. -/
  | start {text : List Char} : Reaches grammar options text [] text
  /-- One more round. -/
  | round
      {text middle rest : List Char}
      {listed new : List Token}
      (front : Reaches grammar options text listed middle)
      (last : Round grammar options middle new rest) :
      Reaches grammar options text (listed ++ new) rest

section Rounds

variable
    {grammar : Grammar}
    {options : ScanOptions}

theorem Reaches.head
    {text middle rest : List Char}
    {new listed : List Token}
    (first : Round grammar options text new middle)
    (later : Reaches grammar options middle listed rest) :
    Reaches grammar options text (new ++ listed) rest := by
  induction later with
  | start => simpa using Reaches.start.round first
  | round front last ih =>
      rw [← List.append_assoc]
      exact ih.round last

theorem Grammar.proposals_eq_search?
    (grammar : Grammar)
    (text : List Char) :
    grammar.proposals text = grammar.rules.map fun rule => rule.expr.search? none text := by
  simp only [proposals, Expr.firstTaking?_eq_search?]

theorem Grammar.label_gapOf
    (options : ScanOptions)
    (text : List Char) :
    options.label (gapOf text) =
      if text = [] then [] else [⟨String.ofList text, options.defaultKind⟩] := by
  cases text with
  | nil => rfl
  | cons character rest => rfl

/-- The text behind a cursor that is not at the end has a round, which leaves a shorter text. -/
theorem Round.exists_of_ne_nil
    (grammar : Grammar)
    (options : ScanOptions)
    {text : List Char}
    (nonempty : text ≠ []) :
    ∃ new rest, Round grammar options text new rest ∧ rest.length < text.length := by
  cases found : Grammar.nextFind? grammar.rules none text with
  | none =>
      refine ⟨_, [], .unmatched nonempty ?_, List.length_pos_iff.2 nonempty⟩
      intro proposal member
      rw [Grammar.proposals_eq_search?] at member
      rcases List.mem_map.1 member with ⟨rule, declared, rfl⟩
      exact Grammar.search?_of_nextFind?_none found declared
  | some find =>
      rcases Grammar.nextFind?_isEarliest found with ⟨index, declared, chosen, divided⟩
      rw [← Grammar.proposals_eq_search?] at chosen
      exact ⟨_, find.rest, .matched declared chosen divided, Grammar.length_rest_lt found⟩

/-- The tokens of the spans of a text are what a round lists, then those of the text it leaves. -/
theorem Round.label_spans
    {text rest : List Char}
    {new : List Token}
    (round : Round grammar options text new rest) :
    options.label (grammar.spans text) = new ++ options.label (grammar.spans rest) := by
  cases round with
  | unmatched nonempty missing =>
      cases found : Grammar.nextFind? grammar.rules none text with
      | none =>
          rw [Grammar.spans_of_none found, Grammar.label_gapOf, if_neg nonempty]
          simp
      | some find =>
          rcases Grammar.nextFind?_isEarliest found with ⟨index, declared, chosen, divided⟩
          rw [← Grammar.proposals_eq_search?] at chosen
          have absent := missing _ (List.mem_of_getElem? chosen.proposed)
          simp at absent
  | @matched rest index rule hit declared chosen divided =>
      cases found : Grammar.nextFind? grammar.rules none text with
      | none =>
          have proposed := chosen.proposed
          rw [Grammar.proposals_eq_search?] at proposed
          obtain ⟨other, member, otherFound⟩ :=
            List.mem_map.1 (List.mem_of_getElem? proposed)
          rw [Grammar.search?_of_nextFind?_none found member] at otherFound
          simp at otherFound
      | some find =>
          obtain ⟨findIndex, findDeclared, findChosen, findDivided⟩ :=
            Grammar.nextFind?_isEarliest found
          rw [← Grammar.proposals_eq_search?] at findChosen
          rcases findChosen.unique chosen with ⟨rfl, rfl⟩
          obtain rfl : find.rule = rule := by simpa [findDeclared] using declared
          obtain rfl : find.rest = rest := by simpa using findDivided.trans divided.symm
          rw [Grammar.spans_of_some found, ScanOptions.label_append, ScanOptions.label_cons,
            Grammar.label_gapOf]
          simp [ScanOptions.listing]

/-- The tokens of the spans of a text are what rounds list, then those of the text they leave. -/
theorem Reaches.label_spans
    {text rest : List Char}
    {listed : List Token}
    (rounds : Reaches grammar options text listed rest) :
    options.label (grammar.spans text) = listed ++ options.label (grammar.spans rest) := by
  induction rounds with
  | start => rfl
  | round front last ih => rw [ih, last.label_spans, List.append_assoc]

theorem Reaches.label_spans_nil
    (grammar : Grammar)
    (options : ScanOptions)
    (text : List Char) :
    Reaches grammar options text (options.label (grammar.spans text)) [] := by
  induction length : text.length using Nat.strongRecOn generalizing text with
  | ind size ih =>
      by_cases nonempty : text = []
      · subst nonempty
        simpa using Reaches.start
      · rcases Round.exists_of_ne_nil grammar options nonempty with ⟨new, rest, round, shorter⟩
        rw [round.label_spans]
        exact .head round (ih rest.length (length ▸ shorter) rest rfl)

end Rounds

/--
A lenient scan succeeds and lists what the rounds through the whole source
list, and nothing else does; for the empty source that is nothing.  Behind
every cursor position that rounds reach, it goes on as a scan of the remaining
text alone.
-/
theorem Grammar.scan_follows_rounds
    (grammar : Grammar)
    (options : ScanOptions)
    (lenient : options.strictStrings = false)
    (source : String) :
    ∃ tokens,
      grammar.scan options source = .ok tokens ∧
        (source = "" → tokens = []) ∧
        (∀ listed, Reaches grammar options source.toList listed [] ↔ listed = tokens) ∧
        ∀ front rest,
          Reaches grammar options source.toList front rest →
            ∃ back,
              grammar.scan options (String.ofList rest) = .ok back ∧ tokens = front ++ back := by
  refine ⟨options.label (grammar.spans source.toList), scan_eq_label grammar lenient source,
    ?_, ?_, ?_⟩
  · rintro rfl
    rw [String.toList_empty, spans_nil, ScanOptions.label_nil]
  · intro listed
    constructor
    · intro rounds
      simpa using rounds.label_spans.symm
    · rintro rfl
      exact Reaches.label_spans_nil grammar options source.toList
  · intro front rest rounds
    refine ⟨options.label (grammar.spans rest), ?_, rounds.label_spans⟩
    rw [scan_eq_label grammar lenient, String.toList_ofList]

/-- The rounds through a text with an operator, a number, white space and a gap. -/
theorem Grammar.scan_follows_rounds_operator :
    let options := { ScanOptions.standard with caseInsensitive := false }
    options.strictStrings = false ∧
      ∀ listed,
        Reaches builtIn options "-1 ?".toList listed [] ↔
          listed = [⟨"-", "OPERATOR"⟩, ⟨"1", "NUMBER"⟩, ⟨"?", "INVALID"⟩] := by
  intro options
  refine ⟨rfl, ?_⟩
  obtain ⟨tokens, scanned, -, reached, -⟩ :=
    Grammar.scan_follows_rounds builtIn options rfl "-1 ?"
  have evaluated :
      options.label (builtIn.spans "-1 ?".toList) =
        [⟨"-", "OPERATOR"⟩, ⟨"1", "NUMBER"⟩, ⟨"?", "INVALID"⟩] := by
    decide +kernel
  rw [scan_eq_label builtIn rfl, evaluated] at scanned
  cases scanned
  exact reached

end CallScript
