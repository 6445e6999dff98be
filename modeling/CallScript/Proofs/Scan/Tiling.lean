import CallScript.Proofs.Scan.Reference
import CallScript.Proofs.Scan.Strictness

/-!
# Tilings

The spans of a source tile it: they stand one behind another, none of them is
empty, and together they are the source.  Between two gaps there is always a
hit, no rule proposes a match inside a gap, and every hit is what a rule
proposes for the text that begins with the gap in front of it.

The tokens of a scan are the texts of the tiles in order, apart from white
space.  The main statement is `Grammar.scan_tiles`.
-/

namespace CallScript

open CallScript.Pattern

/-- The kind of the rule that matches a span; a gap has none. -/
def Span.kind? : Span → Option String
  | .gap _ => none
  | .hit kind _ => some kind

/-- The gap that spans end with, or no text at all. -/
def Span.gapAtEnd (spans : List Span) : List Char :=
  match spans.getLast? with
  | some (.gap text) => text
  | _ => []

/-- The spans are the source, cut by the rules of the grammar. -/
structure IsTiling (grammar : Grammar) (source : List Char) (spans : List Span) : Prop where
  /-- The spans make up the source. -/
  joined : Span.joined spans = source
  /-- Every span has a text. -/
  nonempty : ∀ span ∈ spans, span.text ≠ []
  /-- No gap stands directly behind another one. -/
  apart :
    ∀ (front back : List Span) (first second : List Char),
      spans ≠ front ++ .gap first :: .gap second :: back
  /-- No rule proposes a match that begins inside a gap. -/
  unmatched :
    ∀ (front back : List Span) (gap : List Char),
      spans = front ++ .gap gap :: back →
        ∀ hit : Hit,
          some hit ∈ grammar.proposals (gap ++ Span.joined back) → gap.length ≤ hit.start
  /-- A hit is what a rule of its kind proposes where the gap in front of the hit begins. -/
  matched :
    ∀ (front back : List Span) (kind : String) (text : List Char),
      spans = front ++ .hit kind text :: back →
        ∃ rule ∈ grammar.rules,
          rule.kind = kind ∧
            rule.expr.firstTaking? (Span.gapAtEnd front ++ text ++ Span.joined back) =
              some ⟨Span.gapAtEnd front, text⟩

section Cut

variable
    {skipped : List Char}
    {hit span : Span}
    {rest front back : List Span}

/-- Where a span stands in the spans of a find: it is the gap, the hit, or a later one. -/
theorem Grammar.gapOf_append_cons_cases
    (equal : gapOf skipped ++ hit :: rest = front ++ span :: back) :
    (skipped ≠ [] ∧ front = [] ∧ span = .gap skipped ∧ back = hit :: rest) ∨
      (front = gapOf skipped ∧ span = hit ∧ back = rest) ∨
        ∃ later, front = gapOf skipped ++ hit :: later ∧ rest = later ++ span :: back := by
  have ofCons
      {first : Span}
      {others start : List Span}
      (equal : first :: others = start ++ span :: back) :
      (start = [] ∧ span = first ∧ back = others) ∨
        ∃ later, start = first :: later ∧ others = later ++ span :: back := by
    cases start with
    | nil =>
        cases equal
        exact .inl ⟨rfl, rfl, rfl⟩
    | cons head later =>
        cases equal
        exact .inr ⟨later, rfl, rfl⟩
  cases skipped with
  | nil =>
      rcases ofCons equal with atHit | later
      · exact .inr (.inl atHit)
      · exact .inr (.inr later)
  | cons character text =>
      rcases ofCons equal with ⟨rfl, rfl, rfl⟩ | ⟨behindGap, rfl, behind⟩
      · exact .inl ⟨by simp, rfl, rfl, rfl⟩
      · rcases ofCons behind with ⟨rfl, rfl, rfl⟩ | ⟨later, rfl, divided⟩
        · exact .inr (.inl ⟨rfl, rfl, rfl⟩)
        · exact .inr (.inr ⟨later, rfl, divided⟩)

theorem Span.gapAtEnd_gapOf
    (skipped : List Char) :
    Span.gapAtEnd (Grammar.gapOf skipped) = skipped := by
  cases skipped with
  | nil => rfl
  | cons character text => rfl

theorem Span.gapAtEnd_append_hit
    (kind : String)
    (text : List Char)
    (front later : List Span) :
    Span.gapAtEnd (front ++ .hit kind text :: later) = Span.gapAtEnd later := by
  cases later with
  | nil => simp [gapAtEnd]
  | cons span later => simp [gapAtEnd, List.getLast?_cons]

theorem Span.joined_gapOf
    (text : List Char) :
    Span.joined (Grammar.gapOf text) = text := by
  cases text with
  | nil => rfl
  | cons character rest => simp [Grammar.gapOf, Span.text]

theorem Span.toList_join_texts
    (spans : List Span) :
    (String.join (spans.map fun span => String.ofList span.text)).toList = Span.joined spans := by
  induction spans with
  | nil => rfl
  | cons span spans ih => simpa using ih

end Cut

namespace IsTiling

variable
    {grammar : Grammar}
    {source : List Char}

/-- A text for which no rule proposes anything is tiled by one gap, or by nothing. -/
theorem of_unmatched
    (missing : ∀ hit, some hit ∉ grammar.proposals source) :
    IsTiling grammar source (Grammar.gapOf source) := by
  have single
      {front back : List Span}
      {span : Span}
      (equal : Grammar.gapOf source = front ++ span :: back) :
      source ≠ [] ∧ span = .gap source ∧ back = [] := by
    cases source with
    | nil => simp [Grammar.gapOf] at equal
    | cons character rest =>
        cases front with
        | nil =>
            cases equal
            exact ⟨by simp, rfl, rfl⟩
        | cons first front => simp [Grammar.gapOf] at equal
  constructor
  · exact Span.joined_gapOf source
  · intro span member
    rcases List.append_of_mem member with ⟨front, back, equal⟩
    rcases single equal with ⟨nonempty, rfl, -⟩
    exact nonempty
  · intro front back first second equal
    rcases single equal with ⟨-, -, behind⟩
    cases behind
  · intro front back gap equal hit proposed
    rcases single equal with ⟨-, isGap, rfl⟩
    cases isGap
    rw [Span.joined_nil, List.append_nil] at proposed
    exact absurd proposed (missing hit)
  · intro front back kind text equal
    rcases single equal with ⟨-, isGap, -⟩
    cases isGap

/-- The kind of a tile is declared by the grammar. -/
theorem kind?_ne
    {spans : List Span}
    (tiling : IsTiling grammar source spans)
    {kind : String}
    (undeclared : kind ∉ grammar.kinds)
    {span : Span}
    (member : span ∈ spans) :
    span.kind? ≠ some kind := by
  intro same
  cases span with
  | gap text => cases same
  | hit hitKind text =>
      cases same
      rcases List.append_of_mem member with ⟨front, back, divided⟩
      rcases tiling.matched front back kind text divided with ⟨rule, declared, ruleKind, -⟩
      apply undeclared
      rw [← ruleKind]
      exact List.mem_map_of_mem declared

/-- A gap and a hit in front of a tiling make a tiling, when the hit is the earliest proposal. -/
theorem cons
    {rule : Rule}
    {skipped matched rest : List Char}
    {spans : List Span}
    (declared : rule ∈ grammar.rules)
    (proposed :
      rule.expr.firstTaking? (skipped ++ matched ++ rest) = some ⟨skipped, matched⟩)
    (earliest :
      ∀ hit : Hit,
        some hit ∈ grammar.proposals (skipped ++ matched ++ rest) → skipped.length ≤ hit.start)
    (tiling : IsTiling grammar rest spans) :
    IsTiling grammar (skipped ++ matched ++ rest)
      (Grammar.gapOf skipped ++ .hit rule.kind matched :: spans) := by
  have behindGap :
      Span.joined (.hit rule.kind matched :: spans) = matched ++ rest := by
    rw [Span.joined_cons, tiling.joined]
    rfl
  constructor
  · rw [Span.joined_append, Span.joined_gapOf, behindGap, List.append_assoc]
  · intro span member
    rcases List.append_of_mem member with ⟨front, back, equal⟩
    rcases Grammar.gapOf_append_cons_cases equal with
      ⟨nonempty, -, rfl, -⟩ | ⟨-, rfl, -⟩ | ⟨later, -, divided⟩
    · exact nonempty
    · exact Expr.matched_ne_nil_of_firstTaking? proposed
    · apply tiling.nonempty
      rw [divided]
      exact List.mem_append_right later List.mem_cons_self
  · intro front back first second equal
    rcases Grammar.gapOf_append_cons_cases equal with
      ⟨-, -, -, behind⟩ | ⟨-, isHit, -⟩ | ⟨later, -, divided⟩
    · cases behind
    · cases isHit
    · exact tiling.apart later back first second divided
  · intro front back gap equal
    rcases Grammar.gapOf_append_cons_cases equal with
      ⟨-, -, isGap, rfl⟩ | ⟨-, isHit, -⟩ | ⟨later, -, divided⟩
    · cases isGap
      rw [behindGap, ← List.append_assoc]
      exact earliest
    · cases isHit
    · exact tiling.unmatched later back gap divided
  · intro front back kind text equal
    rcases Grammar.gapOf_append_cons_cases equal with
      ⟨-, -, isGap, -⟩ | ⟨rfl, isHit, rfl⟩ | ⟨later, rfl, divided⟩
    · cases isGap
    · cases isHit
      rw [Span.gapAtEnd_gapOf, tiling.joined]
      exact ⟨rule, declared, rfl, proposed⟩
    · rw [Span.gapAtEnd_append_hit]
      exact tiling.matched later back kind text divided

end IsTiling

/-- The spans of a source tile it. -/
theorem Grammar.isTiling_spans
    (grammar : Grammar)
    (source : List Char) :
    IsTiling grammar source (grammar.spans source) := by
  fun_induction Grammar.spans grammar source with
  | case1 source missing =>
      apply IsTiling.of_unmatched
      intro hit proposed
      rw [proposals_eq_search?] at proposed
      rcases List.mem_map.1 proposed with ⟨rule, declared, found⟩
      rw [search?_of_nextFind?_none missing declared] at found
      cases found
  | case2 source find found ih =>
      rcases nextFind?_isEarliest found with ⟨index, declared, chosen, divided⟩
      rw [← proposals_eq_search?, ← divided] at chosen
      have proposed := chosen.proposed
      rw [proposals, List.getElem?_map, declared] at proposed
      rw [← divided]
      apply IsTiling.cons (List.mem_of_getElem? declared) (by simpa using proposed) _ ih
      intro hit member
      rcases List.getElem?_of_mem member with ⟨other, otherProposed⟩
      exact chosen.earliest other hit otherProposed

/-- A scan that succeeds lists the spans of the source, also a strict one. -/
theorem ScanOptions.eq_label_of_outcome
    {options : ScanOptions}
    {passed : List Char}
    {spans : List Span}
    {tokens : List Token}
    (listed : options.outcome passed spans = .ok tokens) :
    tokens = options.label spans := by
  induction spans generalizing passed tokens with
  | nil =>
      cases listed
      rfl
  | cons span spans ih =>
      rw [outcome] at listed
      split at listed
      · cases listed
      · cases later : options.outcome (passed ++ span.text) spans with
        | error fault =>
            rw [later] at listed
            cases listed
        | ok laterTokens =>
            rw [later] at listed
            cases listed
            rw [ih later, label_cons]

/-- The texts of the tokens are those of the spans that are not left out. -/
theorem ScanOptions.map_text_label
    (options : ScanOptions)
    (spans : List Span) :
    (options.label spans).map Token.text =
      (spans.filter fun span => span.kind? ≠ some options.whitespaceKind).map
        fun span => String.ofList span.text := by
  induction spans with
  | nil => rfl
  | cons span spans ih =>
      rw [label_cons, List.map_append, ih]
      cases span with
      | gap text => simp [listing, Span.kind?, Span.text]
      | hit kind text =>
          by_cases dropped : kind = options.whitespaceKind
          · simp [listing, Span.kind?, dropped]
          · simp [listing, Span.kind?, Span.text, dropped, Classifier.classify]

/--
A scan that succeeds has cut the source into tiles, and its tokens are the
texts of the tiles in order, without the hits of the kind for white space.  No
token is empty.  If no rule is of the kind for white space, the tokens one
behind another are the source.
-/
theorem Grammar.scan_tiles
    (grammar : Grammar)
    (options : ScanOptions)
    (source : String)
    {tokens : List Token}
    (scanned : grammar.scan options source = .ok tokens) :
    ∃ spans,
      IsTiling grammar source.toList spans ∧
        tokens.map Token.text =
          (spans.filter fun span => span.kind? ≠ some options.whitespaceKind).map
            (fun span => String.ofList span.text) ∧
        (∀ token ∈ tokens, token.text ≠ "") ∧
        (options.whitespaceKind ∉ grammar.kinds →
          String.join (tokens.map Token.text) = source) := by
  have tiling := grammar.isTiling_spans source.toList
  have texts := options.map_text_label (grammar.spans source.toList)
  rw [scan_eq_scanFrom, Scanner.scanFrom_eq_outcome] at scanned
  rw [← ScanOptions.eq_label_of_outcome scanned] at texts
  refine ⟨grammar.spans source.toList, tiling, texts, ?_, ?_⟩
  · intro token member
    have listed := List.mem_map_of_mem (f := Token.text) member
    rw [texts] at listed
    rcases List.mem_map.1 listed with ⟨span, kept, text⟩
    have nonempty := tiling.nonempty span (List.mem_filter.1 kept).1
    rw [← text]
    simpa using nonempty
  · intro undeclared
    have kept :
        (grammar.spans source.toList).filter
            (fun span => decide (span.kind? ≠ some options.whitespaceKind)) =
          grammar.spans source.toList := by
      rw [List.filter_eq_self]
      intro span member
      exact decide_eq_true (tiling.kind?_ne undeclared member)
    rw [texts, kept, ← String.toList_inj, Span.toList_join_texts, tiling.joined]

/-- Two words with a letter that no rule takes between them, and a digit that is left out. -/
theorem Grammar.scan_tiles_leftOut :
    let grammar : Grammar :=
      ⟨[⟨"EDGE", "\\b", .edge (.word .unicode .boundary)⟩,
        ⟨"WORD", "[a-z]+", .repetition 1 none true (.chars (.range 'a' 'z'))⟩,
        ⟨"DIGIT", "[0-9]", .chars (.range '0' '9')⟩]⟩
    let options := { ScanOptions.standard with whitespaceKind := "DIGIT" }
    grammar.scan options "ab É1c" = .ok [⟨"ab", "WORD"⟩, ⟨" É", "INVALID"⟩, ⟨"c", "WORD"⟩] ∧
      ∃ spans,
        IsTiling grammar "ab É1c".toList spans ∧
          ["ab", " É", "c"] =
            (spans.filter fun span => span.kind? ≠ some "DIGIT").map
              fun span => String.ofList span.text := by
  intro grammar options
  have scanned :
      grammar.scan options "ab É1c" =
        .ok [⟨"ab", "WORD"⟩, ⟨" É", "INVALID"⟩, ⟨"c", "WORD"⟩] := by
    have evaluated :
        options.label (grammar.spans "ab É1c".toList) =
          [⟨"ab", "WORD"⟩, ⟨" É", "INVALID"⟩, ⟨"c", "WORD"⟩] := by
      decide +kernel
    rw [scan_eq_label grammar rfl, evaluated]
  obtain ⟨spans, tiling, texts, -, -⟩ := Grammar.scan_tiles grammar options "ab É1c" scanned
  exact ⟨scanned, spans, tiling, texts⟩

end CallScript
