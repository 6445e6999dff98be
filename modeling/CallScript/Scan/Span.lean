import CallScript.Grammar.Basic

/-!
# Spans

A grammar cuts a source into spans.  At the cursor, the first rule with a
match that takes a character decides: the earliest such place wins, and at one
place the earliest rule.  The text in front of the match is a gap, and the
text behind it is cut as a source of its own.  Where no rule matches any more,
what is left is one gap.

The spans depend on the grammar and the source alone.  Whatever a scan makes
of them is decided span by span afterwards.
-/

namespace CallScript

open CallScript.Pattern

/-- A piece of a source: a gap between matches, or a match of a rule. -/
inductive Span where
  /-- Text that no rule matches. -/
  | gap (text : List Char)
  /-- Text that the rule of a kind matches. -/
  | hit (kind : String) (text : List Char)
  deriving DecidableEq

/-- The text of a span. -/
def Span.text : Span → List Char
  | .gap text => text
  | .hit _ text => text

namespace Grammar

/--
The first rule whose preferred match at a place takes a character, and the
length of that match.
-/
def ruleAt? (before : Option Char) (text : List Char) : List Rule → Option (Rule × Nat)
  | [] => none
  | rule :: rules =>
      match rule.expr.matchLength? before text with
      | some (length + 1) => some (rule, length + 1)
      | _ => ruleAt? before text rules

/-- A match of a rule, with the text in front of it and behind it. -/
structure Find where
  /-- The text between the cursor and the match. -/
  skipped : List Char
  /-- The rule that matches. -/
  rule : Rule
  /-- The matched text. -/
  matched : List Char
  /-- The text behind the match. -/
  rest : List Char

/-- The find when one more character was skipped in front of it. -/
def Find.after (character : Char) (find : Find) : Find :=
  { find with skipped := character :: find.skipped }

/-- The first match of a rule that takes a character, at or behind a place. -/
def nextFind? (rules : List Rule) (before : Option Char) : List Char → Option Find
  | [] => none
  | character :: rest =>
      match ruleAt? before (character :: rest) rules with
      | some (rule, length) =>
          some
            { skipped := []
              rule := rule
              matched := (character :: rest).take length
              rest := (character :: rest).drop length }
      | none => (nextFind? rules (some character) rest).map (Find.after character)

/-- A match that was chosen at a place takes a character. -/
theorem pos_of_ruleAt?
    {before : Option Char}
    {text : List Char}
    {rules : List Rule}
    {rule : Rule}
    {length : Nat}
    (found : ruleAt? before text rules = some (rule, length)) :
    0 < length := by
  induction rules with
  | nil => simp [ruleAt?] at found
  | cons other rules ih =>
      simp only [ruleAt?] at found
      split at found
      · obtain ⟨_, rfl⟩ := by simpa using found
        omega
      · exact ih found

/-- The text behind a find is shorter than the searched text. -/
theorem length_rest_lt
    {rules : List Rule}
    {before : Option Char}
    {text : List Char}
    {find : Find}
    (found : nextFind? rules before text = some find) :
    find.rest.length < text.length := by
  induction text generalizing before find with
  | nil => simp [nextFind?] at found
  | cons character rest ih =>
      simp only [nextFind?] at found
      split at found
      · rename_i chosen
        have positive := pos_of_ruleAt? chosen
        obtain rfl := by simpa using found
        simp only [List.length_drop, List.length_cons]
        omega
      · obtain ⟨inner, innerFound, rfl⟩ := Option.map_eq_some_iff.1 found
        have := ih innerFound
        simp only [Find.after, List.length_cons]
        omega

/-- The gap of a text, unless it is empty. -/
def gapOf (text : List Char) : List Span :=
  if text.isEmpty then [] else [.gap text]

/-- The spans of a source. -/
def spans (grammar : Grammar) (source : List Char) : List Span :=
  match _found : nextFind? grammar.rules none source with
  | none => gapOf source
  | some find =>
      gapOf find.skipped ++ .hit find.rule.kind find.matched :: grammar.spans find.rest
termination_by source.length
decreasing_by exact length_rest_lt _found

end Grammar

end CallScript
