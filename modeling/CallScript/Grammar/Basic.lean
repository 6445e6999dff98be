import CallScript.Fault
import CallScript.NameMap
import CallScript.Pattern.Reader
import CallScript.Pattern.Search

/-!
# Grammars

A grammar is a list of rules, each of which names a kind of token and gives
the pattern of its texts.  The order of the rules decides which of them wins
where two match at the same place.

Rules enter a grammar through checks: no kind is declared twice, every pattern
can be read, and none of them matches the empty text.  An operation that fails
leaves the grammar as it was.  Which properties of characters a pattern may name
is given by a table, the same for all operations.
-/

namespace CallScript

open CallScript.Pattern

/-- A kind of token and the pattern of its texts. -/
structure Rule where
  /-- The kind of the tokens. -/
  kind : String
  /-- The pattern as it was written. -/
  pattern : String
  /-- What the pattern means. -/
  expr : Expr
  deriving DecidableEq

namespace Rule

/-- The rule with a kind and a pattern; the pattern must not match the empty text. -/
def read (table : PropertyTable) (kind pattern : String) : Except Fault Rule :=
  match Expr.read table pattern.toList with
  | .error cause => .error (.unreadablePattern kind pattern cause)
  | .ok expr =>
      if expr.isFoundIn [] then .error (.matchesEmpty kind pattern)
      else .ok ⟨kind, pattern, expr⟩

end Rule

/-- A list of rules in the order of preference. -/
structure Grammar where
  /-- The rules in order. -/
  rules : List Rule
  deriving DecidableEq

namespace Grammar

/-- The grammar without rules. -/
def empty : Grammar :=
  ⟨[]⟩

/-- The kinds that the grammar declares, in order. -/
def kinds (grammar : Grammar) : List String :=
  grammar.rules.map Rule.kind

/-- The kinds and the patterns as they were written, in order. -/
def entries (grammar : Grammar) : List (String × String) :=
  grammar.rules.map fun rule => (rule.kind, rule.pattern)

/-- The grammar declares a kind. -/
def contains (grammar : Grammar) (kind : String) : Bool :=
  grammar.rules.any fun rule => rule.kind == kind

/-- The rule of a kind. -/
def find? (grammar : Grammar) (kind : String) : Option Rule :=
  grammar.rules.find? fun rule => rule.kind == kind

/-- The rules with the first one of the same kind exchanged for the given one. -/
def exchange (rule : Rule) : List Rule → Option (List Rule)
  | [] => none
  | other :: rules =>
      if other.kind = rule.kind then some (rule :: rules)
      else (exchange rule rules).map (other :: ·)

variable (table : PropertyTable)

/-- The grammar with a further rule at its end. -/
def push (grammar : Grammar) (kind pattern : String) : Except Fault Grammar :=
  if grammar.contains kind then .error (.declaredTwice kind)
  else (Rule.read table kind pattern).map fun rule => ⟨grammar.rules ++ [rule]⟩

/-- The grammar with the pattern of a kind exchanged; the rule keeps its place. -/
def replace (grammar : Grammar) (kind pattern : String) : Except Fault Grammar :=
  match Rule.read table kind pattern with
  | .error fault => .error fault
  | .ok rule =>
      match exchange rule grammar.rules with
      | some rules => .ok ⟨rules⟩
      | none => .error (.undeclared kind)

/--
The grammar after the patterns of several kinds were exchanged one after
another, and the fault that ended this early, if any.
-/
def replaceAll (grammar : Grammar) : List (String × String) → Grammar × Option Fault
  | [] => (grammar, none)
  | (kind, pattern) :: overrides =>
      match grammar.replace table kind pattern with
      | .ok replaced => replaced.replaceAll overrides
      | .error fault => (grammar, some fault)

/-- The patterns of several kinds exchanged, in increasing order of the kinds. -/
def override (grammar : Grammar) (overrides : NameMap String) : Grammar × Option Fault :=
  grammar.replaceAll table overrides.entries

/-- The grammar with the given kinds and patterns pushed in order. -/
def pushAll (grammar : Grammar) : List (String × String) → Except Fault Grammar
  | [] => .ok grammar
  | (kind, pattern) :: entries => do
      let pushed ← grammar.push table kind pattern
      pushed.pushAll entries

/-- The grammar of a list of kinds and patterns. -/
def ofEntries (entries : List (String × String)) : Except Fault Grammar :=
  empty.pushAll table entries

end Grammar

end CallScript
