import CallScript.Grammar.BuiltIn
import CallScript.Grammar.File
import Mathlib.Data.List.Nodup

/-!
# Edits of a grammar

A grammar begins without rules, with the rules of the language or with those
of a grammar file, and then changes by edits.  An edit pushes a rule, or
exchanges the pattern of one kind or of several kinds.  It may fail, and an
exchange of several patterns that fails may have made some of them.

`Grammar.IsSound` is what all of this keeps: no kind is declared twice, and
every rule is what its pattern is read as, so that it does not match the empty
text.  Each edit has one lemma that says what it does to the rules.  The main
statement, `Grammar.IsReachable.declares_once`, is about every grammar that
edits lead to, also edits that failed.
-/

namespace CallScript

open CallScript.Pattern

/-- A rule is read from a pattern that means its expression and does not match the empty text. -/
theorem Rule.read_eq_ok_iff
    {table : PropertyTable}
    {kind pattern : String}
    {rule : Rule} :
    Rule.read table kind pattern = .ok rule ↔
      rule.kind = kind ∧
        rule.pattern = pattern ∧
        Expr.read table pattern.toList = .ok rule.expr ∧
        rule.expr.isFoundIn [] = false := by
  rw [Rule.read]
  cases Expr.read table pattern.toList with
  | error cause => simp
  | ok expr =>
      simp only
      split
      · rename_i found
        constructor
        · intro read
          cases read
        · rintro ⟨-, -, same, notFound⟩
          cases same
          rw [found] at notFound
          cases notFound
      · rename_i notFound
        constructor
        · intro read
          cases read
          exact ⟨rfl, rfl, rfl, by simpa using notFound⟩
        · rintro ⟨rfl, rfl, same, -⟩
          cases same
          rfl

namespace Grammar

/-- A change of a grammar. -/
inductive Edit where
  /-- A rule is added at the end. -/
  | push (kind pattern : String)
  /-- The pattern of a kind is exchanged. -/
  | replace (kind pattern : String)
  /-- The patterns of several kinds are exchanged. -/
  | override (overrides : NameMap String)

/-- The grammar that an operation leaves behind, which has no effect when it fails. -/
def settled (grammar : Grammar) : Except Fault Grammar → Grammar × Option Fault
  | .ok changed => (changed, none)
  | .error fault => (grammar, some fault)

/-- The grammar that an edit leaves behind, and the fault with which the edit failed, if any. -/
def edit (table : PropertyTable) (grammar : Grammar) : Edit → Grammar × Option Fault
  | .push kind pattern => grammar.settled (grammar.push table kind pattern)
  | .replace kind pattern => grammar.settled (grammar.replace table kind pattern)
  | .override overrides => grammar.override table overrides

/-- The grammars that edits lead to, from no rules, the rules of the language or a file. -/
inductive IsReachable (table : PropertyTable) : Grammar → Prop where
  | empty : IsReachable table .empty
  | builtIn : IsReachable table .builtIn
  | ofText {text : String} {grammar : Grammar} :
      Grammar.ofText table text = .ok grammar → IsReachable table grammar
  | edit {grammar : Grammar} (change : Edit) :
      IsReachable table grammar → IsReachable table (grammar.edit table change).1

/-- No kind is declared twice, and every rule is what its pattern is read as. -/
structure IsSound (table : PropertyTable) (grammar : Grammar) : Prop where
  /-- The kinds are pairwise distinct. -/
  distinct : grammar.kinds.Nodup
  /-- Reading the pattern of a rule for its kind gives the rule. -/
  read : ∀ rule ∈ grammar.rules, Rule.read table rule.kind rule.pattern = .ok rule

variable
    {table : PropertyTable}

section Lookup

variable
    {grammar : Grammar}

theorem contains_iff_mem_kinds
    {kind : String} :
    grammar.contains kind = true ↔ kind ∈ grammar.kinds := by
  simp [contains, kinds]

theorem kinds_eq_map_entries
    (grammar : Grammar) :
    grammar.kinds = grammar.entries.map Prod.fst := by
  simp [kinds, entries]

/-- In a sound grammar, the rule that is found for a kind is the only one of this kind. -/
theorem IsSound.find?_eq_some_iff
    (sound : grammar.IsSound table)
    {kind : String}
    {rule : Rule} :
    grammar.find? kind = some rule ↔ rule ∈ grammar.rules ∧ rule.kind = kind := by
  constructor
  · intro found
    exact ⟨List.mem_of_find?_eq_some found, by simpa using List.find?_some found⟩
  · rintro ⟨declared, rfl⟩
    cases found : grammar.find? rule.kind with
    | none =>
        have missed := List.find?_eq_none.1 found rule declared
        simp at missed
    | some other =>
        have otherDeclared := List.mem_of_find?_eq_some found
        have sameKind : other.kind = rule.kind := by simpa using List.find?_some found
        rw [List.inj_on_of_nodup_map sound.distinct otherDeclared declared sameKind]

/-- The entry of a kind determines the rule that is found for it. -/
theorem IsSound.find?_eq_some_iff_read
    (sound : grammar.IsSound table)
    {kind : String}
    {rule : Rule} :
    grammar.find? kind = some rule ↔
      (kind, rule.pattern) ∈ grammar.entries ∧ Rule.read table kind rule.pattern = .ok rule := by
  rw [sound.find?_eq_some_iff]
  constructor
  · rintro ⟨declared, rfl⟩
    exact ⟨List.mem_map_of_mem declared, sound.read rule declared⟩
  · rintro ⟨listed, read⟩
    rcases List.mem_map.1 listed with ⟨other, declared, same⟩
    rcases Prod.mk.inj same with ⟨rfl, samePattern⟩
    -- Both rules are read from the same pattern for the same kind.
    have otherRead := sound.read other declared
    rw [samePattern, read] at otherRead
    cases otherRead
    exact ⟨declared, rfl⟩

/-- A declared kind stands in one entry, any other kind in none. -/
theorem IsSound.countP_entries
    (sound : grammar.IsSound table)
    (kind : String) :
    grammar.entries.countP (fun entry => entry.1 == kind) =
      if grammar.contains kind then 1 else 0 := by
  have counted :
      grammar.entries.countP (fun entry => entry.1 == kind) = grammar.kinds.count kind := by
    rw [kinds_eq_map_entries, List.count, List.countP_map]
    rfl
  rw [counted, sound.distinct.count]
  exact if_congr contains_iff_mem_kinds.symm rfl rfl

end Lookup

section Push

variable
    {grammar changed : Grammar}
    {kind pattern : String}

/-- A push that succeeds adds the rule that is read from the pattern of a new kind. -/
theorem push_cases
    (pushed : grammar.push table kind pattern = .ok changed) :
    ∃ rule,
      Rule.read table kind pattern = .ok rule ∧
        kind ∉ grammar.kinds ∧ changed.rules = grammar.rules ++ [rule] := by
  rw [push] at pushed
  split at pushed
  · cases pushed
  · rename_i undeclared
    cases read : Rule.read table kind pattern with
    | error fault =>
        rw [read] at pushed
        cases pushed
    | ok rule =>
        rw [read] at pushed
        cases pushed
        exact ⟨rule, rfl, mt contains_iff_mem_kinds.2 undeclared, rfl⟩

theorem entries_push
    (pushed : grammar.push table kind pattern = .ok changed) :
    changed.entries = grammar.entries ++ [(kind, pattern)] := by
  rcases push_cases pushed with ⟨rule, read, -, rules⟩
  rcases Rule.read_eq_ok_iff.1 read with ⟨rfl, rfl, -, -⟩
  rw [entries, rules, List.map_append]
  rfl

theorem IsSound.push
    (sound : grammar.IsSound table)
    (pushed : grammar.push table kind pattern = .ok changed) :
    changed.IsSound table := by
  rcases push_cases pushed with ⟨rule, read, undeclared, rules⟩
  rcases Rule.read_eq_ok_iff.1 read with ⟨rfl, rfl, -, -⟩
  constructor
  · rw [kinds, rules, List.map_append, List.map_singleton, ← List.concat_eq_append,
      List.nodup_concat]
    exact ⟨undeclared, sound.distinct⟩
  · rw [rules]
    intro other declared
    rcases List.mem_append.1 declared with old | new
    · exact sound.read other old
    · cases List.mem_singleton.1 new
      exact read

theorem isSound_empty :
    Grammar.empty.IsSound table := by
  exact ⟨List.nodup_nil, by simp [Grammar.empty]⟩

theorem IsSound.pushAll
    (sound : grammar.IsSound table)
    {entries : List (String × String)}
    (pushed : grammar.pushAll table entries = .ok changed) :
    changed.IsSound table := by
  induction entries generalizing grammar with
  | nil =>
      cases pushed
      exact sound
  | cons entry entries ih =>
      rcases entry with ⟨kind, pattern⟩
      rw [Grammar.pushAll] at pushed
      cases first : grammar.push table kind pattern with
      | error fault =>
          rw [first] at pushed
          cases pushed
      | ok next =>
          rw [first] at pushed
          exact ih (sound.push first) pushed

end Push

section Replace

variable
    {grammar changed : Grammar}
    {kind pattern : String}

/-- An exchange puts the rule in the place of one of the same kind. -/
theorem exchange_cases
    {rule : Rule}
    {rules exchanged : List Rule}
    (done : exchange rule rules = some exchanged) :
    ∃ front old back,
      old.kind = rule.kind ∧
        rules = front ++ old :: back ∧ exchanged = front ++ rule :: back := by
  induction rules generalizing exchanged with
  | nil => cases done
  | cons other rules ih =>
      rw [exchange] at done
      split at done
      · rename_i sameKind
        cases done
        exact ⟨[], other, rules, sameKind, rfl, rfl⟩
      · rcases Option.map_eq_some_iff.1 done with ⟨later, laterDone, rfl⟩
        rcases ih laterDone with ⟨front, old, back, sameKind, rfl, rfl⟩
        exact ⟨other :: front, old, back, sameKind, rfl, rfl⟩

/-- A replacement that succeeds puts the rule that is read in the place of one of its kind. -/
theorem replace_cases
    (replaced : grammar.replace table kind pattern = .ok changed) :
    ∃ rule front old back,
      Rule.read table kind pattern = .ok rule ∧
        old.kind = rule.kind ∧
        grammar.rules = front ++ old :: back ∧ changed.rules = front ++ rule :: back := by
  rw [replace] at replaced
  split at replaced
  · cases replaced
  · rename_i rule read
    split at replaced
    · rename_i rules done
      cases replaced
      rcases exchange_cases done with ⟨front, old, back, sameKind, before, after⟩
      exact ⟨rule, front, old, back, read, sameKind, before, after⟩
    · cases replaced

theorem kinds_replace
    (replaced : grammar.replace table kind pattern = .ok changed) :
    changed.kinds = grammar.kinds := by
  rcases replace_cases replaced with ⟨rule, front, old, back, -, sameKind, before, after⟩
  simp [kinds, before, after, sameKind]

theorem IsSound.replace
    (sound : grammar.IsSound table)
    (replaced : grammar.replace table kind pattern = .ok changed) :
    changed.IsSound table := by
  constructor
  · rw [kinds_replace replaced]
    exact sound.distinct
  · rcases replace_cases replaced with ⟨rule, front, old, back, read, -, before, after⟩
    have others := sound.read
    rw [before, List.forall_mem_append, List.forall_mem_cons] at others
    rw [after, List.forall_mem_append, List.forall_mem_cons]
    refine ⟨others.1, ?_, others.2.2⟩
    rcases Rule.read_eq_ok_iff.1 read with ⟨rfl, rfl, -, -⟩
    exact read

/--
What a replacement keeps is kept by several ones, up to the first that fails
or to their end.
-/
theorem replaceAll_keeps
    (keeps : Grammar → Prop)
    (step :
      ∀ {grammar changed : Grammar} {kind pattern : String},
        keeps grammar → grammar.replace table kind pattern = .ok changed → keeps changed)
    (holds : keeps grammar)
    (overrides : List (String × String)) :
    keeps (grammar.replaceAll table overrides).1 := by
  induction overrides generalizing grammar with
  | nil => exact holds
  | cons entry overrides ih =>
      rcases entry with ⟨kind, pattern⟩
      rw [replaceAll]
      split
      · rename_i changed replaced
        exact ih (step holds replaced)
      · exact holds

theorem kinds_override
    (grammar : Grammar)
    (overrides : NameMap String) :
    (grammar.override table overrides).1.kinds = grammar.kinds := by
  refine replaceAll_keeps (fun changed => changed.kinds = grammar.kinds) ?_ rfl _
  intro before after kind pattern same replaced
  rw [kinds_replace replaced, same]

end Replace

/-- Every edit keeps a grammar sound, also one that fails. -/
theorem IsSound.edit
    {grammar : Grammar}
    (sound : grammar.IsSound table)
    (change : Edit) :
    (grammar.edit table change).1.IsSound table := by
  cases change with
  | push kind pattern =>
      rw [Grammar.edit]
      cases pushed : grammar.push table kind pattern with
      | ok changed => exact sound.push pushed
      | error fault => exact sound
  | replace kind pattern =>
      rw [Grammar.edit]
      cases replaced : grammar.replace table kind pattern with
      | ok changed => exact sound.replace replaced
      | error fault => exact sound
  | override overrides => exact replaceAll_keeps (IsSound table) IsSound.replace sound _

theorem IsReachable.isSound
    {grammar : Grammar}
    (reachable : grammar.IsReachable table) :
    grammar.IsSound table := by
  induction reachable with
  | empty => exact isSound_empty
  | builtIn => exact isSound_empty.pushAll (ofEntries_builtIn table)
  | @ofText text grammar loaded =>
      rw [Grammar.ofText] at loaded
      split at loaded
      · exact isSound_empty.pushAll loaded
      · cases loaded
  | edit change _ ih => exact ih.edit change

/-- A push that succeeds adds an entry at the end, and one that fails changes no entry. -/
theorem entries_edit_push
    (grammar : Grammar)
    (kind pattern : String) :
    (grammar.edit table (.push kind pattern)).1.entries =
      if (grammar.edit table (.push kind pattern)).2 = none then
        grammar.entries ++ [(kind, pattern)]
      else grammar.entries := by
  rw [edit]
  cases pushed : grammar.push table kind pattern with
  | ok changed => exact entries_push pushed
  | error fault => rfl

theorem kinds_edit_replace
    (grammar : Grammar)
    (kind pattern : String) :
    (grammar.edit table (.replace kind pattern)).1.kinds = grammar.kinds := by
  rw [edit]
  cases replaced : grammar.replace table kind pattern with
  | ok changed => exact kinds_replace replaced
  | error fault => rfl

theorem entries_edit_replace_of_fault
    {grammar : Grammar}
    {kind pattern : String}
    (failed : (grammar.edit table (.replace kind pattern)).2 ≠ none) :
    (grammar.edit table (.replace kind pattern)).1.entries = grammar.entries := by
  rw [edit] at failed ⊢
  cases replaced : grammar.replace table kind pattern with
  | ok changed =>
      rw [replaced] at failed
      exact absurd rfl failed
  | error fault => rfl

/--
A grammar that edits lead to, failed ones included, declares no kind twice, and
its patterns are read without fault and do not match the empty text.  A kind
that it contains stands in one entry, any other kind in none, and the rule that
is found for a kind is the one that its entry is read as.  A further push adds
an entry at the end or, when it fails, changes nothing; so does a replacement
that fails.  Replacing patterns never changes the list of the kinds.
-/
theorem IsReachable.declares_once
    {grammar : Grammar}
    (reachable : grammar.IsReachable table) :
    grammar.kinds.Nodup ∧
      (∀ kind pattern,
        (kind, pattern) ∈ grammar.entries →
          ∃ expr, Expr.read table pattern.toList = .ok expr ∧ expr.isFoundIn [] = false) ∧
      (∀ kind,
        grammar.entries.countP (fun entry => entry.1 == kind) =
          if grammar.contains kind then 1 else 0) ∧
      (∀ kind, (grammar.find? kind).isSome = grammar.contains kind) ∧
      (∀ kind rule,
        grammar.find? kind = some rule ↔
          (kind, rule.pattern) ∈ grammar.entries ∧ Rule.read table kind rule.pattern = .ok rule) ∧
      (∀ kind pattern,
        (grammar.edit table (.push kind pattern)).1.entries =
          if (grammar.edit table (.push kind pattern)).2 = none then
            grammar.entries ++ [(kind, pattern)]
          else grammar.entries) ∧
      (∀ kind pattern,
        (grammar.edit table (.replace kind pattern)).2 ≠ none →
          (grammar.edit table (.replace kind pattern)).1.entries = grammar.entries) ∧
      (∀ kind pattern,
        (grammar.edit table (.replace kind pattern)).1.kinds = grammar.kinds) ∧
      (∀ overrides, (grammar.edit table (.override overrides)).1.kinds = grammar.kinds) := by
  have sound := reachable.isSound
  refine ⟨sound.distinct, ?_, sound.countP_entries, ?_, ?_, grammar.entries_edit_push, ?_,
    grammar.kinds_edit_replace, grammar.kinds_override⟩
  · intro kind pattern listed
    rcases List.mem_map.1 listed with ⟨rule, declared, same⟩
    cases same
    rcases Rule.read_eq_ok_iff.1 (sound.read rule declared) with ⟨-, -, meaning, notFound⟩
    exact ⟨rule.expr, meaning, notFound⟩
  · intro kind
    exact List.isSome_find?
  · intro kind rule
    exact sound.find?_eq_some_iff_read
  · intro kind pattern failed
    exact entries_edit_replace_of_fault failed

/--
An exchange of two patterns that fails at the second one, behind a push that
fails and one of a property that the table knows.
-/
theorem IsReachable.declares_once_failed :
    let table := PropertyTable.basic
    let pushed := Grammar.builtIn.edit table (.push "DIGITS" "\\p\x7bNd\x7d+")
    let repeated := pushed.1.edit table (.push "NUMBER" "x")
    let replaced := repeated.1.edit table (.override ⟨[("COMMA", ";"), ("FLOAT", "x")]⟩)
    pushed.2 = none ∧
      repeated.2 = some (.declaredTwice "NUMBER") ∧
      replaced.2 = some (.undeclared "FLOAT") ∧
      replaced.1.kinds.Nodup ∧
      replaced.1.find? "COMMA" = some (singleRule "COMMA" ";" ';') ∧
      (replaced.1.find? "DIGITS").map Rule.expr =
        some (.repetition 1 none true (.chars .decimalDigit)) := by
  intro table pushed repeated replaced
  have reachable : replaced.1.IsReachable table := .edit _ (.edit _ (.edit _ .builtIn))
  have described := IsReachable.declares_once reachable
  refine ⟨rfl, rfl, rfl, described.1, ?_, ?_⟩
  · exact (described.2.2.2.2.1 "COMMA" _).2 ⟨by decide +kernel, rfl⟩
  · rfl

end Grammar

end CallScript
