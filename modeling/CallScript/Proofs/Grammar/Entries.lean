import CallScript.Proofs.Grammar.Edits
import CallScript.Proofs.Json.Record
import CallScript.Proofs.Json.RoundTrip
import CallScript.Scan.Tokens

/-!
# Grammars from lists of entries

A list of kinds and patterns makes a grammar when every entry can be pushed
behind the ones in front of it.  `Grammar.Refuses` says which entries cannot,
and why, without regard to the order in which a push makes its checks.  A list
that makes a grammar is the list of its entries.

A grammar that edits lead to is determined by its entries, and its own entries
make it again.  So it is read back from the JSON array of its entries, however
this array is laid out.  The main statement is `Grammar.ofEntries_of_entries`.
-/

namespace CallScript.Grammar

open CallScript.Pattern

/-- The pattern can be read and does not match the empty text. -/
def IsUsable (table : PropertyTable) (pattern : String) : Prop :=
  ∃ expr, Expr.read table pattern.toList = .ok expr ∧ expr.isFoundIn [] = false

/--
The fault of a kind and a pattern behind the kinds that are declared already.
A kind that is declared comes first, whatever its pattern is; then a pattern
that cannot be read; then one that matches the empty text.
-/
inductive Refuses
    (table : PropertyTable)
    (declared : List String)
    (kind pattern : String) : Fault → Prop where
  | declaredTwice :
      kind ∈ declared → Refuses table declared kind pattern (.declaredTwice kind)
  | unreadablePattern {cause : PatternError} :
      kind ∉ declared →
        Expr.read table pattern.toList = .error cause →
          Refuses table declared kind pattern (.unreadablePattern kind pattern cause)
  | matchesEmpty {expr : Expr} :
      kind ∉ declared →
        Expr.read table pattern.toList = .ok expr →
          expr.isFoundIn [] = true →
            Refuses table declared kind pattern (.matchesEmpty kind pattern)

variable
    {table : PropertyTable}

section Push

variable
    {grammar changed : Grammar}
    {kind pattern : String}

theorem push_eq_error_iff
    {fault : Fault} :
    grammar.push table kind pattern = .error fault ↔
      Refuses table grammar.kinds kind pattern fault := by
  constructor
  · intro failed
    rw [push] at failed
    split at failed
    · rename_i declared
      cases failed
      exact .declaredTwice (contains_iff_mem_kinds.1 declared)
    · rename_i missing
      have undeclared : kind ∉ grammar.kinds := mt contains_iff_mem_kinds.2 missing
      rw [Rule.read] at failed
      cases meaning : Expr.read table pattern.toList with
      | error cause =>
          rw [meaning] at failed
          cases failed
          exact .unreadablePattern undeclared meaning
      | ok expr =>
          simp only [meaning] at failed
          split at failed
          · rename_i found
            cases failed
            exact .matchesEmpty undeclared meaning found
          · cases failed
  · intro refused
    cases refused with
    | declaredTwice declared => rw [push, if_pos (contains_iff_mem_kinds.2 declared)]
    | unreadablePattern undeclared meaning =>
        rw [push, if_neg (mt contains_iff_mem_kinds.1 undeclared), Rule.read, meaning]
        rfl
    | matchesEmpty undeclared meaning found =>
        rw [push, if_neg (mt contains_iff_mem_kinds.1 undeclared), Rule.read, meaning]
        simp only [found, if_true]
        rfl

/-- A new kind with a usable pattern can be pushed, and nothing else can. -/
theorem exists_push_iff :
    (∃ changed, grammar.push table kind pattern = .ok changed) ↔
      kind ∉ grammar.kinds ∧ IsUsable table pattern := by
  constructor
  · rintro ⟨changed, pushed⟩
    rcases push_cases pushed with ⟨rule, read, undeclared, -⟩
    rcases Rule.read_eq_ok_iff.1 read with ⟨-, -, meaning, notFound⟩
    exact ⟨undeclared, rule.expr, meaning, notFound⟩
  · rintro ⟨undeclared, expr, meaning, notFound⟩
    have read : Rule.read table kind pattern = .ok ⟨kind, pattern, expr⟩ :=
      Rule.read_eq_ok_iff.2 ⟨rfl, rfl, meaning, notFound⟩
    rw [push, if_neg (mt contains_iff_mem_kinds.1 undeclared), read]
    exact ⟨_, rfl⟩

theorem kinds_push
    (pushed : grammar.push table kind pattern = .ok changed) :
    changed.kinds = grammar.kinds ++ [kind] := by
  rw [kinds_eq_map_entries, kinds_eq_map_entries, entries_push pushed, List.map_append]
  rfl

end Push

section PushAll

variable
    {grammar changed : Grammar}
    {entries : List (String × String)}

theorem pushAll_cons_of_ok
    {kind pattern : String}
    (pushed : grammar.push table kind pattern = .ok changed) :
    grammar.pushAll table ((kind, pattern) :: entries) = changed.pushAll table entries := by
  rw [pushAll, pushed]
  rfl

theorem pushAll_cons_of_error
    {kind pattern : String}
    {fault : Fault}
    (failed : grammar.push table kind pattern = .error fault) :
    grammar.pushAll table ((kind, pattern) :: entries) = .error fault := by
  rw [pushAll, failed]
  rfl

theorem entries_pushAll
    (pushed : grammar.pushAll table entries = .ok changed) :
    changed.entries = grammar.entries ++ entries := by
  induction entries generalizing grammar with
  | nil =>
      cases pushed
      exact (List.append_nil _).symm
  | cons entry entries ih =>
      rcases entry with ⟨kind, pattern⟩
      cases first : grammar.push table kind pattern with
      | error fault =>
          rw [pushAll_cons_of_error first] at pushed
          cases pushed
      | ok next =>
          rw [pushAll_cons_of_ok first] at pushed
          rw [ih pushed, entries_push first, List.append_assoc]
          rfl

/-- Entries can be pushed when their kinds are new and distinct and their patterns usable. -/
theorem exists_pushAll_iff :
    (∃ changed, grammar.pushAll table entries = .ok changed) ↔
      (∀ entry ∈ entries, entry.1 ∉ grammar.kinds) ∧
        (entries.map Prod.fst).Nodup ∧
        ∀ entry ∈ entries, IsUsable table entry.2 := by
  induction entries generalizing grammar with
  | nil => simp [pushAll]
  | cons entry entries ih =>
      rcases entry with ⟨kind, pattern⟩
      rw [List.forall_mem_cons, List.forall_mem_cons, List.map_cons, List.nodup_cons]
      cases first : grammar.push table kind pattern with
      | error fault =>
          have refused : ¬ (kind ∉ grammar.kinds ∧ IsUsable table pattern) := by
            rw [← exists_push_iff, first]
            rintro ⟨changed, ⟨⟩⟩
          rw [pushAll_cons_of_error first]
          constructor
          · rintro ⟨changed, ⟨⟩⟩
          · rintro ⟨⟨undeclared, -⟩, -, usable, -⟩
            exact absurd ⟨undeclared, usable⟩ refused
      | ok next =>
          have accepted : kind ∉ grammar.kinds ∧ IsUsable table pattern :=
            exists_push_iff.1 ⟨next, first⟩
          -- Behind the first entry, a kind is new if it was new before and is not the first one.
          have newKinds :
              (∀ entry ∈ entries, entry.1 ∉ next.kinds) ↔
                (∀ entry ∈ entries, entry.1 ∉ grammar.kinds) ∧ kind ∉ entries.map Prod.fst := by
            rw [kinds_push first]
            constructor
            · intro fresh
              constructor
              · intro entry listed declared
                exact fresh entry listed (List.mem_append_left _ declared)
              · intro repeated
                rcases List.mem_map.1 repeated with ⟨entry, listed, rfl⟩
                exact fresh entry listed (List.mem_append_right _ List.mem_cons_self)
            · rintro ⟨fresh, once⟩ entry listed declared
              rcases List.mem_append.1 declared with old | new
              · exact fresh entry listed old
              · exact once (List.mem_singleton.1 new ▸ List.mem_map_of_mem listed)
          rw [pushAll_cons_of_ok first, ih, newKinds]
          constructor
          · rintro ⟨⟨fresh, once⟩, distinct, usable⟩
            exact ⟨⟨accepted.1, fresh⟩, ⟨once, distinct⟩, accepted.2, usable⟩
          · rintro ⟨⟨-, fresh⟩, ⟨once, distinct⟩, -, usable⟩
            exact ⟨⟨fresh, once⟩, distinct, usable⟩

/-- Pushing entries fails with the fault of the first one that cannot be pushed. -/
theorem pushAll_eq_error_iff
    {fault : Fault} :
    grammar.pushAll table entries = .error fault ↔
      ∃ front kind pattern back reached,
        entries = front ++ (kind, pattern) :: back ∧
          grammar.pushAll table front = .ok reached ∧
          reached.push table kind pattern = .error fault := by
  constructor
  · intro failed
    induction entries generalizing grammar with
    | nil => cases failed
    | cons entry entries ih =>
        rcases entry with ⟨kind, pattern⟩
        cases first : grammar.push table kind pattern with
        | error other =>
            rw [pushAll_cons_of_error first] at failed
            cases failed
            exact ⟨[], kind, pattern, entries, grammar, rfl, rfl, first⟩
        | ok next =>
            rw [pushAll_cons_of_ok first] at failed
            rcases ih failed with
              ⟨front, laterKind, laterPattern, back, reached, rfl, passed, refused⟩
            refine ⟨(kind, pattern) :: front, laterKind, laterPattern, back, reached, rfl, ?_,
              refused⟩
            rw [pushAll_cons_of_ok first, passed]
  · rintro ⟨front, kind, pattern, back, reached, rfl, passed, refused⟩
    induction front generalizing grammar with
    | nil =>
        cases passed
        exact pushAll_cons_of_error refused
    | cons entry front ih =>
        rcases entry with ⟨firstKind, firstPattern⟩
        cases first : grammar.push table firstKind firstPattern with
        | error other =>
            rw [pushAll_cons_of_error first] at passed
            cases passed
        | ok next =>
            rw [pushAll_cons_of_ok first] at passed
            rw [List.cons_append, pushAll_cons_of_ok first]
            exact ih passed

end PushAll

section Entries

variable
    {grammar other : Grammar}

/-- The rules of a sound grammar are what its entries are read as. -/
theorem IsSound.map_read_entries
    (sound : grammar.IsSound table) :
    grammar.entries.map (fun entry => Rule.read table entry.1 entry.2) = grammar.rules.map .ok := by
  rw [entries, List.map_map]
  exact List.map_congr_left sound.read

theorem IsSound.eq_of_entries_eq
    (sound : grammar.IsSound table)
    (otherSound : other.IsSound table)
    (same : grammar.entries = other.entries) :
    grammar = other := by
  have sameRules : grammar.rules.map Except.ok = other.rules.map (Except.ok (ε := Fault)) := by
    rw [← sound.map_read_entries, ← otherSound.map_read_entries, same]
  have rules : grammar.rules = other.rules :=
    List.map_injective_iff.2 (fun _ _ => Except.ok.inj) sameRules
  cases grammar
  cases other
  cases rules
  rfl

theorem exists_ofEntries_iff
    {entries : List (String × String)} :
    (∃ grammar, ofEntries table entries = .ok grammar) ↔
      (entries.map Prod.fst).Nodup ∧ ∀ entry ∈ entries, IsUsable table entry.2 := by
  rw [show ofEntries table entries = empty.pushAll table entries from rfl, exists_pushAll_iff]
  constructor
  · rintro ⟨-, distinct, usable⟩
    exact ⟨distinct, usable⟩
  · rintro ⟨distinct, usable⟩
    exact ⟨fun _ _ => List.not_mem_nil, distinct, usable⟩

theorem entries_ofEntries
    {entries : List (String × String)}
    (made : ofEntries table entries = .ok grammar) :
    grammar.entries = entries := by
  exact entries_pushAll made

/-- The entries of a sound grammar make the grammar again. -/
theorem IsSound.ofEntries_entries
    (sound : grammar.IsSound table) :
    ofEntries table grammar.entries = .ok grammar := by
  have usable : ∀ entry ∈ grammar.entries, IsUsable table entry.2 := by
    intro entry listed
    rcases List.mem_map.1 listed with ⟨rule, declared, rfl⟩
    rcases Rule.read_eq_ok_iff.1 (sound.read rule declared) with ⟨-, -, meaning, notFound⟩
    exact ⟨rule.expr, meaning, notFound⟩
  have distinct : (grammar.entries.map Prod.fst).Nodup := by
    rw [← kinds_eq_map_entries]
    exact sound.distinct
  rcases exists_ofEntries_iff.2 ⟨distinct, usable⟩ with ⟨made, done⟩
  have again : made = grammar :=
    (isSound_empty.pushAll done).eq_of_entries_eq sound (entries_ofEntries done)
  rw [done, again]

end Entries

section File

variable
    (grammar : Grammar)

theorem entryOfJson?_entryToJson
    (entry : String × String) :
    entryOfJson? (entryToJson entry) = some entry := by
  have record :
      (entryToJson entry).record? ["kind", "pattern"] =
        some [some (.ofString entry.1), some (.ofString entry.2)] := by
    have distinct :
        ([("kind", Json.ofString entry.1), ("pattern", .ofString entry.2)].map Prod.fst).Nodup := by
      show ["kind", "pattern"].Nodup
      decide
    exact Json.record?_object distinct
  rw [entryOfJson?, record]
  rfl

theorem entriesOfText?_of_read
    {text : String}
    (laidOut : Json.read? text.toList = some grammar.toJson) :
    entriesOfText? text = some grammar.entries := by
  have each :
      (grammar.entries.map entryToJson).mapM entryOfJson? = some (grammar.entries.map id) := by
    rw [List.mapM_map]
    exact Json.mapM_eq_some_map fun entry _ => entryOfJson?_entryToJson entry
  rw [entriesOfText?, laidOut]
  exact each.trans (congrArg some (List.map_id _))

theorem isTextual_toJson :
    grammar.toJson.IsTextual := by
  constructor
  intro element listed
  rcases List.mem_map.1 listed with ⟨entry, -, rfl⟩
  exact Json.isTextual_texts [("kind", entry.1), ("pattern", entry.2)]

end File

/--
A list of kinds and patterns makes a grammar exactly when the kinds are pairwise
distinct and the patterns can be read and do not match the empty text; the
grammar then has this list as its entries, in the same order.  Otherwise, the
fault is that of the first entry that cannot be pushed.

A grammar that edits lead to is read back from every text that is laid out as
the JSON array of its entries, such as the text that is written for it.  It has
the same entries again and scans every source alike under all options.
-/
theorem ofEntries_of_entries
    (table : PropertyTable) :
    (∀ entries : List (String × String),
        ((∃ grammar, ofEntries table entries = .ok grammar) ↔
          (entries.map Prod.fst).Nodup ∧ ∀ entry ∈ entries, IsUsable table entry.2) ∧
        (∀ grammar, ofEntries table entries = .ok grammar → grammar.entries = entries) ∧
        ∀ fault,
          ofEntries table entries = .error fault ↔
            ∃ front kind pattern back,
              entries = front ++ (kind, pattern) :: back ∧
                (∃ grammar, ofEntries table front = .ok grammar) ∧
                Refuses table (front.map Prod.fst) kind pattern fault) ∧
      ∀ grammar : Grammar,
        grammar.IsReachable table →
          Json.read? grammar.toJson.render.toList = some grammar.toJson ∧
            ∀ text : String,
              Json.read? text.toList = some grammar.toJson →
                ∃ loaded,
                  ofText table text = .ok loaded ∧
                    loaded.entries = grammar.entries ∧
                    ∀ options source, loaded.scan options source = grammar.scan options source := by
  constructor
  · intro entries
    refine ⟨exists_ofEntries_iff, fun grammar => entries_ofEntries, ?_⟩
    intro fault
    have kindsOf {front : List (String × String)} {reached : Grammar}
        (made : ofEntries table front = .ok reached) :
        reached.kinds = front.map Prod.fst := by
      rw [kinds_eq_map_entries, entries_ofEntries made]
    rw [show ofEntries table entries = empty.pushAll table entries from rfl,
      pushAll_eq_error_iff]
    constructor
    · rintro ⟨front, kind, pattern, back, reached, divided, made, failed⟩
      have refused := push_eq_error_iff.1 failed
      rw [kindsOf made] at refused
      exact ⟨front, kind, pattern, back, divided, ⟨reached, made⟩, refused⟩
    · rintro ⟨front, kind, pattern, back, divided, ⟨reached, made⟩, refused⟩
      rw [← kindsOf made] at refused
      exact ⟨front, kind, pattern, back, reached, divided, made, push_eq_error_iff.2 refused⟩
  · intro grammar reachable
    refine ⟨grammar.isTextual_toJson.read?_render, ?_⟩
    intro text laidOut
    refine ⟨grammar, ?_, rfl, fun _ _ => rfl⟩
    rw [ofText, entriesOfText?_of_read grammar laidOut]
    exact reachable.isSound.ofEntries_entries

set_option maxRecDepth 4000 in
/--
A pattern with a quote, a backslash and a line break is read back, next to one that
names a property and one for ASCII alone.  An entry with two faults has the first of
them.
-/
theorem ofEntries_of_entries_escaped :
    let table := PropertyTable.basic
    let digits := builtIn.edit table (.push "DIGITS" "\\p\x7bNd\x7d+|(?-u:\\w)")
    let replaced := digits.1.edit table (.replace "COMMA" "\"\\\\\n,")
    digits.2 = none ∧
      replaced.2 = none ∧
      (∃ loaded,
        ofText table replaced.1.toJson.render = .ok loaded ∧
          loaded.entries = replaced.1.entries ∧
          loaded.scan .standard "a\"\\\n," = replaced.1.scan .standard "a\"\\\n,") ∧
      ofEntries table [("A", "a"), ("A", "("), ("B", "b*")] = .error (.declaredTwice "A") := by
  intro table digits replaced
  have reachable : replaced.1.IsReachable table := .edit _ (.edit _ .builtIn)
  obtain ⟨lists, reloads⟩ := ofEntries_of_entries table
  obtain ⟨written, reads⟩ := reloads replaced.1 reachable
  obtain ⟨loaded, read, entries, scans⟩ := reads _ written
  refine ⟨rfl, rfl, ⟨loaded, read, entries, scans _ _⟩, ?_⟩
  refine ((lists _).2.2 _).2 ⟨[("A", "a")], "A", "(", [("B", "b*")], rfl, ⟨_, rfl⟩, ?_⟩
  exact .declaredTwice List.mem_cons_self

end CallScript.Grammar
