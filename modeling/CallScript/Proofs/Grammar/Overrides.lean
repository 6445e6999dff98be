import CallScript.Proofs.Grammar.Entries
import CallScript.Proofs.NameMap.Order
import CallScript.Proofs.Text.ByteOrder

/-!
# Overrides of several patterns

Patterns of several kinds are exchanged one after another, in increasing order of
the kinds.  `Grammar.RefusesOverride` says which exchange fails, and why.  As an
exchange changes no kind, whether one of them fails does not depend on those in
front of it, and a list of overrides comes to its end exactly when none is
refused.  At the first refused override it stops, and what the ones in front of it
have done stays.

The main statement, `Grammar.IsReachable.override_settles`, describes the result
of a map of overrides by looking its kinds up in the map.
-/

namespace CallScript.Grammar

open CallScript.Pattern

/--
The fault of a pattern that is put in the place of the one of a kind.  A pattern
that cannot be read comes first, then one that matches the empty text; only with a
usable pattern does it matter that the kind is not declared.
-/
inductive RefusesOverride
    (table : PropertyTable)
    (declared : List String)
    (kind pattern : String) : Fault → Prop where
  | unreadablePattern {cause : PatternError} :
      Expr.read table pattern.toList = .error cause →
        RefusesOverride table declared kind pattern (.unreadablePattern kind pattern cause)
  | matchesEmpty {expr : Expr} :
      Expr.read table pattern.toList = .ok expr →
        expr.isFoundIn [] = true →
          RefusesOverride table declared kind pattern (.matchesEmpty kind pattern)
  | undeclared :
      IsUsable table pattern →
        kind ∉ declared → RefusesOverride table declared kind pattern (.undeclared kind)

variable
    {table : PropertyTable}

section Replace

variable
    {grammar changed : Grammar}
    {kind pattern : String}

theorem exchange_eq_none_iff
    {rule : Rule}
    {rules : List Rule} :
    exchange rule rules = none ↔ rule.kind ∉ rules.map Rule.kind := by
  induction rules with
  | nil => simp [exchange]
  | cons other rules ih =>
      rw [exchange, List.map_cons, List.mem_cons, not_or, ← ih]
      split
      · rename_i sameKind
        simp [sameKind]
      · rename_i otherKind
        simp [Ne.symm otherKind]

theorem replace_of_refusesOverride
    {fault : Fault}
    (refused : RefusesOverride table grammar.kinds kind pattern fault) :
    grammar.replace table kind pattern = .error fault := by
  cases refused with
  | unreadablePattern meaning => rw [replace, Rule.read, meaning]
  | matchesEmpty meaning found =>
      rw [replace, Rule.read, meaning]
      simp only [found, if_true]
  | undeclared usable undeclared =>
      rcases usable with ⟨expr, meaning, notFound⟩
      have read : Rule.read table kind pattern = .ok ⟨kind, pattern, expr⟩ :=
        Rule.read_eq_ok_iff.2 ⟨rfl, rfl, meaning, notFound⟩
      have missing : exchange ⟨kind, pattern, expr⟩ grammar.rules = none :=
        exchange_eq_none_iff.2 undeclared
      rw [replace, read]
      simp only [missing]

theorem exists_replace
    (declared : kind ∈ grammar.kinds)
    (usable : IsUsable table pattern) :
    ∃ changed, grammar.replace table kind pattern = .ok changed := by
  rcases usable with ⟨expr, meaning, notFound⟩
  have read : Rule.read table kind pattern = .ok ⟨kind, pattern, expr⟩ :=
    Rule.read_eq_ok_iff.2 ⟨rfl, rfl, meaning, notFound⟩
  cases done : exchange ⟨kind, pattern, expr⟩ grammar.rules with
  | none => exact absurd declared (exchange_eq_none_iff.1 done)
  | some rules => exact ⟨⟨rules⟩, by simp only [replace, read, done]⟩

/-- Whatever is not refused has a declared kind and a usable pattern. -/
theorem exists_refusesOverride_or
    (declared : List String)
    (kind pattern : String) :
    (∃ fault, RefusesOverride table declared kind pattern fault) ∨
      kind ∈ declared ∧ IsUsable table pattern := by
  cases meaning : Expr.read table pattern.toList with
  | error cause => exact .inl ⟨_, .unreadablePattern meaning⟩
  | ok expr =>
      cases found : expr.isFoundIn [] with
      | true => exact .inl ⟨_, .matchesEmpty meaning found⟩
      | false =>
          have usable : IsUsable table pattern := ⟨expr, meaning, found⟩
          by_cases listed : kind ∈ declared
          · exact .inr ⟨listed, usable⟩
          · exact .inl ⟨_, .undeclared usable listed⟩

theorem replace_eq_error_iff
    {fault : Fault} :
    grammar.replace table kind pattern = .error fault ↔
      RefusesOverride table grammar.kinds kind pattern fault := by
  refine ⟨fun failed => ?_, replace_of_refusesOverride⟩
  rcases exists_refusesOverride_or grammar.kinds kind pattern with ⟨other, refused⟩ | good
  · have same := failed.symm.trans (replace_of_refusesOverride refused)
    cases same
    exact refused
  · rcases exists_replace good.1 good.2 with ⟨changed, replaced⟩
    rw [replaced] at failed
    cases failed

theorem exists_replace_iff :
    (∃ changed, grammar.replace table kind pattern = .ok changed) ↔
      kind ∈ grammar.kinds ∧ IsUsable table pattern := by
  refine ⟨?_, fun good => exists_replace good.1 good.2⟩
  rintro ⟨changed, replaced⟩
  refine (exists_refusesOverride_or grammar.kinds kind pattern).resolve_left ?_
  rintro ⟨fault, refused⟩
  rw [replace_of_refusesOverride refused] at replaced
  cases replaced

/-- In a sound grammar, a replacement changes the pattern of its kind and no other one. -/
theorem IsSound.entries_replace
    (sound : grammar.IsSound table)
    (replaced : grammar.replace table kind pattern = .ok changed) :
    changed.entries =
      grammar.entries.map fun entry => (entry.1, if entry.1 = kind then pattern else entry.2) := by
  rcases replace_cases replaced with ⟨rule, front, old, back, read, sameKind, before, after⟩
  rcases Rule.read_eq_ok_iff.1 read with ⟨rfl, rfl, -, -⟩
  -- No kind is declared twice, so the other rules have other kinds.
  have distinct : (front.map Rule.kind ++ old.kind :: back.map Rule.kind).Nodup := by
    simpa [kinds, before] using sound.distinct
  have others : ∀ other ∈ front ++ back, other.kind ≠ rule.kind := by
    rw [← sameKind]
    intro other listed same
    refine (List.nodup_middle.1 distinct).notMem ?_
    rw [← List.map_append, ← same]
    exact List.mem_map_of_mem listed
  rw [List.forall_mem_append] at others
  simp only [entries, before, after, List.map_append, List.map_cons, List.map_map, sameKind,
    if_true]
  have kept (rules : List Rule) (different : ∀ other ∈ rules, other.kind ≠ rule.kind) :
      rules.map (fun other => (other.kind, other.pattern)) =
        rules.map fun other =>
          (other.kind, if other.kind = rule.kind then rule.pattern else other.pattern) :=
    List.map_congr_left fun other listed => by rw [if_neg (different other listed)]
  rw [kept front others.1, kept back others.2]
  rfl

end Replace

section ReplaceAll

variable
    {grammar changed : Grammar}
    {kind pattern : String}
    {overrides : List (String × String)}

theorem replaceAll_cons_of_ok
    (replaced : grammar.replace table kind pattern = .ok changed) :
    grammar.replaceAll table ((kind, pattern) :: overrides) =
      changed.replaceAll table overrides := by
  rw [replaceAll, replaced]

theorem replaceAll_cons_of_error
    {fault : Fault}
    (failed : grammar.replace table kind pattern = .error fault) :
    grammar.replaceAll table ((kind, pattern) :: overrides) = (grammar, some fault) := by
  rw [replaceAll, failed]

/-- Several overrides are all made when every single one could be made at the start. -/
theorem replaceAll_eq_none_iff :
    (grammar.replaceAll table overrides).2 = none ↔
      ∀ entry ∈ overrides, entry.1 ∈ grammar.kinds ∧ IsUsable table entry.2 := by
  induction overrides generalizing grammar with
  | nil => simp [replaceAll]
  | cons entry overrides ih =>
      rcases entry with ⟨kind, pattern⟩
      rw [List.forall_mem_cons, ← exists_replace_iff]
      cases replaced : grammar.replace table kind pattern with
      | error fault =>
          rw [replaceAll_cons_of_error replaced]
          simp
      | ok changed =>
          rw [replaceAll_cons_of_ok replaced, ih, kinds_replace replaced]
          simp

/-- Several overrides stop at the first one that is refused, and keep what was made before. -/
theorem replaceAll_eq_some
    {fault : Fault}
    (failed : (grammar.replaceAll table overrides).2 = some fault) :
    ∃ front kind pattern back,
      overrides = front ++ (kind, pattern) :: back ∧
        (grammar.replaceAll table front).2 = none ∧
        RefusesOverride table grammar.kinds kind pattern fault ∧
        (grammar.replaceAll table overrides).1 = (grammar.replaceAll table front).1 := by
  induction overrides generalizing grammar with
  | nil => cases failed
  | cons entry overrides ih =>
      rcases entry with ⟨kind, pattern⟩
      cases replaced : grammar.replace table kind pattern with
      | error other =>
          rw [replaceAll_cons_of_error replaced] at failed ⊢
          cases failed
          exact ⟨[], kind, pattern, overrides, rfl, rfl, replace_eq_error_iff.1 replaced, rfl⟩
      | ok changed =>
          rw [replaceAll_cons_of_ok replaced] at failed ⊢
          rcases ih failed with ⟨front, other, otherPattern, back, rfl, made, refused, left⟩
          rw [kinds_replace replaced] at refused
          refine ⟨(kind, pattern) :: front, other, otherPattern, back, rfl, ?_, refused, ?_⟩
          · rw [replaceAll_cons_of_ok replaced, made]
          · rw [replaceAll_cons_of_ok replaced, left]

/-- Overrides that are all made give each entry the pattern that is listed for its kind. -/
theorem IsSound.entries_replaceAll
    (sound : grammar.IsSound table)
    (distinct : (overrides.map Prod.fst).Nodup)
    (made : (grammar.replaceAll table overrides).2 = none) :
    (grammar.replaceAll table overrides).1.entries =
      grammar.entries.map fun entry =>
        (entry.1, (NameMap.get? ⟨overrides⟩ entry.1).getD entry.2) := by
  induction overrides generalizing grammar with
  | nil => simp [replaceAll, NameMap.get?]
  | cons entry overrides ih =>
      rcases entry with ⟨kind, pattern⟩
      cases replaced : grammar.replace table kind pattern with
      | error fault =>
          rw [replaceAll_cons_of_error replaced] at made
          cases made
      | ok changed =>
          rw [List.map_cons, List.nodup_cons] at distinct
          rw [replaceAll_cons_of_ok replaced] at made ⊢
          rw [ih (sound.replace replaced) distinct.2 made, sound.entries_replace replaced,
            List.map_map]
          refine List.map_congr_left fun other _ => ?_
          simp only [Function.comp_apply, NameMap.get?_cons]
          by_cases same : other.1 = kind
          · -- The kind is not listed a second time behind the override of it.
            have unlisted : NameMap.get? ⟨overrides⟩ kind = none :=
              (NameMap.get?_eq_none_iff _ _).2 distinct.1
            simp [same, unlisted]
          · simp [same]

end ReplaceAll

section Ordered

variable
    {front back : List (String × String)}
    {kind pattern : String}
    (ordered :
      (front ++ (kind, pattern) :: back).Pairwise fun left right => left.1 < right.1)

include ordered

/-- In increasing order of the kinds, the overrides in front are those of smaller kinds. -/
theorem mem_front_iff
    (entry : String × String) :
    entry ∈ front ↔ entry ∈ front ++ (kind, pattern) :: back ∧ entry.1 < kind := by
  rw [List.pairwise_append, List.pairwise_cons] at ordered
  constructor
  · intro listed
    exact ⟨List.mem_append_left _ listed, ordered.2.2 entry listed _ List.mem_cons_self⟩
  · rintro ⟨listed, less⟩
    rcases List.mem_append.1 listed with inFront | behind
    · exact inFront
    rcases List.mem_cons.1 behind with rfl | later
    · exact absurd less (String.lt_irrefl _)
    · exact absurd less (String.lt_asymm (ordered.2.1.1 entry later))

theorem get?_front
    (name : String) :
    NameMap.get? ⟨front⟩ name =
      if name < kind then NameMap.get? ⟨front ++ (kind, pattern) :: back⟩ name else none := by
  have frontOrdered : NameMap.IsOrdered ⟨front⟩ := (List.pairwise_append.1 ordered).1
  have wholeOrdered : NameMap.IsOrdered ⟨front ++ (kind, pattern) :: back⟩ := ordered
  refine Option.ext fun value => ?_
  rw [← frontOrdered.mem_entries_iff, mem_front_iff ordered, wholeOrdered.mem_entries_iff]
  split
  · rename_i less
    simp [less]
  · rename_i notLess
    simp [notLess]

end Ordered

/--
Overrides of a grammar that edits lead to are all made exactly when every kind in
the map is declared and every pattern is usable.  Each entry then has the pattern
that the map gives for its kind, or its old one when there is none.

Otherwise, the fault is that of the kind with the smallest bytes whose override is
refused: all kinds in the map with smaller bytes are declared and have usable
patterns there.  Their entries have the patterns from the map, and all other entries
their old ones.  In both cases the entries have their old order, and they determine
the grammar.
-/
theorem IsReachable.override_settles
    {grammar : Grammar}
    (reachable : grammar.IsReachable table)
    {overrides : NameMap String}
    (ordered : overrides.IsOrdered) :
    ((grammar.override table overrides).2 = none ↔
        ∀ kind pattern,
          overrides.get? kind = some pattern → kind ∈ grammar.kinds ∧ IsUsable table pattern) ∧
      ((grammar.override table overrides).2 = none →
        (grammar.override table overrides).1.entries =
          grammar.entries.map fun entry =>
            (entry.1, (overrides.get? entry.1).getD entry.2)) ∧
      (∀ fault,
        (grammar.override table overrides).2 = some fault →
          ∃ kind pattern,
            overrides.get? kind = some pattern ∧
              RefusesOverride table grammar.kinds kind pattern fault ∧
              (∀ other otherPattern,
                overrides.get? other = some otherPattern →
                  Text.bytes other < Text.bytes kind →
                    other ∈ grammar.kinds ∧ IsUsable table otherPattern) ∧
              (grammar.override table overrides).1.entries =
                grammar.entries.map fun entry =>
                  (entry.1,
                    if Text.bytes entry.1 < Text.bytes kind then
                      (overrides.get? entry.1).getD entry.2
                    else entry.2)) ∧
      ofEntries table (grammar.override table overrides).1.entries =
        .ok (grammar.override table overrides).1 := by
  have sound := reachable.isSound
  have distinct : (overrides.entries.map Prod.fst).Nodup := by
    rw [List.nodup_iff_pairwise_ne, List.pairwise_map]
    exact ordered.imp String.ne_of_lt
  refine ⟨?_, sound.entries_replaceAll distinct, ?_, ?_⟩
  · rw [override, replaceAll_eq_none_iff]
    constructor
    · intro good kind pattern bound
      exact good _ ((ordered.mem_entries_iff kind pattern).2 bound)
    · rintro good ⟨kind, pattern⟩ listed
      exact good kind pattern ((ordered.mem_entries_iff kind pattern).1 listed)
  · intro fault failed
    rcases replaceAll_eq_some failed with
      ⟨front, kind, pattern, back, divided, made, refused, left⟩
    rcases overrides with ⟨entries⟩
    obtain rfl : entries = front ++ (kind, pattern) :: back := divided
    refine ⟨kind, pattern, ?_, refused, ?_, ?_⟩
    · exact (ordered.mem_entries_iff kind pattern).1 (by simp)
    · intro other otherPattern bound less
      have listed := (ordered.mem_entries_iff other otherPattern).2 bound
      have inFront :=
        (mem_front_iff ordered _).2 ⟨listed, Text.bytes_lt_bytes_iff.1 less⟩
      exact replaceAll_eq_none_iff.1 made _ inFront
    · have frontDistinct : (front.map Prod.fst).Nodup := by
        rw [List.map_append] at distinct
        exact distinct.of_append_left
      rw [override, left, sound.entries_replaceAll frontDistinct made]
      refine List.map_congr_left fun entry _ => ?_
      rw [get?_front ordered]
      simp only [Text.bytes_lt_bytes_iff]
      split
      · rfl
      · rfl
  · exact (sound.edit (.override overrides)).ofEntries_entries

/-- The second one of three overrides is not declared and matches the empty text. -/
theorem IsReachable.override_settles_stopped :
    let table := PropertyTable.basic
    let overrides :=
      NameMap.ofList [("NUMBER", "["), ("FLOAT", "x*"), ("COMMA", "\\p\x7bNd\x7d")]
    Grammar.builtIn.IsReachable table ∧
      overrides.IsOrdered ∧
      (Grammar.builtIn.override table overrides).2 = some (.matchesEmpty "FLOAT" "x*") ∧
      (Grammar.builtIn.override table overrides).1.entries =
        Grammar.builtIn.entries.map fun entry =>
          (entry.1, if entry.1 = "COMMA" then "\\p\x7bNd\x7d" else entry.2) := by
  intro table overrides
  have ordered : overrides.IsOrdered := NameMap.isOrdered_ofList _
  have failed :
      (Grammar.builtIn.override table overrides).2 = some (.matchesEmpty "FLOAT" "x*") := rfl
  refine ⟨.builtIn, ordered, failed, ?_⟩
  obtain ⟨-, -, described, -⟩ := IsReachable.override_settles .builtIn ordered
  obtain ⟨kind, pattern, -, refused, -, entries⟩ := described _ failed
  cases refused
  simp only [Text.bytes_lt_bytes_iff] at entries
  rw [entries]
  decide +kernel

end CallScript.Grammar
