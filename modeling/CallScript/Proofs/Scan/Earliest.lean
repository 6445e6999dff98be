import CallScript.Proofs.Pattern.Search
import CallScript.Scan.Span

/-!
# The match that decides a round

A scan looks for its next match place by place and asks the rules in turn at
each place.  The main statement, `Grammar.nextFind?_isEarliest`, describes the
result rule by rule: every rule proposes its first match that takes a
character, and the proposal that stands earliest is chosen; of proposals at the
same place, the one whose rule is declared first.
-/

namespace CallScript

open CallScript.Pattern

def Pattern.Hit.start (hit : Hit) : Nat :=
  hit.skipped.length

/--
A hit is the earliest of several proposals, and the one with the least index
among the earliest.
-/
structure IsEarliest (proposals : List (Option Hit)) (index : Nat) (hit : Hit) : Prop where
  /-- The hit is proposed. -/
  proposed : proposals[index]? = some (some hit)
  /-- No proposal begins in front of it. -/
  earliest :
    ∀ (other : Nat) (otherHit : Hit),
      proposals[other]? = some (some otherHit) → hit.start ≤ otherHit.start
  /-- No proposal with a smaller index begins at the same place. -/
  declaredFirst :
    ∀ (other : Nat) (otherHit : Hit),
      proposals[other]? = some (some otherHit) → otherHit.start = hit.start → index ≤ other

/-- There is at most one earliest proposal. -/
theorem IsEarliest.unique
    {proposals : List (Option Hit)}
    {left right : Nat}
    {leftHit rightHit : Hit}
    (leftEarliest : IsEarliest proposals left leftHit)
    (rightEarliest : IsEarliest proposals right rightHit) :
    left = right ∧ leftHit = rightHit := by
  have leftLe := leftEarliest.earliest right rightHit rightEarliest.proposed
  have rightLe := rightEarliest.earliest left leftHit leftEarliest.proposed
  have sameStart : leftHit.start = rightHit.start := Nat.le_antisymm leftLe rightLe
  have sameIndex : left = right :=
    Nat.le_antisymm
      (leftEarliest.declaredFirst right rightHit rightEarliest.proposed sameStart.symm)
      (rightEarliest.declaredFirst left leftHit leftEarliest.proposed sameStart)
  subst sameIndex
  have sameHit := leftEarliest.proposed.symm.trans rightEarliest.proposed
  exact ⟨rfl, by simpa using sameHit⟩

/-- The earliest proposal stays the earliest when all begin one character later. -/
theorem IsEarliest.after
    {proposals : List (Option Hit)}
    {index : Nat}
    {hit : Hit}
    (chosen : IsEarliest proposals index hit)
    (character : Char) :
    IsEarliest (proposals.map (Option.map (Hit.after character))) index (hit.after character) := by
  have shifted :
      ∀ {other : Nat} {otherHit : Hit},
        (proposals.map (Option.map (Hit.after character)))[other]? = some (some otherHit) →
          ∃ inner : Hit,
            proposals[other]? = some (some inner) ∧ otherHit = inner.after character := by
    intro other otherHit proposed
    rw [List.getElem?_map] at proposed
    rcases Option.map_eq_some_iff.1 proposed with ⟨proposal, present, mapped⟩
    rcases Option.map_eq_some_iff.1 mapped with ⟨inner, rfl, equal⟩
    exact ⟨inner, present, equal.symm⟩
  constructor
  · rw [List.getElem?_map, chosen.proposed]
    rfl
  · intro other otherHit proposed
    rcases shifted proposed with ⟨inner, present, rfl⟩
    exact Nat.succ_le_succ (chosen.earliest other inner present)
  · intro other otherHit proposed sameStart
    rcases shifted proposed with ⟨inner, present, rfl⟩
    exact chosen.declaredFirst other inner present (Nat.succ.inj sameStart)

/-- One proposal more, which does not begin in front of the earliest one, changes nothing. -/
theorem IsEarliest.concat
    {proposals : List (Option Hit)}
    {index : Nat}
    {hit : Hit}
    (chosen : IsEarliest proposals index hit)
    {proposal : Option Hit}
    (later : ∀ last : Hit, proposal = some last → hit.start ≤ last.start) :
    IsEarliest (proposals ++ [proposal]) index hit := by
  have present : index < proposals.length :=
    (List.getElem?_eq_some_iff.1 chosen.proposed).1
  constructor
  · rw [List.getElem?_append_left present]
    exact chosen.proposed
  · intro other otherHit proposed
    rw [List.getElem?_append] at proposed
    split at proposed
    · exact chosen.earliest other otherHit proposed
    · exact later otherHit (List.mem_singleton.1 (List.mem_of_getElem? proposed)).symm
  · intro other otherHit proposed sameStart
    rw [List.getElem?_append] at proposed
    split at proposed
    · exact chosen.declaredFirst other otherHit proposed sameStart
    · omega

/-- A last proposal that begins in front of all the others is the earliest. -/
theorem IsEarliest.of_last
    {proposals : List (Option Hit)}
    {hit : Hit}
    (earlier : ∀ other : Hit, some other ∈ proposals → hit.start < other.start) :
    IsEarliest (proposals ++ [some hit]) proposals.length hit := by
  constructor
  · exact List.getElem?_concat_length
  · intro other otherHit proposed
    rcases List.mem_append.1 (List.mem_of_getElem? proposed) with before | last
    · exact Nat.le_of_lt (earlier otherHit before)
    · cases List.mem_singleton.1 last
      exact Nat.le_refl _
  · intro other otherHit proposed sameStart
    rw [List.getElem?_append] at proposed
    split at proposed
    · have ahead := earlier otherHit (List.mem_of_getElem? proposed)
      omega
    · omega

/-- A search that skips nothing has found a match at its first place. -/
theorem Pattern.Expr.takes_of_search?_skipped_nil
    {expr : Expr}
    {before : Option Char}
    {text : List Char}
    {hit : Hit}
    (found : expr.search? before text = some hit)
    (here : hit.start = 0) :
    ∃ length, expr.matchLength? before text = some (length + 1) := by
  cases text with
  | nil => simp [Expr.search?] at found
  | cons character rest =>
      simp only [Expr.search?] at found
      split at found
      · rename_i length chosen
        exact ⟨length, chosen⟩
      · rcases Option.map_eq_some_iff.1 found with ⟨inner, -, rfl⟩
        simp [Hit.start, Hit.after] at here

namespace Grammar

/-- The rule chosen at a place takes a character there, and no rule in front of it does. -/
theorem ruleAt?_eq_some
    {before : Option Char}
    {text : List Char}
    {rules : List Rule}
    {rule : Rule}
    {length : Nat}
    (found : ruleAt? before text rules = some (rule, length)) :
    ∃ index,
      rules[index]? = some rule ∧
        rule.expr.matchLength? before text = some length ∧
        ∀ (other : Nat) (otherRule : Rule) (otherLength : Nat),
          rules[other]? = some otherRule →
            otherRule.expr.matchLength? before text = some (otherLength + 1) →
              index ≤ other := by
  induction rules with
  | nil => simp [ruleAt?] at found
  | cons first rules ih =>
      simp only [ruleAt?] at found
      split at found
      · rename_i taken
        obtain ⟨rfl, rfl⟩ := by simpa using found
        exact ⟨0, rfl, taken, fun other _ _ _ _ => Nat.zero_le other⟩
      · rename_i notTaken
        rcases ih found with ⟨index, declared, taken, least⟩
        refine ⟨index + 1, declared, taken, ?_⟩
        intro other otherRule otherLength otherDeclared otherTaken
        cases other with
        | zero =>
            obtain rfl : first = otherRule := by simpa using otherDeclared
            exact absurd otherTaken (notTaken otherLength)
        | succ other =>
            have bound := least other otherRule otherLength (by simpa using otherDeclared)
              otherTaken
            omega

theorem matchLength?_of_ruleAt?_none
    {before : Option Char}
    {text : List Char}
    {rules : List Rule}
    (missing : ruleAt? before text rules = none)
    {rule : Rule}
    (member : rule ∈ rules)
    (length : Nat) :
    rule.expr.matchLength? before text ≠ some (length + 1) := by
  induction rules with
  | nil => simp at member
  | cons first rules ih =>
      simp only [ruleAt?] at missing
      split at missing
      · simp at missing
      · rename_i notTaken
        rcases List.mem_cons.1 member with rfl | later
        · exact notTaken length
        · exact ih missing later

theorem search?_of_ruleAt?_none
    {before : Option Char}
    {character : Char}
    {rest : List Char}
    {rules : List Rule}
    (missing : ruleAt? before (character :: rest) rules = none)
    {rule : Rule}
    (member : rule ∈ rules) :
    rule.expr.search? before (character :: rest) =
      (rule.expr.search? (some character) rest).map (Hit.after character) :=
  Expr.search?_of_notTaking (matchLength?_of_ruleAt?_none missing member)

/-- Nothing is found exactly when no rule proposes anything. -/
theorem search?_of_nextFind?_none
    {rules : List Rule}
    {before : Option Char}
    {text : List Char}
    (missing : nextFind? rules before text = none)
    {rule : Rule}
    (member : rule ∈ rules) :
    rule.expr.search? before text = none := by
  induction text generalizing before with
  | nil => rfl
  | cons character rest ih =>
      simp only [nextFind?] at missing
      split at missing
      · simp at missing
      · rename_i noRule
        rw [search?_of_ruleAt?_none noRule member, ih (Option.map_eq_none_iff.1 missing)]
        rfl

/-- What is found next is the earliest proposal of the rules, and it divides the text. -/
theorem nextFind?_isEarliest
    {rules : List Rule}
    {before : Option Char}
    {text : List Char}
    {find : Find}
    (found : nextFind? rules before text = some find) :
    ∃ index,
      rules[index]? = some find.rule ∧
        IsEarliest (rules.map fun rule => rule.expr.search? before text) index
          ⟨find.skipped, find.matched⟩ ∧
        find.skipped ++ find.matched ++ find.rest = text := by
  induction text generalizing before find with
  | nil => simp [nextFind?] at found
  | cons character rest ih =>
      simp only [nextFind?] at found
      split at found
      · rename_i rule length chosen
        obtain rfl := by simpa using found
        rcases ruleAt?_eq_some chosen with ⟨index, declared, taken, least⟩
        obtain ⟨length, rfl⟩ := 
          Nat.exists_eq_succ_of_ne_zero (Nat.ne_of_gt (pos_of_ruleAt? chosen))
        refine ⟨index, declared, ⟨?_, ?_, ?_⟩, ?_⟩
        · simp [declared, Expr.search?, taken]
        · intro other otherHit _
          exact Nat.zero_le _
        · intro other otherHit proposed sameStart
          rw [List.getElem?_map] at proposed
          rcases Option.map_eq_some_iff.1 proposed with ⟨otherRule, otherDeclared, otherFound⟩
          obtain ⟨otherLength, otherTaken⟩ :=
            Expr.takes_of_search?_skipped_nil otherFound sameStart
          exact least other otherRule otherLength otherDeclared otherTaken
        · simp
      · rename_i noRule
        rcases Option.map_eq_some_iff.1 found with ⟨inner, innerFound, rfl⟩
        rcases ih innerFound with ⟨index, declared, chosen, divided⟩
        have later :
            (rules.map fun rule => rule.expr.search? before (character :: rest)) =
              (rules.map fun rule => rule.expr.search? (some character) rest).map
                (Option.map (Hit.after character)) := by
          rw [List.map_map]
          apply List.map_congr_left
          intro rule member
          exact search?_of_ruleAt?_none noRule member
        refine ⟨index, declared, ?_, ?_⟩
        · rw [later]
          exact chosen.after character
        · simpa [Find.after] using divided

end Grammar

end CallScript
