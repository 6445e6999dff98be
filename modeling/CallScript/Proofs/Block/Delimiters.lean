import CallScript.Block
import CallScript.Proofs.Pattern.Runs

/-!
# The delimiters of a block

Two patterns cut a chunk: one takes a whole cluster of delimiters, the other one
unit of it.  Both read the same units from left to right, a parenthesis together
with the brace that it touches on its inside.  The main statements are
`Block.matchLength?_clusterExpr` and `Block.lastUnit_textOf`.
-/

namespace CallScript.Block

open CallScript.Pattern

/-- A unit among the delimiters. -/
inductive Delimiter where
  /-- An opening parenthesis with an opening brace behind it. -/
  | openingBrace
  /-- A closing parenthesis with a closing brace in front of it. -/
  | closingBrace
  /-- An opening parenthesis. -/
  | opening
  /-- A closing parenthesis. -/
  | closing
  deriving DecidableEq

namespace Delimiter

/-- How the unit is written. -/
def text : Delimiter → List Char
  | .openingBrace => ['(', '{']
  | .closingBrace => ['}', ')']
  | .opening => ['(']
  | .closing => [')']

theorem text_ne_nil
    (unit : Delimiter) :
    unit.text ≠ [] := by
  cases unit with
  | openingBrace | closingBrace | opening | closing => exact List.cons_ne_nil _ _

/-- The text of units one after another. -/
def textOf (units : List Delimiter) : List Char :=
  units.flatMap text

@[simp]
theorem textOf_nil :
    textOf [] = [] := by
  rfl

@[simp]
theorem textOf_cons
    (unit : Delimiter)
    (units : List Delimiter) :
    textOf (unit :: units) = unit.text ++ textOf units := by
  rfl

@[simp]
theorem textOf_append
    (front back : List Delimiter) :
    textOf (front ++ back) = textOf front ++ textOf back :=
  List.flatMap_append

theorem textOf_ne_nil
    {units : List Delimiter}
    (nonempty : units ≠ []) :
    textOf units ≠ [] := by
  cases units with
  | nil => exact absurd rfl nonempty
  | cons unit units => exact List.append_ne_nil_of_left_ne_nil unit.text_ne_nil _

/-- The units at the start of a text, one behind the other. -/
def unitsOf : List Char → List Delimiter
  | '(' :: '{' :: rest => .openingBrace :: unitsOf rest
  | '}' :: ')' :: rest => .closingBrace :: unitsOf rest
  | '(' :: rest => .opening :: unitsOf rest
  | ')' :: rest => .closing :: unitsOf rest
  | _ => []

/-- The first unit of a text stands at its start, and the others behind it. -/
theorem exists_of_unitsOf_eq_cons
    {source : List Char}
    {unit : Delimiter}
    {units : List Delimiter}
    (read : unitsOf source = unit :: units) :
    ∃ rest, source = unit.text ++ rest ∧ unitsOf rest = units := by
  revert read
  fun_cases unitsOf source with
  | case1 rest | case2 rest | case3 rest unbraced | case4 rest =>
      rintro ⟨⟩
      exact ⟨rest, rfl, rfl⟩
  | case5 _ _ _ _ _ => rintro ⟨⟩

/-- The character is a parenthesis, or a brace on the inside of a parenthesis. -/
def IsDelimiting (before : Option Char) (character : Char) (after : Option Char) : Prop :=
  character = '(' ∨ character = ')' ∨
    (character = '{' ∧ before = some '(') ∨ (character = '}' ∧ after = some ')')

/-- No unit begins with a character that does not delimit. -/
theorem unitsOf_eq_nil
    {before : Option Char}
    {character : Char}
    {rest : List Char}
    (plain : ¬ IsDelimiting before character rest.head?) :
    unitsOf (character :: rest) = [] := by
  cases read : unitsOf (character :: rest) with
  | nil => rfl
  | cons unit units =>
      rcases exists_of_unitsOf_eq_cons read with ⟨others, divided, -⟩
      refine absurd ?_ plain
      cases unit with
      | openingBrace | closingBrace | opening | closing =>
          rcases List.cons.inj divided with ⟨rfl, rfl⟩
          simp [IsDelimiting]

/-- Where no unit begins, only a brace behind an opening parenthesis delimits. -/
theorem not_isDelimiting_of_unitsOf_eq_nil
    {before : Option Char}
    {character : Char}
    {rest : List Char}
    (unread : unitsOf (character :: rest) = [])
    (apart : before = some '(' → character ≠ '{') :
    ¬ IsDelimiting before character rest.head? := by
  rintro (rfl | rfl | ⟨rfl, opened⟩ | ⟨rfl, closed⟩)
  · cases rest with
    | nil => cases unread
    | cons next rest =>
        by_cases brace : next = '{'
        · subst brace
          cases unread
        · rw [unitsOf] at unread
          · cases unread
          · rintro tail ⟨⟩
            exact brace rfl
  · cases unread
  · exact apart opened rfl
  · rcases List.head?_eq_some_iff.1 closed with ⟨tail, rfl⟩
    cases unread

/-- The units at the start of a text end in front of a character that does not delimit. -/
theorem exists_of_unitsOf_eq
    {source : List Char}
    {units : List Delimiter}
    (read : unitsOf source = units)
    (nonempty : units ≠ [])
    (before : Option Char) :
    ∃ rest,
      source = textOf units ++ rest ∧
        ∀ character tail,
          rest = character :: tail →
            ¬ IsDelimiting (lastOr before (textOf units)) character tail.head? := by
  induction units generalizing source before with
  | nil => exact absurd rfl nonempty
  | cons unit units ih =>
      rcases exists_of_unitsOf_eq_cons read with ⟨rest, rfl, readRest⟩
      cases units with
      | cons next units =>
          rcases ih readRest (List.cons_ne_nil _ _) (lastOr before unit.text) with
            ⟨behind, rfl, plain⟩
          refine ⟨behind, (List.append_assoc _ _ _).symm, ?_⟩
          rw [textOf_cons, lastOr_append]
          exact plain
      | nil =>
          refine ⟨rest, by simp, ?_⟩
          rintro character tail rfl
          apply not_isDelimiting_of_unitsOf_eq_nil readRest
          rintro opened rfl
          cases unit with
          | openingBrace | closingBrace | closing => simp [text] at opened
          | opening => cases read

example :
    unitsOf ['(', '{', ')', '}', ')', '{', '('] = [.openingBrace, .closing, .closingBrace] := by
  decide

/-- Units are read back in front of a text that begins with no delimiting character. -/
theorem unitsOf_textOf_append
    (units : List Delimiter)
    (before : Option Char)
    (rest : List Char)
    (plain :
      ∀ character tail,
        rest = character :: tail →
          ¬ IsDelimiting (lastOr before (textOf units)) character tail.head?) :
    unitsOf (textOf units ++ rest) = units := by
  induction units generalizing before with
  | nil =>
      cases rest with
      | nil => rfl
      | cons character tail => exact unitsOf_eq_nil (plain character tail rfl)
  | cons unit units ih =>
      rw [textOf_cons, lastOr_append] at plain
      have later := ih _ plain
      cases unit with
      | openingBrace => exact congrArg _ later
      | closingBrace => exact congrArg _ later
      | closing => exact congrArg _ later
      | opening =>
          have unbraced : ∀ tail, textOf units ++ rest ≠ '{' :: tail := by
            intro tail braced
            cases units with
            | nil =>
                refine plain '{' tail braced ?_
                simp [IsDelimiting, text]
            | cons next units =>
                cases next with
                | openingBrace | closingBrace | opening | closing => cases braced
          rw [textOf_cons, text, List.cons_append, List.cons_append, List.nil_append, unitsOf,
            later]
          exact unbraced

@[simp]
theorem unitsOf_textOf
    (units : List Delimiter) :
    unitsOf (textOf units) = units := by
  have read := unitsOf_textOf_append units none [] (by rintro _ _ ⟨⟩)
  rwa [List.append_nil] at read

theorem isDelimiting_of_text_eq
    {unit : Delimiter}
    {front back : List Char}
    {character : Char}
    (divided : unit.text = front ++ character :: back)
    (before : Option Char)
    (after : List Char) :
    IsDelimiting (lastOr before front) character (back ++ after).head? := by
  cases unit with
  | opening | closing =>
      rcases List.cons_eq_append_iff.1 divided with ⟨rfl, first⟩ | ⟨later, -, second⟩
      · cases first
        simp [IsDelimiting]
      · simp at second
  | openingBrace | closingBrace =>
      rcases List.cons_eq_append_iff.1 divided with ⟨rfl, first⟩ | ⟨later, rfl, second⟩
      · cases first
        simp [IsDelimiting]
      · rcases List.cons_eq_append_iff.1 second with ⟨rfl, first⟩ | ⟨last, -, third⟩
        · cases first
          simp [IsDelimiting]
        · simp at third

/-- In units one after another, every character delimits, whatever stands around them. -/
theorem isDelimiting_of_textOf_eq
    {units : List Delimiter}
    {front back : List Char}
    {character : Char}
    (divided : textOf units = front ++ character :: back)
    (before : Option Char)
    (after : List Char) :
    IsDelimiting (lastOr before front) character (back ++ after).head? := by
  induction units generalizing front before with
  | nil => simp at divided
  | cons unit units ih =>
      rw [textOf_cons] at divided
      rcases List.append_eq_append_iff.1 divided with
        ⟨later, rfl, inLater⟩ | ⟨last, inUnit, behind⟩
      · rw [lastOr_append]
        exact ih inLater (lastOr before unit.text)
      · cases last with
        | nil =>
            rw [List.append_nil] at inUnit
            subst inUnit
            have starts : textOf units = [] ++ character :: back := behind.symm
            exact ih starts (lastOr before unit.text)
        | cons first last =>
            rw [List.cons_append, List.cons.injEq] at behind
            rcases behind with ⟨rfl, rfl⟩
            rw [List.append_assoc]
            exact isDelimiting_of_text_eq inUnit before _

end Delimiter

open Delimiter

/--
The steps of a thread that has to match a unit in front of other goals.  The
numbers are those of the units with a brace.
-/
def unitSteps (first second : Nat) (goals : Thread) : List Step := [
  ⟨.single '(', .expression first (.word ['{']) :: goals⟩,
  ⟨.single '}', .expression second (.word [')']) :: goals⟩,
  ⟨.single '(', goals⟩,
  ⟨.single ')', goals⟩]

/-- What remains of a cluster behind one of its units. -/
def clusterGoesOn : Thread :=
  [.further 1 true (.group 1 unitExpr)]

theorem clusterExpr_offers :
    (Thread.ofExpr clusterExpr).Offers 46 (unitSteps 4 6 clusterGoesOn) false :=
  Thread.offers_of_isPlaceless rfl rfl

theorem clusterGoesOn_offers :
    clusterGoesOn.Offers 46 (unitSteps 4 6 clusterGoesOn) true :=
  Thread.offers_of_isPlaceless rfl rfl

theorem unitExpr_offers :
    (Thread.ofExpr unitExpr).Offers 16 (unitSteps 1 3 []) false :=
  Thread.offers_of_isPlaceless rfl rfl

theorem advance_word_cons
    (depth number : Nat)
    (sign : Char)
    (goals : Thread)
    (before : Option Char)
    (text : List Char) :
    advance (depth + 1) [.expression number (.word [sign]) :: goals] before text =
      if text.head? = some sign then
        (advance (depth + 1) [goals] (some sign) text.tail).map (· + 1)
      else none := by
  have offers :
      OfferTogether (depth + 1) [.expression number (.word [sign]) :: goals]
        [⟨.single sign, goals⟩] false := by
    intro before after
    exact ⟨_, rfl⟩
  cases text with
  | nil => exact offers.advance_nil before
  | cons character rest =>
      rw [offers.advance_cons]
      by_cases same : character = sign
      · simp [threadsOver, CharSet.contains, same]
      · simp [threadsOver, CharSet.contains, same, advance_noThreads]

section Unit

variable
    {depth first second : Nat}
    {goals : Thread}
    {steps : List Step}
    (behind : goals.Offers (depth + 1) steps true)
    (braceless : threadsOver '{' steps = [])

include behind braceless

/-- Behind an opening parenthesis, the brace is preferred to what follows the parenthesis. -/
theorem advance_opened
    (before : Option Char)
    (text : List Char) :
    advance (depth + 1) [.expression first (.word ['{']) :: goals, goals] before text =
      if text.head? = some '{' then
        (advance (depth + 1) [goals] (some '{') text.tail).map (· + 1)
      else advance (depth + 1) [goals] before text := by
  have offers :
      OfferTogether (depth + 1) [.expression first (.word ['{']) :: goals, goals]
        (⟨.single '{', goals⟩ :: steps) true := by
    intro before after
    rcases behind before after with ⟨followed, reached⟩
    refine ⟨followed, ?_⟩
    have word :
        Thread.explore before after (depth + 1) 0 (.expression first (.word ['{']) :: goals) =
          ⟨0, [⟨.single '{', goals⟩], false⟩ := by
      rfl
    rw [Frontier.ofThreads, word]
    simp [Frontier.orElse, reached]
  cases text with
  | nil =>
      rw [offers.advance_nil, behind.advance_nil]
      rfl
  | cons character rest =>
      rw [offers.advance_cons, behind.together.advance_cons]
      by_cases brace : character = '{'
      · subst brace
        have only : threadsOver '{' (⟨.single '{', goals⟩ :: steps) = [goals] := by
          simpa [threadsOver, CharSet.contains] using braceless
        rcases behind.exists_advance (some '{') rest with ⟨length, reached⟩
        simp [only, reached]
      · simp [threadsOver, CharSet.contains, brace]

/-- A unit is taken as a whole, and what remains goes on behind it. -/
theorem advance_unit
    {start : Thread}
    {ends : Bool}
    (offers : start.Offers (depth + 1) (unitSteps first second goals) ends)
    (before : Option Char)
    (text : List Char) :
    advance (depth + 1) [start] before text =
      match (unitsOf text).head? with
      | none => if ends then some 0 else none
      | some unit =>
          (advance (depth + 1) [goals] (lastOr before unit.text)
            (text.drop unit.text.length)).map (· + unit.text.length) := by
  have opened :
      threadsOver '(' (unitSteps first second goals) =
        [.expression first (.word ['{']) :: goals, goals] := by
    rfl
  have closed :
      threadsOver '}' (unitSteps first second goals) =
        [.expression second (.word [')']) :: goals] := by
    rfl
  -- What follows a unit matches in any case, so the unit that is preferred is never given back.
  fun_cases unitsOf text with
  | case1 rest =>
      rcases behind.exists_advance (some '{') rest with ⟨length, reached⟩
      rw [offers.together.advance_cons, opened, advance_opened behind braceless]
      simp [Delimiter.text, reached]
  | case2 rest =>
      rcases behind.exists_advance (some ')') rest with ⟨length, reached⟩
      rw [offers.together.advance_cons, closed, advance_word_cons]
      simp [Delimiter.text, reached]
  | case3 rest unbraced =>
      have other : rest.head? ≠ some '{' := by
        intro first
        rcases List.head?_eq_some_iff.1 first with ⟨tail, rfl⟩
        exact unbraced tail rfl
      rcases behind.exists_advance (some '(') rest with ⟨length, reached⟩
      rw [offers.together.advance_cons, opened, advance_opened behind braceless, if_neg other]
      simp [Delimiter.text, reached]
  | case4 rest =>
      have taken : threadsOver ')' (unitSteps first second goals) = [goals] := by
        rfl
      rcases behind.exists_advance (some ')') rest with ⟨length, reached⟩
      rw [offers.together.advance_cons, taken]
      simp [Delimiter.text, reached]
  | case5 _ _ unclosed notOpening notClosing =>
      cases text with
      | nil => exact offers.advance_nil
      | cons character rest =>
          have noOpening : character ≠ '(' := by
            rintro rfl
            exact notOpening rest rfl
          have noClosing : character ≠ ')' := by
            rintro rfl
            exact notClosing rest rfl
          by_cases brace : character = '}'
          · subst brace
            have apart : rest.head? ≠ some ')' := by
              intro first
              rcases List.head?_eq_some_iff.1 first with ⟨tail, rfl⟩
              exact unclosed tail rfl
            rw [offers.together.advance_cons, closed, advance_word_cons, if_neg apart]
            rfl
          · apply offers.advance_stuck
            simp [threadsOver, unitSteps, CharSet.contains, noOpening, noClosing, brace]

end Unit

/-- Behind a unit, a cluster goes on over all the units that follow. -/
theorem advance_clusterGoesOn
    (before : Option Char)
    (text : List Char) :
    advance 46 [clusterGoesOn] before text = some (textOf (unitsOf text)).length := by
  induction read : unitsOf text generalizing before text with
  | nil =>
      rw [advance_unit clusterGoesOn_offers rfl clusterGoesOn_offers, read]
      rfl
  | cons unit units ih =>
      rcases exists_of_unitsOf_eq_cons read with ⟨rest, rfl, readRest⟩
      rw [advance_unit clusterGoesOn_offers rfl clusterGoesOn_offers, read, textOf_cons,
        List.length_append]
      simp [ih _ rest readRest, Nat.add_comm]

/-- A cluster takes all the units at the start of a text, and needs one. -/
theorem matchLength?_clusterExpr
    (before : Option Char)
    (text : List Char) :
    clusterExpr.matchLength? before text =
      if unitsOf text = [] then none else some (textOf (unitsOf text)).length := by
  have depth : clusterExpr.depth = 46 := rfl
  rw [Expr.matchLength?, depth, advance_unit clusterGoesOn_offers rfl clusterExpr_offers]
  cases read : unitsOf text with
  | nil => rfl
  | cons unit units =>
      rcases exists_of_unitsOf_eq_cons read with ⟨rest, rfl, readRest⟩
      simp [advance_clusterGoesOn, readRest, Nat.add_comm]

theorem matchLength?_unitExpr
    (before : Option Char)
    (text : List Char) :
    unitExpr.matchLength? before text =
      (unitsOf text).head?.map fun unit => unit.text.length := by
  have depth : unitExpr.depth = 16 := rfl
  rw [Expr.matchLength?, depth, advance_unit (Thread.offers_nil 15) rfl unitExpr_offers]
  cases (unitsOf text).head? with
  | none => rfl
  | some unit => simp [advance_done]

/-- The successive matches of a unit in units one after another are these units. -/
theorem hitsFrom_unitExpr
    (before : Option Char)
    (closed : Bool)
    (units : List Delimiter) :
    unitExpr.hitsFrom before closed (textOf units) =
      (units.map fun unit => ⟨[], unit.text⟩, []) := by
  induction units generalizing before closed with
  | nil =>
      have missing : unitExpr.firstHit? before closed [] = none := by
        simp [Expr.firstHit?, matchLength?_unitExpr, unitsOf]
      exact Expr.hitsFrom_of_none missing
  | cons unit units ih =>
      have matched :
          unitExpr.matchLength? before (unit.text ++ textOf units) = some unit.text.length := by
        rw [matchLength?_unitExpr, ← textOf_cons, unitsOf_textOf]
        rfl
      rw [textOf_cons,
        Expr.hitsFrom_of_some (Expr.firstHit?_of_matched unit.text_ne_nil matched closed), ih]
      rfl

/-- Of a cluster, the last unit is kept. -/
theorem lastUnit_textOf
    (lost : List Delimiter)
    (kept : Delimiter) :
    lastUnit (textOf (lost ++ [kept])) = [kept.text] := by
  rw [lastUnit, Expr.matchesIn, Expr.hitsIn, hitsFrom_unitExpr]
  simp

end CallScript.Block
