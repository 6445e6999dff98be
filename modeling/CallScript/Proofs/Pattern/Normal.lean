import Mathlib.Algebra.GroupWithZero.Nat
import CallScript.Pattern.Normal
import CallScript.Pattern.Room.Limit

/-!
# Normal forms of words

The normal form of a word is a sequence of letters, each of them one character
or the set of its case variants.  This file states when the normal form of a
choice of words is the plain choice, and bounds the room of both.
-/

namespace CallScript.Pattern

open CallScript.Text

namespace Expr

/-- The expression is a word or a set of characters. -/
def IsLetters (expr : Expr) : Prop :=
  (∃ characters, expr = .word characters) ∨ ∃ set, expr = .chars set

theorem isLetters_letter
    (caseless : Bool)
    (character : Char) :
    (letter caseless character).IsLetters := by
  cases caseless with
  | false => exact .inl ⟨_, rfl⟩
  | true =>
      simp only [letter, ofSet, if_true]
      split
      · exact .inl ⟨_, rfl⟩
      · exact .inr ⟨_, rfl⟩

theorem IsLetters.parts
    {expr : Expr}
    (letters : expr.IsLetters) :
    expr.parts = [expr] := by
  rcases letters with ⟨characters, rfl⟩ | ⟨set, rfl⟩
  · rfl
  · rfl

theorem isLetters_of_mem_pushPart
    {part : Expr}
    {parts : List Expr}
    (partLetters : part.IsLetters)
    (letters : ∀ other ∈ parts, other.IsLetters) :
    ∀ other ∈ pushPart part parts, other.IsLetters := by
  simp only [pushPart]
  split
  · exact letters
  · rename_i first second others
    intro other member
    rcases List.mem_cons.1 member with rfl | later
    · exact .inl ⟨_, rfl⟩
    · exact letters other (List.mem_cons_of_mem _ later)
  · intro other member
    rcases List.mem_cons.1 member with rfl | later
    · exact partLetters
    · exact letters other later

/-- A sequence of letters in normal form has itself as its only alternative. -/
theorem branches_inSequence
    {exprs : List Expr}
    (letters : ∀ expr ∈ exprs, expr.IsLetters) :
    (inSequence exprs).branches = [inSequence exprs] := by
  have pushed :
      ∀ other ∈ (exprs.flatMap parts).foldr pushPart [], other.IsLetters := by
    induction exprs with
    | nil => simp
    | cons expr exprs ih =>
        have exprLetters := letters expr List.mem_cons_self
        have restLetters := ih fun other member => letters other (List.mem_cons_of_mem _ member)
        rw [List.flatMap_cons, exprLetters.parts]
        exact isLetters_of_mem_pushPart exprLetters restLetters
  rw [inSequence]
  cases whole : (exprs.flatMap parts).foldr pushPart [] with
  | nil => rfl
  | cons first others =>
      cases others with
      | nil =>
          rcases pushed first (whole ▸ List.mem_cons_self) with ⟨characters, rfl⟩ | ⟨set, rfl⟩
          · rfl
          · rfl
      | cons second others => rfl

theorem flatMap_branches
    {exprs : List Expr}
    (plain : ∀ expr ∈ exprs, expr.branches = [expr]) :
    exprs.flatMap branches = exprs := by
  induction exprs with
  | nil => rfl
  | cons expr exprs ih =>
      rw [List.flatMap_cons, plain expr List.mem_cons_self,
        ih fun other member => plain other (List.mem_cons_of_mem _ member)]
      rfl

/--
Alternatives that are no choices themselves form a plain choice, if the first
of them is no sequence and they do not form one set.
-/
theorem asChoice_eq_choiceOf
    {first second : Expr}
    {exprs : List Expr}
    (plain : ∀ expr ∈ first :: second :: exprs, expr.branches = [expr])
    (unshared : first.parts.length ≤ 1)
    (noSet : asSet? (first :: second :: exprs) = none) :
    asChoice (first :: second :: exprs) = choiceOf (first :: second :: exprs) := by
  have flat := flatMap_branches plain
  have noneShared : sharedStart (first :: second :: exprs) = 0 := by
    have firstShort : ¬ 1 < first.parts.length := Nat.not_lt.2 unshared
    simp [sharedStart, firstShort]
  have positive :
      ∀ (others : List Expr) (start : Nat),
        start ≤ others.foldl (fun total expr => total + expr.extent) start := by
    intro others
    induction others with
    | nil => exact fun start => Nat.le_refl start
    | cons other others ih =>
        exact fun start => Nat.le_trans (Nat.le_add_right _ _) (ih _)
  obtain ⟨depth, depthEq⟩ :=
    Nat.exists_eq_succ_of_ne_zero (Nat.ne_of_gt (positive (first :: second :: exprs) 1))
  rw [asChoice, depthEq]
  simp only [choiceWithin, flat, noSet, noneShared, if_true]

/-- An expression whose bound leaves room fits without a count. -/
theorem fits_of_roomBound
    {expr : Expr}
    (bounded : expr.roomBound + 1024 ≤ roomLimit) :
    expr.fits = true := by
  simp [fits, bounded]

theorem roomBound_parts
    (expr : Expr) :
    (expr.parts.map roomBound).sum = expr.roomBound := by
  induction expr with
  | sequence first rest _ ih => simp [parts, roomBound, ih]
  | _ => simp [parts]

theorem roomBound_sequenceOf_le
    (exprs : List Expr) :
    (sequenceOf exprs).roomBound ≤ (exprs.map roomBound).sum + 32 := by
  induction exprs with
  | nil => simp [sequenceOf, roomBound]
  | cons first exprs ih =>
      cases exprs with
      | nil => simp [sequenceOf]
      | cons second exprs =>
          simp only [sequenceOf, roomBound, List.map_cons, List.sum_cons] at ih ⊢
          omega

theorem roomBound_pushPart_le
    (part : Expr)
    (parts : List Expr) :
    ((pushPart part parts).map roomBound).sum ≤ part.roomBound + (parts.map roomBound).sum := by
  simp only [pushPart]
  split
  · omega
  · simp only [List.map_cons, List.sum_cons, roomBound, List.length_append]
    omega
  · simp

theorem roomBound_inSequence_le
    (exprs : List Expr) :
    (inSequence exprs).roomBound ≤ (exprs.map roomBound).sum + 32 := by
  have pushed :
      (((exprs.flatMap parts).foldr pushPart []).map roomBound).sum ≤
        (exprs.map roomBound).sum := by
    induction exprs with
    | nil => simp
    | cons expr exprs ih =>
        have appended :
            ∀ front : List Expr,
              (((front ++ exprs.flatMap parts).foldr pushPart []).map roomBound).sum ≤
                (front.map roomBound).sum + (exprs.map roomBound).sum := by
          intro front
          induction front with
          | nil => simpa using ih
          | cons part front frontIh =>
              have step :=
                roomBound_pushPart_le part ((front ++ exprs.flatMap parts).foldr pushPart [])
              simp only [List.cons_append, List.foldr_cons, List.map_cons, List.sum_cons]
              omega
        have whole := appended expr.parts
        rw [roomBound_parts] at whole
        simpa using whole
  have sequence := roomBound_sequenceOf_le ((exprs.flatMap parts).foldr pushPart [])
  rw [inSequence]
  omega

theorem roomBound_choiceOf_le
    (exprs : List Expr) :
    (choiceOf exprs).roomBound ≤ (exprs.map fun expr => expr.roomBound + 128).sum + 128 := by
  induction exprs with
  | nil => simp [choiceOf, roomBound, CharSet.ranges]
  | cons first exprs ih =>
      cases exprs with
      | nil => simp [choiceOf]; omega
      | cons second exprs =>
          simp only [choiceOf, roomBound, List.map_cons, List.sum_cons] at ih ⊢
          omega

end Expr

end CallScript.Pattern
