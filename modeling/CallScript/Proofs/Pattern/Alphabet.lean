import CallScript.Pattern.Search
import Mathlib.Data.List.Basic

/-!
# What an expression takes

Two things about the matches of an expression can be read off its form: which
characters they are made of, and that none of them is empty.  Both pass from
an expression to the goals of its threads, and from a goal to its move.  The
main statements are `Expr.TakesOnly.mem_of_matchLength?` and
`Expr.pos_of_matchLength?`.
-/

namespace CallScript.Pattern

section TakesOnly

variable
    (member : Char → Prop)

def CharSet.IsWithin (set : CharSet) : Prop :=
  ∀ character, set.contains character = true → member character

/-- All the characters that the expression may take are members. -/
def Expr.TakesOnly : Expr → Prop
  | .empty | .edge _ => True
  | .word characters => ∀ character ∈ characters, member character
  | .chars set => set.IsWithin member
  | .group _ body => body.TakesOnly
  | .sequence first rest => first.TakesOnly ∧ rest.TakesOnly
  | .choice first rest => first.TakesOnly ∧ rest.TakesOnly
  | .repetition _ _ _ body => body.TakesOnly

def Goal.TakesOnly : Goal → Prop
  | .expression _ expr => expr.TakesOnly member
  | .rounds _ _ body => body.TakesOnly member
  | .upTo _ _ _ body => body.TakesOnly member
  | .further _ _ body => body.TakesOnly member

def Thread.TakesOnly (thread : Thread) : Prop :=
  ∀ goal ∈ thread, goal.TakesOnly member

def Move.TakesOnly : Move → Prop
  | .pass goals => Thread.TakesOnly member goals
  | .take set goals => set.IsWithin member ∧ Thread.TakesOnly member goals
  | .require _ => True
  | .fork _ preferred other =>
      Thread.TakesOnly member preferred ∧ Thread.TakesOnly member other

def Step.TakesOnly (step : Step) : Prop :=
  step.set.IsWithin member ∧ Thread.TakesOnly member step.remaining

variable
    {member}

@[simp]
theorem Thread.takesOnly_nil :
    Thread.TakesOnly member [] := by
  rintro goal ⟨⟩

@[simp]
theorem Thread.takesOnly_cons
    {goal : Goal}
    {goals : Thread} :
    Thread.TakesOnly member (goal :: goals) ↔
      goal.TakesOnly member ∧ Thread.TakesOnly member goals :=
  List.forall_mem_cons

theorem Thread.TakesOnly.append
    {front back : Thread}
    (frontOnly : front.TakesOnly member)
    (backOnly : back.TakesOnly member) :
    Thread.TakesOnly member (front ++ back) := by
  intro goal listed
  rcases List.mem_append.1 listed with inFront | inBack
  · exact frontOnly goal inFront
  · exact backOnly goal inBack

theorem Move.TakesOnly.perhaps
    {goals : Thread}
    (only : Thread.TakesOnly member goals)
    (number : Nat)
    (greedy : Bool) :
    (Move.perhaps number greedy goals).TakesOnly member := by
  cases greedy with
  | true => exact ⟨only, Thread.takesOnly_nil⟩
  | false => exact ⟨Thread.takesOnly_nil, only⟩

theorem Expr.TakesOnly.ofRepetition
    {body : Expr}
    (only : body.TakesOnly member)
    (number least : Nat)
    (most : Option Nat)
    (greedy : Bool) :
    (Move.ofRepetition number least most greedy body).TakesOnly member := by
  simp only [Move.ofRepetition]
  split
  · exact .perhaps (by simpa [Goal.TakesOnly] using only) _ _
  · simpa [Move.TakesOnly, Goal.TakesOnly] using only
  · split
    · simpa [Move.TakesOnly, Goal.TakesOnly] using only
    · exact .perhaps (by simpa [Goal.TakesOnly] using only) _ _
  · simpa [Move.TakesOnly, Goal.TakesOnly] using only

/-- A goal leads to goals that take no other characters. -/
theorem Goal.TakesOnly.move
    {goal : Goal}
    (only : goal.TakesOnly member) :
    goal.move.TakesOnly member := by
  cases goal with
  | expression number expr =>
      simp only [TakesOnly] at only
      cases expr with
      | word characters =>
          match characters with
          | [] => simp [Goal.move, Move.TakesOnly]
          | [character] =>
              simpa [Goal.move, Move.TakesOnly, CharSet.IsWithin, CharSet.contains,
                Expr.TakesOnly] using only
          | character :: next :: characters =>
              simpa [Goal.move, Move.TakesOnly, CharSet.IsWithin, CharSet.contains,
                Goal.TakesOnly, Expr.TakesOnly] using only
      | chars set => exact ⟨only, Thread.takesOnly_nil⟩
      | edge condition => trivial
      | empty => simp [Goal.move, Move.TakesOnly]
      | repetition least most greedy body =>
          have bodyOnly : body.TakesOnly member := only
          exact bodyOnly.ofRepetition _ _ _ _
      | group | sequence | choice =>
          simpa [Goal.move, Move.TakesOnly, Goal.TakesOnly, Expr.TakesOnly] using only
  | rounds number count body =>
      cases count with
      | zero => simp [Goal.move, Move.TakesOnly]
      | succ count =>
          simpa [Goal.move, Move.TakesOnly, TakesOnly] using only
  | upTo number count greedy body =>
      cases count with
      | zero => simp [Goal.move, Move.TakesOnly]
      | succ count => exact .perhaps (by simpa [TakesOnly] using only) _ _
  | further number greedy body =>
      exact .perhaps (by simpa [TakesOnly] using only) _ _

theorem Frontier.takesOnly_orElse
    {reached : Frontier}
    {others : Marks → Frontier}
    (reachedOnly : ∀ step ∈ reached.steps, step.TakesOnly member)
    (othersOnly : ∀ followed, ∀ step ∈ (others followed).steps, step.TakesOnly member) :
    ∀ step ∈ (reached.orElse others).steps, step.TakesOnly member := by
  rw [orElse]
  split
  · exact reachedOnly
  · intro step listed
    rcases List.mem_append.1 listed with here | there
    · exact reachedOnly step here
    · exact othersOnly _ step there

theorem Thread.TakesOnly.explore
    {thread : Thread}
    (only : thread.TakesOnly member)
    (before after : Option Char)
    (depth : Nat)
    (followed : Marks) :
    ∀ step ∈ (thread.explore before after depth followed).steps, step.TakesOnly member := by
  induction depth generalizing thread followed with
  | zero => simp [Thread.explore, Frontier.none]
  | succ depth ih =>
      cases thread with
      | nil => simp [Thread.explore]
      | cons goal goals =>
          rcases Thread.takesOnly_cons.1 only with ⟨goalOnly, goalsOnly⟩
          have moves := goalOnly.move
          simp only [Thread.explore]
          cases move : goal.move with
          | pass others =>
              rw [move] at moves
              exact ih (moves.append goalsOnly) followed
          | take set others =>
              rw [move] at moves
              rintro step (_ | ⟨_, ⟨⟩⟩)
              exact ⟨moves.1, moves.2.append goalsOnly⟩
          | require condition =>
              simp only
              split
              · exact ih goalsOnly followed
              · simp [Frontier.none]
          | fork number preferred other =>
              rw [move] at moves
              simp only
              split
              · simp [Frontier.none]
              · exact Frontier.takesOnly_orElse (ih (moves.1.append goalsOnly) _)
                  fun marks => ih (moves.2.append goalsOnly) marks

theorem Frontier.takesOnly_ofThreads
    {threads : List Thread}
    (only : ∀ thread ∈ threads, thread.TakesOnly member)
    (before after : Option Char)
    (depth : Nat)
    (followed : Marks) :
    ∀ step ∈ (ofThreads before after depth followed threads).steps, step.TakesOnly member := by
  induction threads generalizing followed with
  | nil => simp [ofThreads, none]
  | cons thread threads ih =>
      rw [List.forall_mem_cons] at only
      exact takesOnly_orElse (only.1.explore before after depth followed) fun marks =>
        ih only.2 marks

theorem mem_of_advance
    {depth : Nat}
    {threads : List Thread}
    {before : Option Char}
    {text : List Char}
    {length : Nat}
    (only : ∀ thread ∈ threads, thread.TakesOnly member)
    (matched : advance depth threads before text = some length) :
    ∀ character ∈ text.take length, member character := by
  -- Along the text: the threads behind a character are left by steps that take it.
  induction text generalizing threads before length with
  | nil => simp
  | cons character rest ih =>
      have steps := Frontier.takesOnly_ofThreads only before (some character) depth 0
      have leftOnly :
          ∀ thread ∈ threadsOver character
              (Frontier.ofThreads before (some character) depth 0 threads).steps,
            thread.TakesOnly member := by
        intro thread listed
        rcases List.mem_map.1 listed with ⟨step, kept, rfl⟩
        exact (steps step (List.mem_of_mem_filter kept)).2
      simp only [advance] at matched
      split at matched
      · rename_i length onward
        cases matched
        split at onward
        · cases onward
        · rename_i nonempty
          rw [List.take_succ_cons, List.forall_mem_cons]
          refine ⟨?_, ih leftOnly onward⟩
          obtain ⟨thread, listed⟩ := List.exists_mem_of_ne_nil _ (by simpa using nonempty)
          rcases List.mem_map.1 listed with ⟨step, kept, -⟩
          have inSet := (List.mem_filter.1 kept).2
          exact (steps step (List.mem_of_mem_filter kept)).1 character inSet
      · split at matched
        · cases matched
          simp
        · cases matched

/-- A match is made of characters that the expression takes. -/
theorem Expr.TakesOnly.mem_of_matchLength?
    {expr : Expr}
    {before : Option Char}
    {text : List Char}
    {length : Nat}
    (only : expr.TakesOnly member)
    (matched : expr.matchLength? before text = some length) :
    ∀ character ∈ text.take length, member character := by
  refine mem_of_advance ?_ matched
  simpa [Thread.ofExpr, Goal.TakesOnly] using only

end TakesOnly

section IsTaking

/-- By its form, the expression has no empty match. -/
def Expr.isTaking : Expr → Bool
  | .empty | .edge _ => false
  | .word characters => !characters.isEmpty
  | .chars _ => true
  | .group _ body => body.isTaking
  | .sequence first rest => first.isTaking || rest.isTaking
  | .choice first rest => first.isTaking && rest.isTaking
  | .repetition least _ _ body => 0 < least && body.isTaking

def Goal.isTaking : Goal → Bool
  | .expression _ expr => expr.isTaking
  | .rounds _ count body => 0 < count && body.isTaking
  | .upTo _ _ _ _ | .further _ _ _ => false

def Move.isTaking : Move → Bool
  | .pass goals => goals.any Goal.isTaking
  | .take _ _ => true
  | .require _ => false
  | .fork _ preferred other => preferred.any Goal.isTaking && other.any Goal.isTaking

/-- A goal without an empty match has to take a character whatever its move. -/
theorem Goal.isTaking_move
    {goal : Goal}
    (taking : goal.isTaking = true) :
    goal.move.isTaking = true := by
  cases goal with
  | expression number expr =>
      simp only [isTaking] at taking
      cases expr with
      | word characters =>
          match characters with
          | [] => cases taking
          | [_] => rfl
          | _ :: _ :: _ => rfl
      | repetition least most greedy body =>
          rw [Expr.isTaking, Bool.and_eq_true, decide_eq_true_eq] at taking
          obtain ⟨least, rfl⟩ := Nat.exists_eq_succ_of_ne_zero (Nat.ne_of_gt taking.1)
          cases most with
          | none => simp [move, Move.ofRepetition, Move.isTaking, isTaking, taking.2]
          | some most => simp [move, Move.ofRepetition, Move.isTaking, isTaking, taking.2]
      | empty | edge => cases taking
      | chars => rfl
      | group | sequence | choice =>
          simpa [move, Move.isTaking, isTaking, Expr.isTaking] using taking
  | rounds number count body =>
      cases count with
      | zero => cases taking
      | succ count =>
          have bodyTaking : body.isTaking = true := by simpa [isTaking] using taking
          simp [move, Move.isTaking, isTaking, bodyTaking]
  | upTo => cases taking
  | further => cases taking

theorem Frontier.ends_orElse
    {reached : Frontier}
    {others : Marks → Frontier}
    (reachedGoesOn : reached.ends = false)
    (othersGoOn : ∀ followed, (others followed).ends = false) :
    (reached.orElse others).ends = false := by
  simp [orElse, reachedGoesOn, othersGoOn]

/-- A thread with such a goal may not end where it stands. -/
theorem Thread.ends_explore_of_any
    {thread : Thread}
    (taking : thread.any Goal.isTaking = true)
    (before after : Option Char)
    (depth : Nat)
    (followed : Marks) :
    (thread.explore before after depth followed).ends = false := by
  induction depth generalizing thread followed with
  | zero => rfl
  | succ depth ih =>
      cases thread with
      | nil => cases taking
      | cons goal goals =>
          rw [List.any_cons, Bool.or_eq_true] at taking
          have moves : goal.move.isTaking = true ∨ goals.any Goal.isTaking = true :=
            taking.imp_left Goal.isTaking_move
          simp only [explore]
          cases move : goal.move with
          | pass others =>
              rw [move] at moves
              exact ih (by simpa [Move.isTaking, List.any_append] using moves) followed
          | take set others => rfl
          | require condition =>
              simp only
              split
              · exact ih (by simpa [move, Move.isTaking] using moves) followed
              · rfl
          | fork number preferred other =>
              have both :
                  (preferred ++ goals).any Goal.isTaking = true ∧
                    (other ++ goals).any Goal.isTaking = true := by
                rw [move, Move.isTaking, Bool.and_eq_true] at moves
                rw [List.any_append, List.any_append, Bool.or_eq_true, Bool.or_eq_true]
                exact ⟨moves.imp_left And.left, moves.imp_left And.right⟩
              simp only
              split
              · rfl
              · exact Frontier.ends_orElse (ih both.1 _) fun marks => ih both.2 marks

/-- An expression without empty matches by its form has none. -/
theorem Expr.pos_of_matchLength?
    {expr : Expr}
    {before : Option Char}
    {text : List Char}
    {length : Nat}
    (taking : expr.isTaking = true)
    (matched : expr.matchLength? before text = some length) :
    0 < length := by
  have goesOn (after : Option Char) :
      (Frontier.ofThreads before after expr.depth 0 [Thread.ofExpr expr]).ends = false := by
    apply Frontier.ends_orElse
    · apply Thread.ends_explore_of_any
      simpa [Thread.ofExpr, Goal.isTaking] using taking
    · intro followed
      rfl
  cases text with
  | nil => simp [matchLength?, advance, goesOn] at matched
  | cons character rest =>
      simp only [matchLength?, advance, goesOn] at matched
      split at matched
      · cases matched
        exact Nat.succ_pos _
      · cases matched

theorem Expr.matchLength?_nil_of_isTaking
    {expr : Expr}
    (taking : expr.isTaking = true)
    (before : Option Char) :
    expr.matchLength? before [] = none := by
  cases matched : expr.matchLength? before [] with
  | none => rfl
  | some length =>
      have positive := pos_of_matchLength? taking matched
      rw [matchLength?, advance] at matched
      split at matched
      · cases matched
        cases positive
      · cases matched

end IsTaking

section Searches

variable
    {member : Char → Prop}
    {expr : Expr}
    (only : expr.TakesOnly member)
    (taking : expr.isTaking = true)

include only taking

/-- An expression is not found in a text without the characters that it takes. -/
theorem Expr.isFoundAfter_eq_false
    {text : List Char}
    (foreign : ∀ character ∈ text, ¬ member character)
    (before : Option Char) :
    expr.isFoundAfter before text = false := by
  induction text generalizing before with
  | nil =>
      rw [isFoundAfter, matchLength?_nil_of_isTaking taking]
      rfl
  | cons character rest ih =>
      rw [List.forall_mem_cons] at foreign
      have unmatched : expr.matchLength? before (character :: rest) = none := by
        cases matched : expr.matchLength? before (character :: rest) with
        | none => rfl
        | some length =>
            obtain ⟨length, rfl⟩ :=
              Nat.exists_eq_succ_of_ne_zero (Nat.ne_of_gt (pos_of_matchLength? taking matched))
            have taken := only.mem_of_matchLength? matched character (by simp)
            exact absurd taken foreign.1
      rw [isFoundAfter, unmatched, ih foreign.2]
      rfl

theorem Expr.matched_of_firstHit?
    {before : Option Char}
    {closed : Bool}
    {text tail : List Char}
    {hit : Hit}
    (found : expr.firstHit? before closed text = some (hit, tail)) :
    hit.matched ≠ [] ∧ ∀ character ∈ hit.matched, member character := by
  induction text generalizing before closed hit tail with
  | nil => simp [firstHit?, matchLength?_nil_of_isTaking taking] at found
  | cons character rest ih =>
      rcases firstHit?_cons found with ⟨length, matched, -, rfl, -⟩ | ⟨later, -, laterFound, rfl⟩
      · refine ⟨?_, only.mem_of_matchLength? matched⟩
        have positive := pos_of_matchLength? taking matched
        simp [Nat.ne_of_gt positive]
      · have laterMatched := ih laterFound
        exact laterMatched

/-- The hits of the expression hold characters that it takes, at least one each. -/
theorem Expr.matched_of_mem_hitsFrom
    (before : Option Char)
    (closed : Bool)
    (text : List Char) :
    ∀ hit ∈ (expr.hitsFrom before closed text).1,
      hit.matched ≠ [] ∧ ∀ character ∈ hit.matched, member character := by
  fun_induction Expr.hitsFrom expr before closed text with
  | case1 => simp
  | case2 before closed text hit tail found hits rest further ih =>
      rw [further] at ih
      rw [List.forall_mem_cons]
      exact ⟨matched_of_firstHit? only taking found, ih⟩

end Searches

end CallScript.Pattern
