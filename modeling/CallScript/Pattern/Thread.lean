import CallScript.Pattern.Expr

/-!
# Threads of a match

A thread is what one way of matching still has to do: a list of goals.  At a
place of the text, a thread moves on until it has to take a character or is
complete.  Where it forks, its alternatives are followed one after another, the
preferred one first.

A fork is followed only once at each place of the text, also when a further
round of a repetition comes back to it without taking a character.  This bounds
the work at a place by the size of the pattern, and it decides what becomes of
rounds that take nothing.  To tell forks apart, the situations of a match are
numbered: an expression with a number uses this and the following numbers, as
many as its extent, and every round of a repetition has numbers of its own.
The number of the first goal of a thread determines the rest of the thread.

The main definition is `Thread.explore`: the characters that may be taken next,
in the order of preference, and whether the match may end here.
-/

namespace CallScript.Pattern

/-- Something that a thread has to match, with its number. -/
inductive Goal where
  /-- An expression. -/
  | expression (number : Nat) (expr : Expr)
  /-- A given number of rounds of a repetition. -/
  | rounds (number count : Nat) (body : Expr)
  /-- Some rounds of a repetition, at most a given number. -/
  | upTo (number count : Nat) (greedy : Bool) (body : Expr)
  /-- Any number of further rounds of a repetition. -/
  | further (number : Nat) (greedy : Bool) (body : Expr)
  deriving DecidableEq

/-- What remains to be matched, in order. -/
abbrev Thread := List Goal

/-- What a goal asks for first. -/
inductive Move where
  /-- Other goals take its place. -/
  | pass (goals : Thread)
  /-- A character of the set is taken, and other goals take its place. -/
  | take (set : CharSet) (goals : Thread)
  /-- The condition must hold. -/
  | require (condition : Edge)
  /-- One of two lists of goals takes its place, preferably the first. -/
  | fork (number : Nat) (preferred other : Thread)

/-- The choice between goals and nothing. -/
def Move.perhaps (number : Nat) (greedy : Bool) (goals : Thread) : Move :=
  if greedy then .fork number goals [] else .fork number [] goals

/--
The move of a repetition.  The first number is for the repetition itself, the
second one for its further rounds, and the body uses the numbers behind them.
-/
def Move.ofRepetition
    (number least : Nat)
    (most : Option Nat)
    (greedy : Bool)
    (body : Expr) : Move :=
  let round := Goal.expression (number + 2) body
  let further := Goal.further (number + 1) greedy body
  match least, most with
  | 0, some 1 => .perhaps number greedy [round]
  | least, some most =>
      .pass [.rounds (number + 2) least body,
        .upTo (number + 2 + least * (body.extent + 1)) (most - least) greedy body]
  | 0, none =>
      if body.takesChar then .pass [further] else .perhaps number greedy [round, further]
  | least + 1, none => .pass [.rounds (number + 2 + body.extent) least body, round, further]

/-- The first move of a goal. -/
def Goal.move : Goal → Move
  | .expression number expr =>
      match expr with
      | .empty | .word [] => .pass []
      | .word [character] => .take (.single character) []
      | .word (character :: characters) =>
          .take (.single character) [.expression number (.word characters)]
      | .chars set => .take set []
      | .edge condition => .require condition
      | .group _ body => .pass [.expression (number + 1) body]
      | .sequence first rest =>
          .pass [.expression (number + 1) first,
            .expression (number + 1 + first.extent) rest]
      | .choice first rest =>
          .fork number [.expression (number + 1) first]
            [.expression (number + 1 + first.extent) rest]
      | .repetition least most greedy body => .ofRepetition number least most greedy body
  | .rounds _ 0 _ => .pass []
  | .rounds number (count + 1) body =>
      .pass [.expression (number + 1) body, .rounds (number + 1 + body.extent) count body]
  | .upTo _ 0 _ _ => .pass []
  | .upTo number (count + 1) greedy body =>
      .perhaps number greedy
        [.expression (number + 1) body, .upTo (number + 1 + body.extent) count greedy body]
  | .further number greedy body =>
      .perhaps number greedy [.expression (number + 1) body, .further number greedy body]

/-- One way to go on: take a character of the set, then match what remains. -/
structure Step where
  /-- The characters that may be taken. -/
  set : CharSet
  /-- What remains to be matched after the character. -/
  remaining : Thread
  deriving DecidableEq

/-- A set of numbers; a number is a member when its bit is set. -/
abbrev Marks := Nat

/-- The set with a further member. -/
def Marks.insert (marks : Marks) (number : Nat) : Marks :=
  marks ||| 1 <<< number

/-- What threads reach at a place of the text. -/
structure Frontier where
  /-- The forks that have been followed. -/
  followed : Marks
  /-- The steps that are preferred to ending the match. -/
  steps : List Step
  /-- The match may end here. -/
  ends : Bool

namespace Frontier

/-- Nothing is reached. -/
def none (followed : Marks) : Frontier :=
  ⟨followed, [], false⟩

/-- What is reached when less preferred threads are followed too, unless the match may end. -/
def orElse (reached : Frontier) (others : Marks → Frontier) : Frontier :=
  if reached.ends then reached
  else
    let further := others reached.followed
    { further with steps := reached.steps ++ further.steps }

end Frontier

/--
What a thread reaches between `before` and `after`.  The depth bounds the
number of its moves.
-/
def Thread.explore (before after : Option Char) :
    (depth : Nat) → (followed : Marks) → Thread → Frontier
  | 0, followed, _ => .none followed
  | _ + 1, followed, [] => ⟨followed, [], true⟩
  | depth + 1, followed, goal :: goals =>
      match goal.move with
      | .pass others => Thread.explore before after depth followed (others ++ goals)
      | .take set others => ⟨followed, [⟨set, others ++ goals⟩], false⟩
      | .require condition =>
          if condition.holds before after then
            Thread.explore before after depth followed goals
          else .none followed
      | .fork number preferred other =>
          if followed.testBit number then .none followed
          else
            (Thread.explore before after depth (followed.insert number)
                (preferred ++ goals)).orElse fun followed =>
              Thread.explore before after depth followed (other ++ goals)

/-- What several threads reach, the preferred one first. -/
def Frontier.ofThreads
    (before after : Option Char)
    (depth : Nat)
    (followed : Marks) : List Thread → Frontier
  | [] => .none followed
  | thread :: threads =>
      (thread.explore before after depth followed).orElse fun followed =>
        ofThreads before after depth followed threads

/-- The thread that has to match a whole expression. -/
def Thread.ofExpr (expr : Expr) : Thread :=
  [.expression 0 expr]

/-- A bound for the moves that a thread of the expression makes at one place of the text. -/
def Expr.depth (expr : Expr) : Nat :=
  2 * (expr.extent + 1)

end CallScript.Pattern
