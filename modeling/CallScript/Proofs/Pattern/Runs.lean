import CallScript.Pattern.Search
import CallScript.Proofs.Pattern.Search

/-!
# Threads that do not look around

A thread without conditions on places offers the same steps wherever it stands.
Such a thread is followed character by character, by the step that takes the
character.  A thread that comes back to itself over the characters of a set
takes the whole run of them; the main statement is `advance_run`.
-/

namespace CallScript.Pattern

/-- Wherever the thread stands, it offers these steps and may or may not end. -/
def Thread.Offers
    (depth : Nat)
    (thread : Thread)
    (steps : List Step)
    (ends : Bool) : Prop :=
  ∀ before after : Option Char,
    ∃ followed, Frontier.ofThreads before after depth 0 [thread] = ⟨followed, steps, ends⟩

/-- The expression holds no condition on places. -/
def Expr.isPlaceless : Expr → Bool
  | .empty | .word _ | .chars _ => true
  | .edge _ => false
  | .group _ body => body.isPlaceless
  | .sequence first rest => first.isPlaceless && rest.isPlaceless
  | .choice first rest => first.isPlaceless && rest.isPlaceless
  | .repetition _ _ _ body => body.isPlaceless

def Goal.isPlaceless : Goal → Bool
  | .expression _ expr => expr.isPlaceless
  | .rounds _ _ body => body.isPlaceless
  | .upTo _ _ _ body => body.isPlaceless
  | .further _ _ body => body.isPlaceless

def Move.isPlaceless : Move → Bool
  | .pass goals => goals.all Goal.isPlaceless
  | .take _ goals => goals.all Goal.isPlaceless
  | .require _ => false
  | .fork _ preferred other =>
      preferred.all Goal.isPlaceless && other.all Goal.isPlaceless

theorem Move.isPlaceless_perhaps
    (number : Nat)
    (greedy : Bool)
    {goals : Thread}
    (placeless : goals.all Goal.isPlaceless = true) :
    (Move.perhaps number greedy goals).isPlaceless = true := by
  cases greedy with
  | true => simpa [perhaps, isPlaceless] using placeless
  | false => simpa [perhaps, isPlaceless] using placeless

theorem Move.isPlaceless_ofRepetition
    (number least : Nat)
    (most : Option Nat)
    (greedy : Bool)
    {body : Expr}
    (placeless : body.isPlaceless = true) :
    (Move.ofRepetition number least most greedy body).isPlaceless = true := by
  simp only [ofRepetition]
  split
  · exact isPlaceless_perhaps _ _ (by simp [Goal.isPlaceless, placeless])
  · simp [isPlaceless, Goal.isPlaceless, placeless]
  · split
    · simp [isPlaceless, Goal.isPlaceless, placeless]
    · exact isPlaceless_perhaps _ _ (by simp [Goal.isPlaceless, placeless])
  · simp [isPlaceless, Goal.isPlaceless, placeless]

/-- A goal without conditions on places leads to no such condition. -/
theorem Goal.isPlaceless_move
    {goal : Goal}
    (placeless : goal.isPlaceless = true) :
    goal.move.isPlaceless = true := by
  cases goal with
  | expression number expr =>
      cases expr with
      | empty => rfl
      | word characters =>
          match characters with
          | [] => rfl
          | [_] => rfl
          | _ :: _ :: _ => rfl
      | chars set => rfl
      | edge condition => simp [isPlaceless, Expr.isPlaceless] at placeless
      | group number body =>
          simpa [move, Move.isPlaceless, isPlaceless, Expr.isPlaceless] using placeless
      | sequence first rest =>
          simpa [move, Move.isPlaceless, isPlaceless, Expr.isPlaceless] using placeless
      | choice first rest =>
          simpa [move, Move.isPlaceless, isPlaceless, Expr.isPlaceless] using placeless
      | repetition least most greedy body =>
          exact Move.isPlaceless_ofRepetition _ _ _ _ placeless
  | rounds number count body =>
      cases count with
      | zero => rfl
      | succ count => simpa [move, Move.isPlaceless, isPlaceless] using placeless
  | upTo number count greedy body =>
      cases count with
      | zero => rfl
      | succ count =>
          exact Move.isPlaceless_perhaps _ _ (by simpa [isPlaceless] using placeless)
  | further number greedy body =>
      exact Move.isPlaceless_perhaps _ _ (by simpa [isPlaceless] using placeless)

/-- A thread without conditions on places reaches the same wherever it stands. -/
theorem Thread.explore_of_isPlaceless
    {thread : Thread}
    (placeless : thread.all Goal.isPlaceless = true)
    (before after : Option Char)
    (depth : Nat)
    (followed : Marks) :
    thread.explore before after depth followed = thread.explore none none depth followed := by
  induction depth generalizing thread followed with
  | zero => rfl
  | succ depth ih =>
      cases thread with
      | nil => rfl
      | cons goal goals =>
          rw [List.all_cons, Bool.and_eq_true] at placeless
          have moves := Goal.isPlaceless_move placeless.1
          have together {others : Thread} (othersPlaceless : others.all Goal.isPlaceless = true) :
              (others ++ goals).all Goal.isPlaceless = true := by
            rw [List.all_append, othersPlaceless, placeless.2]
            rfl
          simp only [explore]
          cases move : goal.move with
          | pass others =>
              simp only [move, Move.isPlaceless] at moves
              exact ih (together moves) followed
          | take set others => rfl
          | require condition => simp [move, Move.isPlaceless] at moves
          | fork number preferred other =>
              simp only [move, Move.isPlaceless, Bool.and_eq_true] at moves
              simp only [ih (together moves.1), ih (together moves.2)]

/-- What a thread without conditions on places reaches in one place, it offers everywhere. -/
theorem Thread.offers_of_isPlaceless
    {depth : Nat}
    {thread : Thread}
    {steps : List Step}
    {ends : Bool}
    {followed : Marks}
    (placeless : thread.all Goal.isPlaceless = true)
    (reached : thread.explore none none depth 0 = ⟨followed, steps, ends⟩) :
    thread.Offers depth steps ends := by
  intro before after
  have everywhere := explore_of_isPlaceless placeless before after depth 0
  cases ends with
  | true =>
      exact ⟨followed, by simp [Frontier.ofThreads, everywhere, reached, Frontier.orElse]⟩
  | false =>
      exact ⟨followed,
        by simp [Frontier.ofThreads, everywhere, reached, Frontier.orElse, Frontier.none]⟩

/-- Wherever the threads stand, together they offer these steps and may or may not end. -/
def OfferTogether
    (depth : Nat)
    (threads : List Thread)
    (steps : List Step)
    (ends : Bool) : Prop :=
  ∀ before after : Option Char,
    ∃ followed, Frontier.ofThreads before after depth 0 threads = ⟨followed, steps, ends⟩

theorem advance_noThreads
    (depth : Nat)
    (before : Option Char)
    (text : List Char) :
    advance depth [] before text = none := by
  cases text with
  | nil => rfl
  | cons character rest => rfl

section OfferTogether

variable
    {depth : Nat}
    {threads : List Thread}
    {steps : List Step}
    {ends : Bool}

theorem OfferTogether.advance_nil
    (offers : OfferTogether depth threads steps ends)
    (before : Option Char) :
    advance depth threads before [] = if ends then some 0 else none := by
  rcases offers before none with ⟨followed, reached⟩
  rw [advance, reached]

/-- Threads go on as what remains behind their steps that take the character. -/
theorem OfferTogether.advance_cons
    (offers : OfferTogether depth threads steps ends)
    (before : Option Char)
    (character : Char)
    (rest : List Char) :
    advance depth threads before (character :: rest) =
      ((advance depth (threadsOver character steps) (some character) rest).map (· + 1)).or
        (if ends then some 0 else none) := by
  rcases offers before (some character) with ⟨followed, reached⟩
  rw [advance, reached]
  cases threadsOver character steps with
  | nil => simp [advance_noThreads]
  | cons thread threads =>
      simp only [List.isEmpty_cons, Bool.false_eq_true, if_false]
      cases advance depth (thread :: threads) (some character) rest with
      | none => rfl
      | some length => rfl

end OfferTogether

section Offers

variable
    {depth : Nat}
    {thread next : Thread}
    {steps : List Step}
    {ends : Bool}
    {before : Option Char}
    {character : Char}
    {rest : List Char}

theorem Thread.Offers.together
    (offers : thread.Offers depth steps ends) :
    OfferTogether depth [thread] steps ends :=
  offers

theorem Thread.Offers.advance_nil
    (offers : thread.Offers depth steps ends) :
    advance depth [thread] before [] = if ends then some 0 else none :=
  offers.together.advance_nil before

/-- A thread matches no further than in front of a character that no step takes. -/
theorem Thread.Offers.advance_stuck
    (offers : thread.Offers depth steps ends)
    (stuck : threadsOver character steps = []) :
    advance depth [thread] before (character :: rest) = if ends then some 0 else none := by
  rw [offers.together.advance_cons, stuck, advance_noThreads]
  rfl

/-- A thread goes on as what remains behind the only step that takes the character. -/
theorem Thread.Offers.advance_step
    (offers : thread.Offers depth steps ends)
    (taken : threadsOver character steps = [next]) :
    advance depth [thread] before (character :: rest) =
      ((advance depth [next] (some character) rest).map (· + 1)).or
        (if ends then some 0 else none) := by
  rw [offers.together.advance_cons, taken]

/-- A thread with one step goes on if the step takes the character. -/
theorem Thread.Offers.advance_only
    {set : CharSet}
    (offers : thread.Offers depth [⟨set, next⟩] ends) :
    advance depth [thread] before (character :: rest) =
      if set.contains character then
        ((advance depth [next] (some character) rest).map (· + 1)).or
          (if ends then some 0 else none)
      else if ends then some 0 else none := by
  cases member : set.contains character with
  | true =>
      apply offers.advance_step
      simp [threadsOver, member]
  | false =>
      apply offers.advance_stuck
      simp [threadsOver, member]

/-- A thread that may end matches in any case. -/
theorem Thread.Offers.advance_ne_none
    (offers : thread.Offers depth steps true)
    (text : List Char) :
    advance depth [thread] before text ≠ none := by
  cases text with
  | nil =>
      rw [offers.advance_nil]
      simp
  | cons character rest =>
      rcases offers before (some character) with ⟨followed, reached⟩
      rw [advance, reached]
      simp only [if_true]
      split
      · simp
      · simp

theorem Thread.Offers.exists_advance
    (offers : thread.Offers depth steps true)
    (before : Option Char)
    (text : List Char) :
    ∃ length, advance depth [thread] before text = some length :=
  Option.ne_none_iff_exists'.1 (offers.advance_ne_none text)

theorem Thread.offers_nil
    (depth : Nat) :
    Thread.Offers (depth + 1) [] [] true := by
  intro before after
  exact ⟨0, rfl⟩

theorem advance_done
    (text : List Char) :
    advance (depth + 1) [[]] before text = some 0 := by
  cases text with
  | nil => exact (Thread.offers_nil depth).advance_nil
  | cons character rest => exact (Thread.offers_nil depth).advance_stuck rfl

end Offers

/-- A thread that comes back to itself takes the characters of a run one after another. -/
theorem advance_run
    {depth : Nat}
    {thread : Thread}
    {set : CharSet}
    {others : List Step}
    {ends : Bool}
    (offers : thread.Offers depth (⟨set, thread⟩ :: others) ends)
    (apart : ∀ character, set.contains character = true → threadsOver character others = [])
    {run : List Char}
    (members : ∀ character ∈ run, set.contains character = true)
    (before : Option Char)
    (rest : List Char) :
    advance depth [thread] before (run ++ rest) =
      (advance depth [thread] (lastOr before run) rest).map (· + run.length) := by
  induction run generalizing before with
  | nil => simp
  | cons character run ih =>
      have member := members character List.mem_cons_self
      have taken : threadsOver character (⟨set, thread⟩ :: others) = [thread] := by
        have otherwise := apart character member
        simpa [threadsOver, member] using otherwise
      have onward := ih (fun other later => members other (List.mem_cons_of_mem _ later))
        (some character)
      rw [List.cons_append, offers.advance_step taken, onward, lastOr_cons]
      cases reached : advance depth [thread] (lastOr (some character) run) rest with
      | some length => simp [Nat.add_assoc]
      | none =>
          -- A thread that may end never fails behind the run, so nothing is given back.
          cases ends with
          | true => exact absurd reached (offers.advance_ne_none rest)
          | false => rfl

/-- A thread that comes back to itself goes on behind the longest run. -/
theorem advance_takeWhile
    {depth : Nat}
    {thread : Thread}
    {set : CharSet}
    {others : List Step}
    {ends : Bool}
    (offers : thread.Offers depth (⟨set, thread⟩ :: others) ends)
    (apart : ∀ character, set.contains character = true → threadsOver character others = [])
    (before : Option Char)
    (text : List Char) :
    advance depth [thread] before text =
      (advance depth [thread] (lastOr before (text.takeWhile set.contains))
          (text.dropWhile set.contains)).map
        (· + (text.takeWhile set.contains).length) := by
  have members := List.all_eq_true.1 (List.all_takeWhile (p := set.contains) (l := text))
  have run := advance_run offers apart members before (text.dropWhile set.contains)
  rw [List.takeWhile_append_dropWhile] at run
  exact run

/-- A thread that offers nothing but to come back to itself takes the longest run. -/
theorem advance_longestRun
    {depth : Nat}
    {thread : Thread}
    {set : CharSet}
    (offers : thread.Offers depth [⟨set, thread⟩] true)
    (before : Option Char)
    (text : List Char) :
    advance depth [thread] before text = some (text.takeWhile set.contains).length := by
  have first := List.head?_dropWhile_not set.contains text
  rw [advance_takeWhile offers fun _ _ => rfl]
  cases behind : text.dropWhile set.contains with
  | nil =>
      rw [offers.advance_nil]
      simp
  | cons character rest =>
      rw [behind] at first
      have other : set.contains character = false := first
      rw [offers.advance_only, other]
      simp

/-- What remains of one or more characters of a set behind one of them. -/
def Thread.furtherOf (set : CharSet) : Thread :=
  [.further 1 true (.chars set)]

/-- One or more characters of a set are matched by the longest run of them. -/
theorem matchLength?_oneOrMore
    (set : CharSet)
    (before : Option Char)
    (character : Char)
    (rest : List Char) :
    (Expr.repetition 1 none true (.chars set)).matchLength? before (character :: rest) =
      if set.contains character then some (character :: rest.takeWhile set.contains).length
      else none := by
  have starts :
      (Thread.ofExpr (.repetition 1 none true (.chars set))).Offers 18
        [⟨set, .furtherOf set⟩] false := by
    intro before after
    exact ⟨_, rfl⟩
  have goesOn : (Thread.furtherOf set).Offers 18 [⟨set, .furtherOf set⟩] true := by
    intro before after
    exact ⟨_, rfl⟩
  have depth : (Expr.repetition 1 none true (.chars set)).depth = 18 := rfl
  rw [Expr.matchLength?, depth, starts.advance_only, advance_longestRun goesOn]
  simp

theorem matchLength?_single
    (sign : Char)
    (before : Option Char)
    (character : Char)
    (rest : List Char) :
    (Expr.word [sign]).matchLength? before (character :: rest) =
      if character = sign then some 1 else none := by
  have offers :
      (Thread.ofExpr (.word [sign])).Offers 4 [⟨.single sign, []⟩] false := by
    intro before after
    exact ⟨_, rfl⟩
  have depth : (Expr.word [sign]).depth = 4 := rfl
  rw [Expr.matchLength?, depth, offers.advance_only, advance_done]
  simp [CharSet.contains]

end CallScript.Pattern
