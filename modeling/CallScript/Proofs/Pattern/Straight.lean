import CallScript.Pattern.Matching
import CallScript.Pattern.Normal
import Mathlib.Data.List.Basic

/-!
# Threads without forks

A thread that never forks asks the text for one thing after another: for a
character of a set, or for a condition on the place.  Several such threads,
followed side by side, lead to a match exactly when the text gives one of them
all that it asks for.  At the first place they may come from a choice, because
no fork of a choice is met twice there.

The main statement is `isSome_advance_of_isStraight`; `Thread.explore_choiceOf`
brings a choice into its reach.
-/

namespace CallScript.Pattern

/-- Something that a thread asks of the text. -/
inductive Demand where
  /-- A character of the set, which is taken. -/
  | character (set : CharSet)
  /-- A condition on the place. -/
  | place (condition : Edge)

/-- From a place on, the text gives what is asked for, one thing after another. -/
def Demand.areMet : Option Char → List Demand → List Char → Bool
  | _, [], _ => true
  | before, .place condition :: demands, text =>
      condition.holds before text.head? && areMet before demands text
  | _, .character _ :: _, [] => false
  | _, .character set :: demands, next :: rest =>
      set.contains next && areMet (some next) demands rest

/-- The expression holds no choice and no repetition. -/
def Expr.isStraight : Expr → Bool
  | .empty | .word _ | .chars _ | .edge _ => true
  | .group _ body => body.isStraight
  | .sequence first rest => first.isStraight && rest.isStraight
  | .choice _ _ | .repetition _ _ _ _ => false

/-- What an expression without choices and repetitions asks of the text. -/
def Expr.demands : Expr → List Demand
  | .empty | .choice _ _ | .repetition _ _ _ _ => []
  | .word characters => characters.map fun character => .character (.single character)
  | .chars set => [.character set]
  | .edge condition => [.place condition]
  | .group _ body => body.demands
  | .sequence first rest => first.demands ++ rest.demands

def Goal.isStraight : Goal → Bool
  | .expression _ expr => expr.isStraight
  | .rounds _ _ _ | .upTo _ _ _ _ | .further _ _ _ => false

def Goal.demands : Goal → List Demand
  | .expression _ expr => expr.demands
  | .rounds _ _ _ | .upTo _ _ _ _ | .further _ _ _ => []

def Goal.extent : Goal → Nat
  | .expression _ expr => expr.extent
  | .rounds _ _ _ | .upTo _ _ _ _ | .further _ _ _ => 0

namespace Thread

def isStraight (thread : Thread) : Bool :=
  thread.all Goal.isStraight

/-- What the thread asks of the text. -/
def demands (thread : Thread) : List Demand :=
  thread.flatMap Goal.demands

/-- A bound for the number of moves that the thread makes at one place. -/
def extent : Thread → Nat
  | [] => 0
  | goal :: goals => goal.extent + extent goals

@[simp]
theorem isStraight_nil :
    isStraight [] = true := by
  rfl

@[simp]
theorem isStraight_cons
    (goal : Goal)
    (goals : Thread) :
    isStraight (goal :: goals) = (goal.isStraight && isStraight goals) := by
  rfl

@[simp]
theorem isStraight_append
    (front back : Thread) :
    isStraight (front ++ back) = (isStraight front && isStraight back) := by
  exact List.all_append

@[simp]
theorem demands_nil :
    demands [] = [] := by
  rfl

@[simp]
theorem demands_cons
    (goal : Goal)
    (goals : Thread) :
    demands (goal :: goals) = goal.demands ++ demands goals := by
  rfl

@[simp]
theorem demands_append
    (front back : Thread) :
    demands (front ++ back) = demands front ++ demands back := by
  exact List.flatMap_append

@[simp]
theorem extent_nil :
    extent [] = 0 := by
  rfl

@[simp]
theorem extent_cons
    (goal : Goal)
    (goals : Thread) :
    extent (goal :: goals) = goal.extent + extent goals := by
  rfl

@[simp]
theorem extent_append
    (front back : Thread) :
    extent (front ++ back) = extent front + extent back := by
  induction front with
  | nil => simp
  | cons goal front ih => rw [List.cons_append, extent_cons, extent_cons, ih, Nat.add_assoc]

end Thread

/--
A goal without forks passes its demands on to smaller goals, takes a character
that it asks for, or requires the condition that it asks for.
-/
theorem Goal.move_of_isStraight
    {goal : Goal}
    (straight : goal.isStraight = true) :
    (∃ others : Thread,
        goal.move = .pass others ∧
          others.isStraight = true ∧
          others.demands = goal.demands ∧ others.extent < goal.extent) ∨
      (∃ (set : CharSet) (others : Thread),
        goal.move = .take set others ∧
          others.isStraight = true ∧
          goal.demands = .character set :: others.demands ∧ others.extent ≤ goal.extent) ∨
      ∃ condition,
        goal.move = .require condition ∧
          goal.demands = [.place condition] ∧ 0 < goal.extent := by
  cases goal with
  | expression number expr =>
      cases expr with
      | empty => exact .inl ⟨[], rfl, rfl, rfl, Nat.one_pos⟩
      | word characters =>
          match characters with
          | [] => exact .inl ⟨[], rfl, rfl, rfl, Nat.one_pos⟩
          | [character] => exact .inr (.inl ⟨_, [], rfl, rfl, rfl, Nat.zero_le _⟩)
          | character :: next :: characters =>
              refine .inr (.inl ⟨_, _, rfl, rfl, ?_, Nat.le_refl 1⟩)
              simp [Goal.demands, Expr.demands]
      | chars set => exact .inr (.inl ⟨set, [], rfl, rfl, rfl, Nat.zero_le _⟩)
      | edge condition => exact .inr (.inr ⟨condition, rfl, rfl, Nat.one_pos⟩)
      | group number body =>
          refine .inl ⟨_, rfl, ?_, ?_, Nat.lt_succ_self _⟩
          · simpa [Goal.isStraight, Expr.isStraight] using straight
          · simp [Goal.demands, Expr.demands]
      | sequence first rest =>
          refine .inl ⟨_, rfl, ?_, ?_, Nat.lt_succ_self _⟩
          · simpa [Goal.isStraight, Expr.isStraight] using straight
          · simp [Goal.demands, Expr.demands]
      | choice => cases straight
      | repetition => cases straight
  | rounds | upTo | further => cases straight

section Normal

theorem Expr.flatMap_demands_parts
    (expr : Expr) :
    expr.parts.flatMap demands = expr.demands := by
  induction expr with
  | sequence first rest _ ih => rw [parts, List.flatMap_cons, ih, demands]
  | _ => simp [parts]

theorem Expr.flatMap_demands_pushPart
    (part : Expr)
    (parts : List Expr) :
    (pushPart part parts).flatMap demands = part.demands ++ parts.flatMap demands := by
  simp only [pushPart]
  split
  · rfl
  · simp [demands]
  · rfl

theorem Expr.demands_sequenceOf
    (exprs : List Expr) :
    (sequenceOf exprs).demands = exprs.flatMap demands := by
  induction exprs with
  | nil => rfl
  | cons first exprs ih =>
      cases exprs with
      | nil => simp [sequenceOf]
      | cons second exprs =>
          rw [List.flatMap_cons, ← ih]
          rfl

/-- The normal form of a sequence asks for what its parts ask for, one after another. -/
theorem Expr.demands_inSequence
    (exprs : List Expr) :
    (inSequence exprs).demands = exprs.flatMap demands := by
  have pushed (parts : List Expr) :
      (parts.foldr pushPart []).flatMap demands = parts.flatMap demands := by
    induction parts with
    | nil => rfl
    | cons part parts ih =>
        rw [List.foldr_cons, flatMap_demands_pushPart, ih, List.flatMap_cons]
  rw [inSequence, demands_sequenceOf, pushed, List.flatMap_assoc]
  exact List.flatMap_congr fun expr _ => flatMap_demands_parts expr

theorem Expr.isStraight_of_mem_parts
    {expr : Expr}
    (straight : expr.isStraight = true) :
    ∀ part ∈ expr.parts, part.isStraight = true := by
  induction expr with
  | sequence first rest _ ih =>
      rw [isStraight, Bool.and_eq_true] at straight
      rw [parts, List.forall_mem_cons]
      exact ⟨straight.1, ih straight.2⟩
  | _ => simpa [parts] using straight

theorem Expr.isStraight_of_mem_pushPart
    {part : Expr}
    {parts : List Expr}
    (straight : part.isStraight = true)
    (each : ∀ other ∈ parts, other.isStraight = true) :
    ∀ other ∈ pushPart part parts, other.isStraight = true := by
  simp only [pushPart]
  split
  · exact each
  · rw [List.forall_mem_cons] at each ⊢
    exact ⟨rfl, each.2⟩
  · exact List.forall_mem_cons.2 ⟨straight, each⟩

theorem Expr.isStraight_sequenceOf
    {exprs : List Expr}
    (each : ∀ expr ∈ exprs, expr.isStraight = true) :
    (sequenceOf exprs).isStraight = true := by
  induction exprs with
  | nil => rfl
  | cons first exprs ih =>
      rw [List.forall_mem_cons] at each
      cases exprs with
      | nil => exact each.1
      | cons second exprs =>
          have rest := ih each.2
          simp [sequenceOf, isStraight, each.1, rest]

theorem Expr.isStraight_inSequence
    {exprs : List Expr}
    (each : ∀ expr ∈ exprs, expr.isStraight = true) :
    (inSequence exprs).isStraight = true := by
  have pushed
      {parts : List Expr}
      (partsEach : ∀ part ∈ parts, part.isStraight = true) :
      ∀ other ∈ parts.foldr pushPart [], other.isStraight = true := by
    induction parts with
    | nil => simp
    | cons part parts ih =>
        rw [List.forall_mem_cons] at partsEach
        exact isStraight_of_mem_pushPart partsEach.1 (ih partsEach.2)
  apply isStraight_sequenceOf
  apply pushed
  intro part listed
  rcases List.mem_flatMap.1 listed with ⟨expr, member, inParts⟩
  exact isStraight_of_mem_parts (each expr member) part inParts

end Normal

/-- One of the ways to go on, or the end, suits the text behind a place. -/
def Frontier.admits (reached : Frontier) : List Char → Bool
  | [] => reached.ends
  | character :: rest =>
      reached.ends ||
        (threadsOver character reached.steps).any fun thread =>
          Demand.areMet (some character) thread.demands rest

/-- What remains behind every step has no forks and stays within a bound. -/
def Frontier.IsStraight (bound : Nat) (reached : Frontier) : Prop :=
  ∀ step ∈ reached.steps,
    step.remaining.isStraight = true ∧ step.remaining.extent ≤ bound

section Frontier

variable
    {bound : Nat}
    {reached : Frontier}
    {others : Marks → Frontier}

theorem Frontier.IsStraight.mono
    {larger : Nat}
    (straight : reached.IsStraight bound)
    (le : bound ≤ larger) :
    reached.IsStraight larger := by
  intro step listed
  exact ⟨(straight step listed).1, Nat.le_trans (straight step listed).2 le⟩

theorem Frontier.IsStraight.orElse
    (straight : reached.IsStraight bound)
    (othersStraight : (others reached.followed).IsStraight bound) :
    (reached.orElse others).IsStraight bound := by
  rw [Frontier.orElse]
  split
  · exact straight
  · intro step listed
    rcases List.mem_append.1 listed with here | there
    · exact straight step here
    · exact othersStraight step there

/-- Less preferred threads add to what the preferred ones admit. -/
theorem Frontier.admits_orElse
    (reached : Frontier)
    (others : Marks → Frontier)
    (text : List Char) :
    (reached.orElse others).admits text =
      (reached.admits text || (others reached.followed).admits text) := by
  rw [Frontier.orElse]
  cases ends : reached.ends with
  | true => cases text <;> simp [admits, ends]
  | false =>
      cases text with
      | nil => simp [admits, ends]
      | cons character rest =>
          simp only [admits, ends, threadsOver, Bool.false_or, List.filter_append, List.map_append,
            List.any_append, Bool.false_eq_true, if_false]
          exact Bool.or_left_comm _ _ _

end Frontier

/--
A thread without forks marks nothing at a place, and admits a text exactly
when the text gives what the thread asks for.
-/
theorem Thread.explore_of_isStraight
    (thread : Thread)
    (straight : thread.isStraight = true)
    {depth : Nat}
    (enough : thread.extent < depth)
    (before : Option Char)
    (text : List Char)
    (followed : Marks) :
    (thread.explore before text.head? depth followed).followed = followed ∧
      (thread.explore before text.head? depth followed).IsStraight thread.extent ∧
      (thread.explore before text.head? depth followed).admits text =
        Demand.areMet before thread.demands text := by
  induction depth generalizing thread with
  | zero => exact absurd enough (Nat.not_lt_zero _)
  | succ depth ih =>
      cases thread with
      | nil => cases text <;> simp [explore, Frontier.IsStraight, Frontier.admits, Demand.areMet]
      | cons goal goals =>
          rw [isStraight_cons, Bool.and_eq_true] at straight
          rw [extent_cons] at enough
          simp only [explore]
          rcases Goal.move_of_isStraight straight.1 with
            ⟨others, move, othersStraight, demands, smaller⟩ |
              ⟨set, others, move, othersStraight, demands, smaller⟩ |
                ⟨condition, move, demands, positive⟩
          · rw [move]
            have onward := ih (others ++ goals) (by simp [othersStraight, straight.2])
              (by rw [extent_append]; omega)
            rw [extent_append, demands_append, demands] at onward
            refine ⟨onward.1, onward.2.1.mono (by rw [extent_cons]; omega), onward.2.2⟩
          · rw [move]
            refine ⟨rfl, ?_, ?_⟩
            · rintro step (_ | ⟨_, ⟨⟩⟩)
              simp only [isStraight_append, othersStraight, straight.2, extent_append,
                extent_cons, Bool.and_self, true_and]
              omega
            · rw [demands_cons, demands]
              cases text with
              | nil => rfl
              | cons next rest =>
                  cases member : set.contains next with
                  | true => simp [Frontier.admits, threadsOver, Demand.areMet, member]
                  | false => simp [Frontier.admits, threadsOver, Demand.areMet, member]
          · rw [move, demands_cons, demands]
            simp only [List.cons_append, List.nil_append, Demand.areMet]
            cases holds : condition.holds before text.head? with
            | true =>
                have onward := ih goals straight.2 (by omega)
                simp only [if_true, Bool.true_and]
                exact ⟨onward.1, onward.2.1.mono (by rw [extent_cons]; omega), onward.2.2⟩
            | false =>
                refine ⟨rfl, by simp [Frontier.IsStraight, Frontier.none], ?_⟩
                cases text <;> rfl

/-- Threads without forks admit a text when one of them is given what it asks for. -/
theorem Frontier.ofThreads_of_isStraight
    {bound depth : Nat}
    (enough : bound < depth)
    {threads : List Thread}
    (straight : ∀ thread ∈ threads, thread.isStraight = true ∧ thread.extent ≤ bound)
    (before : Option Char)
    (text : List Char)
    (followed : Marks) :
    (ofThreads before text.head? depth followed threads).IsStraight bound ∧
      (ofThreads before text.head? depth followed threads).admits text =
        threads.any fun thread => Demand.areMet before thread.demands text := by
  induction threads generalizing followed with
  | nil =>
      refine ⟨by simp [ofThreads, none, IsStraight], ?_⟩
      cases text <;> rfl
  | cons thread threads ih =>
      rw [List.forall_mem_cons] at straight
      have first := Thread.explore_of_isStraight thread straight.1.1
        (Nat.lt_of_le_of_lt straight.1.2 enough) before text followed
      refine ⟨(first.2.1.mono straight.1.2).orElse (ih straight.2 _).1, ?_⟩
      rw [ofThreads, admits_orElse, first.2.2, (ih straight.2 _).2, List.any_cons]

/--
Threads that reach nothing but threads without forks lead to a match exactly
when the text suits what they reach.
-/
theorem isSome_advance_of_isStraight
    {bound depth : Nat}
    (enough : bound < depth)
    {threads : List Thread}
    {before : Option Char}
    {text : List Char}
    (straight : (Frontier.ofThreads before text.head? depth 0 threads).IsStraight bound) :
    (advance depth threads before text).isSome =
      (Frontier.ofThreads before text.head? depth 0 threads).admits text := by
  induction text generalizing threads before with
  | nil =>
      rw [advance]
      simp only [List.head?_nil, Frontier.admits]
      split <;> simp_all
  | cons character rest ih =>
      rw [List.head?_cons] at straight ⊢
      have leftStraight :
          ∀ thread ∈ threadsOver character
              (Frontier.ofThreads before (some character) depth 0 threads).steps,
            thread.isStraight = true ∧ thread.extent ≤ bound := by
        intro thread listed
        rcases List.mem_map.1 listed with ⟨step, kept, rfl⟩
        exact straight step (List.mem_of_mem_filter kept)
      have next :=
        Frontier.ofThreads_of_isStraight enough leftStraight (some character) rest 0
      have onward := ih next.1
      rw [next.2] at onward
      rw [advance, Frontier.admits, ← onward]
      generalize (Frontier.ofThreads before (some character) depth 0 threads).ends = ends
      generalize threadsOver character
        (Frontier.ofThreads before (some character) depth 0 threads).steps = left at onward ⊢
      cases left with
      | nil => cases ends <;> simp [onward]
      | cons thread left =>
          simp only [List.isEmpty_cons, Bool.false_eq_true, if_false]
          cases advance depth (thread :: left) (some character) rest with
          | none => cases ends <;> rfl
          | some length => cases ends <;> rfl

/-- The same for the thread of an expression. -/
theorem Expr.isSome_matchLength?_of_isStraight
    {expr : Expr}
    {bound : Nat}
    (enough : bound < expr.depth)
    {before : Option Char}
    {text : List Char}
    (straight :
      ((Thread.ofExpr expr).explore before text.head? expr.depth 0).IsStraight bound) :
    (expr.matchLength? before text).isSome =
      ((Thread.ofExpr expr).explore before text.head? expr.depth 0).admits text := by
  have nothing (followed : Marks) : (Frontier.none followed).admits text = false := by
    cases text <;> rfl
  have whole :
      (Frontier.ofThreads before text.head? expr.depth 0 [Thread.ofExpr expr]).IsStraight
        bound := by
    apply straight.orElse
    simp [Frontier.ofThreads, Frontier.none, Frontier.IsStraight]
  rw [matchLength?, isSome_advance_of_isStraight enough whole, Frontier.ofThreads,
    Frontier.admits_orElse, Frontier.ofThreads, nothing, Bool.or_false]

theorem Marks.testBit_insert_of_lt
    {marks : Marks}
    {number other : Nat}
    (free : marks.testBit other = false)
    (greater : number < other) :
    (marks.insert number).testBit other = false := by
  rw [insert, Nat.testBit_or, free, Bool.false_or, Nat.one_shiftLeft, Nat.testBit_two_pow]
  simp [Nat.ne_of_lt greater]

/--
A choice between expressions without forks admits what one of them admits with
the goals behind it: the forks have increasing numbers, so none is met twice.
-/
theorem Thread.explore_choiceOf
    {exprs : List Expr}
    (nonempty : exprs ≠ [])
    (exprsStraight : ∀ expr ∈ exprs, expr.isStraight = true)
    {goals : Thread}
    (goalsStraight : goals.isStraight = true)
    (depth number : Nat)
    (enough : (Expr.choiceOf exprs).extent + goals.extent < depth)
    (before : Option Char)
    (text : List Char)
    (followed : Marks)
    (free : ∀ other, number ≤ other → followed.testBit other = false) :
    let reached :=
      Thread.explore before text.head? depth followed
        (.expression number (Expr.choiceOf exprs) :: goals)
    reached.IsStraight ((Expr.choiceOf exprs).extent + goals.extent) ∧
      reached.admits text =
        exprs.any fun expr => Demand.areMet before (expr.demands ++ goals.demands) text := by
  induction exprs generalizing depth number followed with
  | nil => exact absurd rfl nonempty
  | cons expr exprs ih =>
      rw [List.forall_mem_cons] at exprsStraight
      have alone
          (depth number : Nat)
          (fits : expr.extent + goals.extent < depth)
          (followed : Marks) :=
        explore_of_isStraight (.expression number expr :: goals)
          (by simp [Goal.isStraight, exprsStraight.1, goalsStraight])
          (by simpa [Goal.extent] using fits) before text followed
      cases exprs with
      | nil =>
          have reached := alone depth number enough followed
          simpa [Goal.demands, Goal.extent, Expr.choiceOf] using reached.2
      | cons second exprs =>
          have whole :
              Expr.choiceOf (expr :: second :: exprs) =
                .choice expr (Expr.choiceOf (second :: exprs)) := by
            rfl
          rw [whole, Expr.extent] at enough ⊢
          obtain ⟨depth, rfl⟩ : ∃ less, depth = less + 1 :=
            Nat.exists_eq_succ_of_ne_zero (Nat.ne_of_gt (Nat.zero_lt_of_lt enough))
          have preferred := alone depth (number + 1) (by omega) (followed.insert number)
          have others :=
            ih (by simp) exprsStraight.2 depth (number + 1 + expr.extent) (by omega)
              (followed.insert number) fun other greater =>
                Marks.testBit_insert_of_lt (free other (by omega)) (by omega)
          simp only [explore, Goal.move, free number (Nat.le_refl _), Bool.false_eq_true, if_false,
            List.cons_append, List.nil_append]
          constructor
          · apply Frontier.IsStraight.orElse
            · exact preferred.2.1.mono (by simp only [extent_cons, Goal.extent]; omega)
            · rw [preferred.1]
              exact others.1.mono (by omega)
          · rw [Frontier.admits_orElse, preferred.1, preferred.2.2, others.2, List.any_cons,
              demands_cons]
            rfl

section Choices

variable
    {exprs : List Expr}
    (nonempty : exprs ≠ [])
    (straight : ∀ expr ∈ exprs, expr.isStraight = true)
    (number : Nat)
    (before : Option Char)
    (text : List Char)

include nonempty straight

/-- A group of alternatives matches when one of the alternatives does. -/
theorem Expr.isSome_matchLength?_group :
    ((Expr.group number (choiceOf exprs)).matchLength? before text).isSome =
      exprs.any fun expr => Demand.areMet before expr.demands text := by
  have depth :
      (Expr.group number (choiceOf exprs)).depth = 2 * (choiceOf exprs).extent + 3 + 1 := by
    rfl
  have opened :
      (Thread.ofExpr (.group number (choiceOf exprs))).explore before text.head?
          (2 * (choiceOf exprs).extent + 3 + 1) 0 =
        Thread.explore before text.head? (2 * (choiceOf exprs).extent + 3) 0
          [.expression 1 (choiceOf exprs)] := by
    rfl
  have chosen :=
    Thread.explore_choiceOf nonempty straight Thread.isStraight_nil
      (2 * (choiceOf exprs).extent + 3) 1 (by rw [Thread.extent_nil]; omega) before text 0
      fun other _ => Nat.zero_testBit other
  rw [← opened, ← depth, Thread.extent_nil] at chosen
  rw [isSome_matchLength?_of_isStraight (by omega) chosen.1, chosen.2]
  simp

/-- Between two conditions, one of the alternatives has to stand. -/
theorem Expr.isSome_matchLength?_between
    (front back : Edge) :
    ((sequenceOf
        [.edge front, .group number (choiceOf exprs), .edge back]).matchLength? before
          text).isSome =
      (front.holds before text.head? &&
        exprs.any fun expr => Demand.areMet before (expr.demands ++ [.place back]) text) := by
  let whole := sequenceOf [.edge front, .group number (choiceOf exprs), .edge back]
  let behind : Goal := .expression (3 + ((choiceOf exprs).extent + 1)) (.edge back)
  have depth : whole.depth = 2 * (choiceOf exprs).extent + 8 + 4 := by
    simp only [whole, sequenceOf, Expr.depth, extent]
    omega
  have opened :
      (Thread.ofExpr whole).explore before text.head? (2 * (choiceOf exprs).extent + 8 + 4) 0 =
        if front.holds before text.head? then
          Thread.explore before text.head? (2 * (choiceOf exprs).extent + 8) 0
            [.expression 4 (choiceOf exprs), behind]
        else .none 0 := by
    rfl
  have chosen :=
    Thread.explore_choiceOf nonempty straight (show Thread.isStraight [behind] = true from rfl)
      (2 * (choiceOf exprs).extent + 8) 4 (by simp [behind, Goal.extent, extent]; omega)
      before text 0 fun other _ => Nat.zero_testBit other
  have extent : Thread.extent [behind] = 1 := rfl
  rw [extent] at chosen
  rw [← depth] at opened
  cases holds : front.holds before text.head? with
  | true =>
      rw [holds, if_pos rfl] at opened
      rw [← opened] at chosen
      rw [isSome_matchLength?_of_isStraight (by omega) chosen.1, chosen.2]
      simp [behind, Goal.demands, demands]
  | false =>
      rw [holds, if_neg Bool.false_ne_true] at opened
      have nothing :
          ((Thread.ofExpr whole).explore before text.head? whole.depth 0).IsStraight 0 := by
        rw [opened]
        simp [Frontier.none, Frontier.IsStraight]
      rw [isSome_matchLength?_of_isStraight (by omega) nothing, opened]
      cases text <;> rfl

end Choices

end CallScript.Pattern
