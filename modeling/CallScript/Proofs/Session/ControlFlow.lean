import CallScript.Proofs.Session.Effects

/-!
# Control flow

The built-ins for control flow can be put down to each other.  To say what they ask
of an evaluator, the evaluator is given a log of its requests; keeping the log has no
influence on a session.  A `while` is then a `loop` or a `nop`, an `if_else` is an `if`
that is taken, and a `try_catch` is one attempt with such an `if` behind it when the
attempt fails.

The main statement is `Session.controlFlow_reduces`.  It holds for every evaluator;
nothing is said about what a body does.
-/

namespace CallScript

/-- What an evaluator is asked to do. -/
inductive Request where
  /-- A branch of a conditional, or the handler of a failed attempt, is to be run. -/
  | branch (body : Option Value)
  /-- The fragments of the body of a loop are to be run. -/
  | block (fragments : List String)
  /-- A body is to be attempted. -/
  | attempt (body : Option Value)
  deriving DecidableEq

/-- The evaluator with a log of its requests, the last one at the end. -/
def Evaluator.logged {State : Type} (evaluator : Evaluator State) :
    Evaluator (State × List Request) where
  branch state environment body :=
    let (next, changed) := evaluator.branch state.1 environment body
    ((next, state.2 ++ [.branch body]), changed)
  block state environment fragments :=
    let (next, changed) := evaluator.block state.1 environment fragments
    ((next, state.2 ++ [.block fragments]), changed)
  attempt state environment body :=
    let (succeeded, next, changed) := evaluator.attempt state.1 environment body
    (succeeded, (next, state.2 ++ [.attempt body]), changed)

/-- The evaluator that counts its runs, makes the same write in each, and fails every attempt. -/
def Evaluator.failing (write : Write) : Evaluator Nat where
  branch runs environment _ := (runs + 1, environment.set write.name write.value)
  block runs environment _ := (runs + 1, environment.set write.name write.value)
  attempt runs environment _ := (false, runs + 1, environment.set write.name write.value)

namespace Session

variable
    {State : Type}
    (evaluator : Evaluator State)
    (session : Session (State × List Request))

/-- The session without the log of the requests. -/
def withoutLog : Session State where
  environment := session.environment
  input := session.input
  inputFails := session.inputFails
  output := session.output
  evaluation := session.evaluation.1
  nextIdentity := session.nextIdentity

/-- The requests that were made so far. -/
def log : List Request :=
  session.evaluation.2

/-- Keeping the log has no influence on a call. -/
theorem perform_logged
    (call : Call) :
    (session.perform evaluator.logged call).map withoutLog id =
      session.withoutLog.perform evaluator call := by
  rcases call with ⟨builtin, args⟩
  cases builtin with
  | set | function | ifThen | whileLoop =>
      simp only [perform, Session.call]
      split
      · rfl
      · rfl
  | tryCatch =>
      rcases attempted :
        evaluator.attempt session.evaluation.1 session.environment (argument args 0) with
        ⟨succeeded, next, changed⟩
      cases succeeded with
      | true =>
          simp [perform, Session.call, runAttempt, Evaluator.logged, withoutLog, attempted,
            evaluated]
      | false =>
          simp [perform, Session.call, runAttempt, runBranch, Evaluator.logged, withoutLog,
            attempted, evaluated]
  | input =>
      simp only [perform, Session.call]
      split
      · rename_i prompt present
        cases fits : session.output.fits prompt.display.toUTF8.toList with
        | true =>
            have sameFits : session.withoutLog.output.fits prompt.display.toUTF8.toList = true :=
              fits
            simp only [writing, fits, sameFits]
            rfl
        | false =>
            have sameFits : session.withoutLog.output.fits prompt.display.toUTF8.toList = false :=
              fits
            simp only [writing, fits, sameFits]
            rfl
      · rfl
  | _ => rfl

theorem after_logged
    (calls : List Call) :
    (session.after evaluator.logged calls).withoutLog =
      session.withoutLog.after evaluator calls := by
  induction calls generalizing session with
  | nil => rfl
  | cons call calls ih =>
      rw [after_cons, after_cons, ih, ← session.perform_logged evaluator call]
      rfl

section Reductions

variable
    {State : Type}
    (evaluator : Evaluator State)
    (session : Session State)
    (args : List (Option Value))

theorem result_rem_eq_iff
    (value : Bool) :
    (session.perform evaluator ⟨.rem, args⟩).2 = .ok (.ofBool value) ↔
      holds (argument args 0) = value := by
  simp [perform, Session.call, Outcome.ofBool]

theorem perform_whileLoop :
    session.perform evaluator ⟨.whileLoop, args⟩ =
      if holds (argument args 0) then session.perform evaluator ⟨.loop, [argument args 1]⟩
      else session.perform evaluator ⟨.nop, []⟩ := by
  simp only [perform, Session.call]
  split
  · rfl
  · rfl

theorem perform_ifElse :
    session.perform evaluator ⟨.ifElse, args⟩ =
      session.perform evaluator
        ⟨.ifThen, [some (.bool true),
          if holds (argument args 0) then argument args 1 else argument args 2]⟩ := by
  rfl

theorem perform_ifThen_of_not_holds
    (fails : holds (argument args 0) = false) :
    session.perform evaluator ⟨.ifThen, args⟩ =
      ((session.perform evaluator ⟨.nop, []⟩).1, .ok (.ofBool false)) := by
  simp [perform, Session.call, fails]

/-- A `try_catch` is an attempt, with a conditional behind it that is taken if the attempt fails. -/
theorem perform_tryCatch :
    (session.perform evaluator ⟨.tryCatch, args⟩).1 =
      let attempted :=
        evaluator.attempt session.evaluation session.environment (argument args 0)
      let behind := session.evaluated attempted.2
      if attempted.1 then behind
      else (behind.perform evaluator ⟨.ifThen, [some (.bool true), argument args 1]⟩).1 := by
  rfl

end Reductions

/--
An evaluator may do what it likes to its own state and to the variables.  A log of its
requests is kept, which has no influence on the session.

A remark tells whether its argument counts as true.  If it does, `while` is a `loop` of
its second argument, and `if_else` an `if` that takes the second argument.  Otherwise,
`while` is a `nop`, `if_else` an `if` that takes the third argument, and `if` answers
false and is a `nop` apart from that.

A `try_catch` attempts its first argument once.  If the attempt fails, an `if` that takes
the second argument comes next, in the session that the attempt leaves behind.

A `loop` or a `while` asks for the fragments of the text of its body, which is empty
when the body is absent.
-/
theorem controlFlow_reduces
    {State : Type}
    (evaluator : Evaluator State)
    (session : Session (State × List Request))
    (args : List (Option Value)) :
    let first := argument args 0
    let second := argument args 1
    let third := argument args 2
    let run (builtin : Builtin) (args : List (Option Value)) :=
      session.perform evaluator.logged ⟨builtin, args⟩
    let remark := (run .rem [first]).2
    let fragments (body : Option Value) := blockFragments (body.elim "" Value.display)
    let attempted := evaluator.attempt session.evaluation.1 session.environment first
    let behind : Session (State × List Request) :=
      { session with
        evaluation := (attempted.2.1, session.log ++ [.attempt first])
        environment := attempted.2.2 }
    (∀ calls,
        (session.after evaluator.logged calls).withoutLog =
          session.withoutLog.after evaluator calls) ∧
      (remark = .ok (.ofBool true) ∨ remark = .ok (.ofBool false)) ∧
      (remark = .ok (.ofBool true) →
        run .whileLoop args = run .loop [second] ∧
          run .ifElse args = run .ifThen [some (.bool true), second] ∧
          (run .whileLoop args).1.log = session.log ++ [.block (fragments second)]) ∧
      (remark = .ok (.ofBool false) →
        run .whileLoop args = run .nop [] ∧
          run .ifElse args = run .ifThen [some (.bool true), third] ∧
          run .ifThen args = ((run .nop []).1, .ok (.ofBool false))) ∧
      (run .tryCatch args).1 =
        (if attempted.1 then behind
          else (behind.perform evaluator.logged ⟨.ifThen, [some (.bool true), second]⟩).1) ∧
      (run .tryCatch args).1.log =
        session.log ++ .attempt first :: (if attempted.1 then [] else [.branch second]) ∧
      (run .loop args).1.log = session.log ++ [.block (fragments first)] ∧
      (run .nop []).1 = session := by
  intro first second third run remark fragments attempted behind
  have tried :
      (run .tryCatch args).1 =
        if attempted.1 then behind
        else (behind.perform evaluator.logged ⟨.ifThen, [some (.bool true), second]⟩).1 :=
    perform_tryCatch evaluator.logged session args
  have truth (value : Bool) : remark = .ok (.ofBool value) ↔ holds first = value :=
    result_rem_eq_iff evaluator.logged session [first] value
  refine ⟨session.after_logged evaluator, ?_, ?_, ?_, tried, ?_, rfl, rfl⟩
  · rw [truth, truth]
    exact Bool.eq_false_or_eq_true _
  · rw [truth]
    intro isTrue
    have repeated : run .whileLoop args = run .loop [second] :=
      (perform_whileLoop evaluator.logged session args).trans (if_pos isTrue)
    refine ⟨repeated, ?_, ?_⟩
    · exact (perform_ifElse evaluator.logged session args).trans (by rw [if_pos isTrue])
    · rw [repeated]
      rfl
  · rw [truth]
    intro isFalse
    have isNot : ¬ holds first = true := by
      rw [isFalse]
      exact Bool.false_ne_true
    refine ⟨?_, ?_, perform_ifThen_of_not_holds _ session args isFalse⟩
    · exact (perform_whileLoop evaluator.logged session args).trans (if_neg isNot)
    · exact (perform_ifElse evaluator.logged session args).trans (by rw [if_neg isNot])
  · rw [tried]
    cases attempted.1 with
    | true => rfl
    | false => exact List.append_assoc _ _ _

/-- An attempt that fails with a handler that is absent, and a body that is never run. -/
theorem controlFlow_reduces_failedAttempt :
    let evaluator := Evaluator.failing ⟨"a", .bool true⟩
    let session : Session (Nat × List Request) := start .permissive [] none (0, [])
    let call (builtin : Builtin) (args : List (Option Value)) :=
      (session.perform evaluator.logged ⟨builtin, args⟩).1
    (call .tryCatch [some (.text "x")]).log = [.attempt (some (.text "x")), .branch none] ∧
      (call .tryCatch [some (.text "x")]).evaluation.1 = 2 ∧
      call .whileLoop [none, some (.text "print(a)")] = session := by
  intro evaluator session call
  obtain ⟨-, -, -, -, tried, logged, -⟩ :=
    controlFlow_reduces evaluator session [some (.text "x")]
  obtain ⟨-, -, -, skipped, -, -, -, idle⟩ :=
    controlFlow_reduces evaluator session [none, some (.text "print(a)")]
  refine ⟨logged, ?_, ?_⟩
  · exact congrArg (fun reached => reached.evaluation.1) tried
  · exact (congrArg Prod.fst (skipped rfl).1).trans idle

end Session

end CallScript
