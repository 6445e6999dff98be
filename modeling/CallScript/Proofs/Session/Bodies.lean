import CallScript.Proofs.Session.Effects
import Mathlib.Data.List.Forall2

/-!
# Bodies under the idle evaluator

The bodies of control-flow calls are handed to the evaluator, those of loops as
fragments.  The idle evaluator leaves everything as it was, so a session comes to the
same whatever the bodies are.

A program is a list of steps, and each of them makes its call from the results of the
earlier ones, so values may be passed on.  Two programs whose calls differ only in
bodies have the same trace: the results of all calls and the session behind each of
them.  The main statement is `Session.trace_idle_eq`.
-/

namespace CallScript

/-- The arguments that a built-in looks at itself, and does not hand to the evaluator. -/
def Call.ownArgs (call : Call) : List (Option Value) :=
  match call.builtin with
  | .ifThen | .ifElse | .whileLoop => [argument call.args 0]
  | .loop | .tryCatch => []
  | _ => call.args

/-- The calls are of the same built-in and differ only in the bodies that they hand over. -/
structure Call.IsLike (left right : Call) : Prop where
  builtin : left.builtin = right.builtin
  ownArgs : left.ownArgs = right.ownArgs

/-- A step of a program: the call that is made, once the results of the earlier ones are known. -/
abbrev Instruction :=
  List (Except CallFailure Outcome) → Call

/-- The instructions make calls that differ only in bodies, whatever the results before them are. -/
def Instruction.IsLike (left right : Instruction) : Prop :=
  ∀ results, (left results).IsLike (right results)

namespace Session

section Idle

variable
    (session : Session Unit)
    (body handler : Option Value)

@[simp]
theorem runBranch_idle :
    session.runBranch .idle body = session := by
  rfl

@[simp]
theorem runBlock_idle :
    session.runBlock .idle body = session := by
  rfl

@[simp]
theorem runAttempt_idle :
    session.runAttempt .idle body handler = session := by
  rfl

/-- A call comes to the same, whatever bodies it hands over. -/
theorem perform_idle_eq
    {left right : Call}
    (alike : left.IsLike right) :
    session.perform .idle left = session.perform .idle right := by
  rcases left with ⟨builtin, leftArgs⟩
  rcases right with ⟨other, rightArgs⟩
  rcases alike with ⟨rfl, args⟩
  cases builtin with
  | loop | tryCatch => rfl
  | ifThen | ifElse | whileLoop =>
      have condition : argument leftArgs 0 = argument rightArgs 0 := (List.cons.inj args).1
      simp [perform, Session.call, condition]
  | _ =>
      have same : leftArgs = rightArgs := args
      rw [same]

end Idle

/-- The sessions behind the steps of a program, with the results of the steps. -/
def trace
    {State : Type}
    (evaluator : Evaluator State)
    (session : Session State)
    (results : List (Except CallFailure Outcome)) :
    List Instruction → List (Session State × Except CallFailure Outcome)
  | [] => []
  | instruction :: program =>
      let reached := session.perform evaluator (instruction results)
      reached :: reached.1.trace evaluator (results ++ [reached.2]) program

theorem length_trace
    {State : Type}
    (evaluator : Evaluator State)
    (session : Session State)
    (results : List (Except CallFailure Outcome))
    (program : List Instruction) :
    (session.trace evaluator results program).length = program.length := by
  induction program generalizing session results with
  | nil => rfl
  | cons instruction program ih => rw [trace, List.length_cons, ih, List.length_cons]

theorem trace_eq_of_isLike
    (session : Session Unit)
    (results : List (Except CallFailure Outcome))
    {left right : List Instruction}
    (alike : List.Forall₂ Instruction.IsLike left right) :
    session.trace .idle results left = session.trace .idle results right := by
  induction alike generalizing session results with
  | nil => rfl
  | cons first rest ih =>
      rw [trace, trace, session.perform_idle_eq (first results), ih]

/--
Two sessions under the idle evaluator start with the same policy, input and capacity
of the output.  Their programs differ only in the bodies that their calls hand over, which
may be any values or absent.  Then, step by step, the calls have the same outcome or
failure, and behind them are the same sessions: the same variables, the same output, and
the same input that is left to be read.
-/
theorem trace_idle_eq
    (admission : Admission)
    (input : List UInt8)
    (capacity : Option Nat)
    {left right : List Instruction}
    (alike : List.Forall₂ Instruction.IsLike left right) :
    let initial := start admission input capacity ()
    let leftTrace := initial.trace .idle [] left
    let rightTrace := initial.trace .idle [] right
    leftTrace.length = left.length ∧
      rightTrace.length = right.length ∧
      leftTrace.map Prod.snd = rightTrace.map Prod.snd ∧
      leftTrace.map (fun reached => reached.1.environment) =
        rightTrace.map (fun reached => reached.1.environment) ∧
      leftTrace.map (fun reached => reached.1.output) =
        rightTrace.map (fun reached => reached.1.output) ∧
      leftTrace.map (fun reached => reached.1.input) =
        rightTrace.map (fun reached => reached.1.input) := by
  intro initial leftTrace rightTrace
  have same : leftTrace = rightTrace := initial.trace_eq_of_isLike [] alike
  refine ⟨length_trace .idle initial [] left, length_trace .idle initial [] right, ?_⟩
  rw [same]
  exact ⟨rfl, rfl, rfl, rfl⟩

/-- Bodies that are absent, functions or earlier results, before a prompt that does not fit. -/
theorem trace_idle_eq_promptCut :
    let declaration : Instruction := fun _ => ⟨.function, [some (.text "f"), some (.text "x")]⟩
    let given (results : List (Except CallFailure Outcome)) : Option Value :=
      (results.head?.bind Except.toOption).bind Outcome.value?
    let ask : Instruction := fun results => ⟨.input, [given results]⟩
    let left : List Instruction :=
      [declaration, fun results => ⟨.ifElse, [some (.bool true), given results]⟩,
        fun _ => ⟨.tryCatch, []⟩, ask]
    let right : List Instruction :=
      [declaration, fun _ => ⟨.ifElse, [some (.bool true), none, some (.text ")(")]⟩,
        fun results => ⟨.tryCatch, [given results, some (.bool false)]⟩, ask]
    let results (program : List Instruction) :=
      ((start .permissive [10] (some 3) ()).trace .idle [] program).map Prod.snd
    results left = results right ∧ (results left).getLast? = some (.error .sinkFull) := by
  intro declaration given ask left right results
  have alike : List.Forall₂ Instruction.IsLike left right :=
    .cons (fun _ => ⟨rfl, rfl⟩) (.cons (fun _ => ⟨rfl, rfl⟩)
      (.cons (fun _ => ⟨rfl, rfl⟩) (.cons (fun _ => ⟨rfl, rfl⟩) .nil)))
  obtain ⟨-, -, same, -⟩ := trace_idle_eq .permissive [10] (some 3) alike
  exact ⟨same, by decide +kernel⟩

end Session

end CallScript
