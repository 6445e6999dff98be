import CallScript.Proofs.Environment.Replay
import CallScript.Proofs.Session.Effects
import CallScript.Proofs.Text.ByteOrder

/-!
# The writes of a session

Which writes a call makes is said without the variables being changed: `set`
and `function` make one when what they need is present, and control-flow calls
make those of the evaluator.  The environment of a session that was reached by
calls is the one it started with after the writes of these calls.  The main
statement is `Session.environment_of_writes`.
-/

namespace CallScript

/--
The writes that an evaluator makes.  Whatever it runs, the environment it
leaves behind is the one it was given after these writes.
-/
structure Evaluator.Writes {State : Type} (evaluator : Evaluator State) where
  /-- The writes of a branch of a conditional, or of the handler of a failed attempt. -/
  ofBranch : State → Environment → Option Value → List Write
  /-- The writes of the fragments of the body of a loop. -/
  ofBlock : State → Environment → List String → List Write
  /-- The writes of the attempt of a body. -/
  ofAttempt : State → Environment → Option Value → List Write
  branch_eq (state : State) (environment : Environment) (body : Option Value) :
    (evaluator.branch state environment body).2 =
      environment.replay (ofBranch state environment body)
  block_eq (state : State) (environment : Environment) (fragments : List String) :
    (evaluator.block state environment fragments).2 =
      environment.replay (ofBlock state environment fragments)
  attempt_eq (state : State) (environment : Environment) (body : Option Value) :
    (evaluator.attempt state environment body).2.2 =
      environment.replay (ofAttempt state environment body)

/-- The evaluator that makes the same write whatever it runs. -/
def Evaluator.repeating (write : Write) : Evaluator Unit where
  branch state environment _ := (state, environment.set write.name write.value)
  block state environment _ := (state, environment.set write.name write.value)
  attempt state environment _ := (true, state, environment.set write.name write.value)

def Evaluator.Writes.ofRepeating (write : Write) : (repeating write).Writes where
  ofBranch _ _ _ := [write]
  ofBlock _ _ _ := [write]
  ofAttempt _ _ _ := [write]
  branch_eq _ _ _ := rfl
  block_eq _ _ _ := rfl
  attempt_eq _ _ _ := rfl

namespace Session

variable
    {State : Type}
    {evaluator : Evaluator State}
    (log : evaluator.Writes)

/-- The writes that a call makes in a session. -/
def writes
    (session : Session State)
    (call : Call) : List Write :=
  let first := argument call.args 0
  let second := argument call.args 1
  let third := argument call.args 2
  let ofBranch := log.ofBranch session.evaluation session.environment
  let ofBlock (body : Option Value) :=
    log.ofBlock session.evaluation session.environment (blockFragments (textOrEmpty body))
  match call.builtin with
  | .set =>
      match first, second with
      | some name, some value => [⟨name.display, value⟩]
      | _, _ => []
  | .function =>
      match call.args with
      | some name :: others =>
          [⟨name.display, .function (functionRecord name others) session.nextIdentity⟩]
      | _ => []
  | .ifThen => if holds first then ofBranch second else []
  | .ifElse => ofBranch (if holds first then second else third)
  | .loop => ofBlock first
  | .whileLoop => if holds first then ofBlock second else []
  | .tryCatch =>
      let attempted := evaluator.attempt session.evaluation session.environment first
      log.ofAttempt session.evaluation session.environment first ++
        if attempted.1 then [] else log.ofBranch attempted.2.1 attempted.2.2 second
  | _ => []

def writesOf (session : Session State) : List Call → List Write
  | [] => []
  | call :: calls =>
      session.writes log call ++ (session.perform evaluator call).1.writesOf calls

/-- A call changes the variables by its writes, and in no other way. -/
theorem environment_perform
    (session : Session State)
    (call : Call) :
    (session.perform evaluator call).1.environment =
      session.environment.replay (session.writes log call) := by
  rcases call with ⟨builtin, args⟩
  cases builtin with
  | set =>
      simp only [perform, Session.call, writes]
      cases argument args 0 with
      | none => rfl
      | some name =>
          cases argument args 1 with
          | none => rfl
          | some value => rfl
  | function =>
      cases args with
      | nil => rfl
      | cons first others =>
          cases first with
          | none => rfl
          | some name => rfl
  | ifThen =>
      simp only [perform, Session.call, writes]
      split
      · exact log.branch_eq _ _ _
      · rfl
  | ifElse => exact log.branch_eq _ _ _
  | loop => exact log.block_eq _ _ _
  | whileLoop =>
      simp only [perform, Session.call, writes]
      split
      · exact log.block_eq _ _ _
      · rfl
  | tryCatch =>
      -- The handler starts from the environment that the attempt leaves behind.
      simp only [perform, Session.call, writes, runAttempt, Environment.replay_append,
        ← log.attempt_eq]
      split
      · rfl
      · exact log.branch_eq _ _ _
  | input =>
      cases prompt : argument args 0 with
      | none =>
          simp only [perform, Session.call, prompt]
          rfl
      | some value =>
          have written : (Call.mk .input args).text? = some value.display :=
            congrArg (Option.map Value.display) prompt
          exact congrArg Prod.fst (core_perform_of_text evaluator _ session written)
  | _ => rfl

/-- Calls change the variables by their writes, and in no other way. -/
theorem environment_after
    (session : Session State)
    (calls : List Call) :
    (session.after evaluator calls).environment =
      session.environment.replay (session.writesOf log calls) := by
  induction calls generalizing session with
  | nil => rfl
  | cons call calls ih =>
      rw [after_cons, ih, environment_perform log, writesOf, Environment.replay_append]

/-- A call of `set` or `function` returns what it writes. -/
theorem result_of_write
    (session : Session State)
    (call : Call)
    (writer : call.builtin = .set ∨ call.builtin = .function)
    {write : Write}
    (made : write ∈ session.writes log call) :
    (session.perform evaluator call).2 = .ok (.value write.value) := by
  rcases call with ⟨builtin, args⟩
  rcases writer with rfl | rfl
  · simp only [writes] at made
    split at made
    · rename_i first second
      cases List.mem_singleton.1 made
      simp only [perform, Session.call, first, second]
    · cases made
  · simp only [writes] at made
    split at made
    · cases List.mem_singleton.1 made
      rfl
    · cases made

/--
In every session that calls lead to from a session without variables, a
variable has the value of the last write to it that the policy admits, and is
not bound when there was none; a policy that rejects the reserved words never
lets one of them be bound.  A call of `set` or `function` that makes a write
returns the written value, also when the write is refused.  Bound names stay
bound whatever is called then.  The bindings are listed by the bytes of their
names in increasing order, each bound name exactly once.
-/
theorem environment_of_writes
    (admission : Admission)
    (input : List UInt8)
    (capacity : Option Nat)
    (evaluation : State)
    (calls : List Call) :
    let initial := start admission input capacity evaluation
    let reached := initial.after evaluator calls
    (∀ name,
        reached.environment.get? name =
          lastAdmitted? admission (initial.writesOf log calls) name) ∧
      (admission = .rejectReserved →
        ∀ name ∈ reservedWords, reached.environment.get? name = none) ∧
      (∀ call : Call,
        call.builtin = .set ∨ call.builtin = .function →
          ∀ write ∈ reached.writes log call,
            (reached.perform evaluator call).2 = .ok (.value write.value)) ∧
      (∀ more name,
        reached.environment.contains name = true →
          (reached.after evaluator more).environment.contains name = true) ∧
      (∀ name value,
        (name, value) ∈ reached.environment.bindings ↔
          reached.environment.get? name = some value) ∧
      (∀ name,
        (reached.environment.bindings.map Prod.fst).count name =
          if reached.environment.contains name then 1 else 0) ∧
      reached.environment.bindings.Pairwise
        (fun left right => Text.bytes left.1 < Text.bytes right.1) ∧
      reached.environment.size = reached.environment.bindings.length := by
  intro initial reached
  have replayed :
      reached.environment =
        (Environment.empty admission).replay (initial.writesOf log calls) :=
    environment_after log initial calls
  have last (name : String) :
      reached.environment.get? name =
        lastAdmitted? admission (initial.writesOf log calls) name := by
    rw [replayed, Environment.get?_replay]
    exact Option.or_none
  have ordered : reached.environment.store.IsOrdered := by
    rw [replayed]
    exact Environment.isOrdered_replay _ NameMap.isOrdered_empty _
  refine ⟨last, ?_, ?_, ?_, ?_, ?_, ?_, rfl⟩
  · rintro rfl name reserved
    rw [last]
    exact lastAdmitted?_reserved _ reserved
  · intro call writer write made
    exact result_of_write log reached call writer made
  · intro more name bound
    rw [environment_after log]
    exact Environment.contains_replay _ bound _
  · exact ordered.mem_entries_iff
  · exact ordered.count_names
  · exact ordered.imp Text.bytes_lt_bytes

theorem environment_of_writes_ofBranch :
    let evaluator := Evaluator.repeating ⟨"a", .bool true⟩
    let calls : List Call :=
      [⟨.set, [some (.text "a"), some (.bool false)]⟩,
        ⟨.set, [some (.text "loop"), some (.bool false)]⟩,
        ⟨.ifElse, [none]⟩]
    let reached := (start .rejectReserved [] none ()).after evaluator calls
    reached.environment.get? "a" = some (.bool true) ∧
      reached.environment.get? "loop" = none := by
  intro evaluator calls reached
  have described :=
    environment_of_writes (.ofRepeating ⟨"a", .bool true⟩) .rejectReserved [] none () calls
  exact ⟨(described.1 "a").trans (by decide), described.2.1 rfl "loop" (by decide)⟩

end Session

end CallScript
