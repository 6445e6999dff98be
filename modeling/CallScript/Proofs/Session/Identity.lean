import CallScript.Proofs.Environment.Replay
import CallScript.Proofs.Session.Effects

/-!
# The identity of functions

Functions come into a session by calls of `function`, and from around it, to be
passed to calls.  Every one of them has an identity of its own.  Whatever is
called, a function that is bound to a variable, given by a call or kept by the
evaluator was passed or made before, with the same identity and the same
record.

So equality tells functions apart by the steps that made them, and nothing
else, whatever their records say.  The main statement is
`Session.function_of_step`.

The evaluator may bind the functions that it is handed, finds bound or has
kept; it makes none itself.
-/

namespace CallScript

def Value.isFunction : Value → Bool
  | .function _ _ => true
  | _ => false

/-- A function equals another value exactly when the other one is a function with its identity. -/
theorem Value.equals_function_iff
    (record : FunctionRecord)
    (identity : Nat)
    (other : Value) :
    (function record identity).equals other = true ↔
      ∃ otherRecord, other = function otherRecord identity := by
  cases other with
  | function otherRecord otherIdentity =>
      rw [equals, beq_iff_eq]
      constructor
      · rintro rfl
        exact ⟨otherRecord, rfl⟩
      · rintro ⟨_, ⟨⟩⟩
        rfl
  | _ =>
      constructor
      · rintro ⟨⟩
      · rintro ⟨_, ⟨⟩⟩

/-- A function has no order with anything. -/
theorem areOrdered_function
    (record : FunctionRecord)
    (identity : Nat)
    (right : Option Value)
    (test : Ordering → Bool) :
    areOrdered (some (.function record identity)) right test = false := by
  cases right with
  | none => rfl
  | some right => rfl

theorem mem_of_argument_eq_some
    {args : List (Option Value)}
    {position : Nat}
    {value : Value}
    (present : argument args position = some value) :
    some value ∈ args := by
  rw [argument, Option.join_eq_some_iff] at present
  exact List.mem_of_getElem? present

/-! ## Steps -/

/-- A step of a session. -/
inductive Step where
  /-- A built-in is called. -/
  | call (call : Call)
  /-- A function is made around the session, to be passed to calls. -/
  | provide (record : FunctionRecord)

namespace Step

/-- The values that the step is handed. -/
def args : Step → List (Option Value)
  | .call called => called.args
  | .provide _ => []

/-- The value that the step gives, if it gives one, is a new function. -/
def isMaker : Step → Bool
  | .call called => called.builtin == .function
  | .provide _ => true

end Step

/-! ## Evaluators -/

/-- A value is bound in the environment or kept in the state that an evaluator leaves behind. -/
def IsHeld {State : Type} (keeps : State → Value → Prop) (left : State × Environment)
    (value : Value) : Prop :=
  keeps left.1 value ∨ ∃ name, left.2.get? name = some value

/--
What an evaluator keeps in its state.  When it has run, the functions that are
kept or bound were so before, or are the body that it was handed.
-/
structure Evaluator.Custody {State : Type} (evaluator : Evaluator State) where
  keeps : State → Value → Prop
  ofBranch
    (state : State)
    (environment : Environment)
    (body : Option Value)
    (value : Value)
    (isFunction : value.isFunction = true)
    (held : IsHeld keeps (evaluator.branch state environment body) value) :
    IsHeld keeps (state, environment) value ∨ body = some value
  ofBlock
    (state : State)
    (environment : Environment)
    (fragments : List String)
    (value : Value)
    (isFunction : value.isFunction = true)
    (held : IsHeld keeps (evaluator.block state environment fragments) value) :
    IsHeld keeps (state, environment) value
  ofAttempt
    (state : State)
    (environment : Environment)
    (body : Option Value)
    (value : Value)
    (isFunction : value.isFunction = true)
    (held : IsHeld keeps (evaluator.attempt state environment body).2 value) :
    IsHeld keeps (state, environment) value ∨ body = some value

def Evaluator.Custody.ofIdle : Evaluator.idle.Custody where
  keeps _ _ := False
  ofBranch _ _ _ _ _ held := .inl held
  ofBlock _ _ _ _ _ held := held
  ofAttempt _ _ _ _ _ held := .inl held

namespace Session

section Calls

variable
    {State : Type}
    {evaluator : Evaluator State}
    (custody : evaluator.Custody)
    (session : Session State)

/-- The session holds the value in a variable or in the state of its evaluator. -/
def Holds (value : Value) : Prop :=
  IsHeld custody.keeps (session.evaluation, session.environment) value

variable
    {custody}
    {session}
    {value : Value}
    (isFunction : value.isFunction = true)

include isFunction

theorem Holds.of_runBranch
    {body : Option Value}
    (held : (session.runBranch evaluator body).Holds custody value) :
    session.Holds custody value ∨ body = some value := by
  exact custody.ofBranch _ _ _ _ isFunction held

theorem Holds.of_runBlock
    {body : Option Value}
    (held : (session.runBlock evaluator body).Holds custody value) :
    session.Holds custody value := by
  exact custody.ofBlock _ _ _ _ isFunction held

theorem Holds.of_runAttempt
    {body handler : Option Value}
    (held : (session.runAttempt evaluator body handler).Holds custody value) :
    session.Holds custody value ∨ body = some value ∨ handler = some value := by
  simp only [runAttempt] at held
  have attempted
      (after : (session.evaluated
        (evaluator.attempt session.evaluation session.environment body).2).Holds custody value) :
      session.Holds custody value ∨ body = some value :=
    custody.ofAttempt _ _ _ _ isFunction after
  split at held
  · exact (attempted held).imp_right .inl
  · rcases Holds.of_runBranch isFunction held with before | handled
    · exact (attempted before).imp_right .inl
    · exact .inr (.inr handled)

omit isFunction in
theorem Holds.of_bind
    {name : String}
    {bound : Value}
    (held : (session.bind name bound).Holds custody value) :
    session.Holds custody value ∨ bound = value := by
  rcases held with kept | ⟨other, found⟩
  · exact .inl (.inl kept)
  · rw [bind, show session.environment.set name bound =
      session.environment.set (Write.mk name bound).name (Write.mk name bound).value from rfl,
      Environment.get?_set] at found
    split at found
    · exact .inr (Option.some.inj found)
    · exact .inl (.inr ⟨other, found⟩)

end Calls

section Steps

variable
    {State : Type}
    (evaluator : Evaluator State)
    (session : Session State)

/-- The session after a step, and the value that the step gives. -/
def step : Step → Session State × Option Value
  | .call call =>
      let (next, result) := session.perform evaluator call
      (next, result.toOption.bind Outcome.value?)
  | .provide record =>
      let (value, next) := session.declare record
      (next, some value)

/-- The session after several steps. -/
def along (steps : List Step) : Session State :=
  steps.foldl (fun reached next => (reached.step evaluator next).1) session

theorem bind_value?_toOption_eq_some
    {result : Except CallFailure Outcome}
    {value : Value} :
    result.toOption.bind Outcome.value? = some value ↔ result = .ok (.value value) := by
  cases result with
  | error failure => simp [Except.toOption]
  | ok outcome => cases outcome <;> simp [Except.toOption, Outcome.value?]

theorem Outcome.ofValue?_eq_value_iff
    {value? : Option Value}
    {value : Value} :
    Outcome.ofValue? value? = .value value ↔ value? = some value := by
  cases value? <;> simp [Outcome.ofValue?]

/--
A function that is there behind a call was held in front of it or passed to the
call, or it is what a call of `function` has returned.
-/
theorem holds_or_passed_of_perform
    {session : Session State}
    {custody : evaluator.Custody}
    {call : Call}
    {value : Value}
    (isFunction : value.isFunction = true)
    (there :
      (session.perform evaluator call).1.Holds custody value ∨
        (session.perform evaluator call).2 = .ok (.value value)) :
    session.Holds custody value ∨ some value ∈ call.args ∨
      call.builtin = .function ∧ (session.perform evaluator call).2 = .ok (.value value) := by
  cases written : call.text? with
  | some text =>
      left
      have same := core_perform_of_text evaluator call session written
      simp only [core, Prod.mk.injEq] at same
      rcases there with held | returned
      · rwa [Holds, same.1, same.2.1] at held
      · have outcome := outcome_of_text evaluator session call written returned
        split at outcome
        · cases outcome
        · cases outcome
  | none =>
      rcases call with ⟨builtin, args⟩
      cases builtin with
      | print | printf => cases written
      | function =>
          simp only [perform, Session.call] at there ⊢
          split at there
          · rcases there with held | returned
            · rcases Holds.of_bind held with before | rfl
              · exact .inl before
              · exact .inr (.inr ⟨trivial, rfl⟩)
            · exact .inr (.inr ⟨trivial, returned⟩)
          · rcases there with held | ⟨⟨⟩⟩
            exact .inl held
      | input =>
          simp only [perform, Session.call, Option.map_eq_none_iff.1 written] at there
          rcases there with held | returned
          · exact .inl held
          · rcases session.awaitLine_cases with ⟨awaited, -⟩ | ⟨awaited, -⟩
            · rw [awaited] at returned
              cases returned
            · rw [awaited] at returned
              cases returned
      | get =>
          rcases there with held | returned
          · exact .inl held
          · have found := Outcome.ofValue?_eq_value_iff.1 (Except.ok.inj returned)
            rcases Option.bind_eq_some_iff.1 found with ⟨name, -, bound⟩
            exact .inl (.inr ⟨_, bound⟩)
      | set =>
          simp only [perform, Session.call] at there
          split at there
          · rename_i name bound first second
            have passed : some bound ∈ args := mem_of_argument_eq_some second
            rcases there with held | returned
            · rcases held.of_bind with before | rfl
              · exact .inl before
              · exact .inr (.inl passed)
            · cases returned
              exact .inr (.inl passed)
          · rcases there with held | ⟨⟨⟩⟩
            exact .inl held
      | nop =>
          rcases there with held | ⟨⟨⟩⟩
          exact .inl held
      | ifThen =>
          simp only [perform, Session.call] at there
          split at there
          · rcases there with held | ⟨⟨⟩⟩
            exact (held.of_runBranch isFunction).imp_right
              fun handed => .inl (mem_of_argument_eq_some handed)
          · rcases there with held | returned
            · exact .inl held
            · cases returned
              cases isFunction
      | ifElse =>
          rcases there with held | ⟨⟨⟩⟩
          rcases Holds.of_runBranch isFunction held with before | handed
          · exact .inl before
          · split at handed
            · exact .inr (.inl (mem_of_argument_eq_some handed))
            · exact .inr (.inl (mem_of_argument_eq_some handed))
      | loop =>
          rcases there with held | ⟨⟨⟩⟩
          exact .inl (Holds.of_runBlock isFunction held)
      | whileLoop =>
          simp only [perform, Session.call] at there
          rcases there with held | ⟨⟨⟩⟩
          split at held
          · exact .inl (Holds.of_runBlock isFunction held)
          · exact .inl held
      | tryCatch =>
          rcases there with held | ⟨⟨⟩⟩
          rcases Holds.of_runAttempt isFunction held with before | handed | handed
          · exact .inl before
          · exact .inr (.inl (mem_of_argument_eq_some handed))
          · exact .inr (.inl (mem_of_argument_eq_some handed))
      | _ =>
          rcases there with held | returned
          · exact .inl held
          · cases returned
            cases isFunction

/--
A function that is there behind a step was held in front of it or passed to the
step, or it is what the step has made.
-/
theorem holds_or_passed_of_step
    {session : Session State}
    {custody : evaluator.Custody}
    {next : Step}
    {value : Value}
    (isFunction : value.isFunction = true)
    (there :
      (session.step evaluator next).1.Holds custody value ∨
        (session.step evaluator next).2 = some value) :
    session.Holds custody value ∨ some value ∈ next.args ∨
      next.isMaker = true ∧ (session.step evaluator next).2 = some value := by
  cases next with
  | provide record =>
      rcases there with held | given
      · exact .inl held
      · exact .inr (.inr ⟨rfl, given⟩)
  | call call =>
      simp only [step, bind_value?_toOption_eq_some] at there ⊢
      rcases holds_or_passed_of_perform evaluator isFunction there with before | passed | made
      · exact .inl before
      · exact .inr (.inl passed)
      · exact .inr (.inr ⟨by simp [Step.isMaker, made.1], made.2⟩)

/-- A call of `function` that returns a value gives it the next identity. -/
theorem identity_of_perform
    {call : Call}
    {value : Value}
    (declares : call.builtin = .function)
    (returned : (session.perform evaluator call).2 = .ok (.value value)) :
    (∃ record, value = .function record session.nextIdentity) ∧
      (session.perform evaluator call).1.nextIdentity = session.nextIdentity + 1 := by
  rcases call with ⟨builtin, args⟩
  cases declares
  simp only [perform, Session.call] at returned ⊢
  split at returned
  · cases returned
    exact ⟨⟨_, rfl⟩, rfl⟩
  · cases returned

theorem nextIdentity_le_perform
    (call : Call) :
    session.nextIdentity ≤ (session.perform evaluator call).1.nextIdentity := by
  cases written : call.text? with
  | some text =>
      have same := core_perform_of_text evaluator call session written
      simp only [core, Prod.mk.injEq] at same
      exact Nat.le_of_eq same.2.2.symm
  | none =>
      rcases call with ⟨builtin, args⟩
      cases builtin with
      | print | printf => cases written
      | input =>
          simp only [perform, Session.call, Option.map_eq_none_iff.1 written]
          exact Nat.le_refl _
      | set | ifThen | whileLoop | tryCatch =>
          simp only [perform, Session.call, runAttempt]
          split
          · exact Nat.le_refl _
          · exact Nat.le_refl _
      | function =>
          simp only [perform, Session.call]
          split
          · exact Nat.le_succ _
          · exact Nat.le_refl _
      | _ => exact Nat.le_refl _

theorem identity_of_step
    {next : Step}
    {value : Value}
    (maker : next.isMaker = true)
    (given : (session.step evaluator next).2 = some value) :
    (∃ record, value = .function record session.nextIdentity) ∧
      (session.step evaluator next).1.nextIdentity = session.nextIdentity + 1 := by
  cases next with
  | provide record =>
      cases given
      exact ⟨⟨record, rfl⟩, rfl⟩
  | call call =>
      simp only [step, bind_value?_toOption_eq_some] at given
      exact identity_of_perform evaluator session (eq_of_beq maker) given

theorem nextIdentity_le_step
    (next : Step) :
    session.nextIdentity ≤ (session.step evaluator next).1.nextIdentity := by
  cases next with
  | provide record => exact Nat.le_succ _
  | call call => exact nextIdentity_le_perform evaluator session call

end Steps

section Runs

variable
    {State : Type}
    (evaluator : Evaluator State)
    (session : Session State)
    (steps : List Step)

/-- The session in front of the step with the number. -/
def before (index : Nat) : Session State :=
  session.along evaluator (steps.take index)

theorem before_succ
    {index : Nat}
    {next : Step}
    (there : steps[index]? = some next) :
    session.before evaluator steps (index + 1) =
      ((session.before evaluator steps index).step evaluator next).1 := by
  rw [before, along, List.take_add_one, there, List.foldl_append]
  rfl

theorem before_succ_of_none
    {index : Nat}
    (ended : steps[index]? = none) :
    session.before evaluator steps (index + 1) = session.before evaluator steps index := by
  rw [before, before, List.take_add_one, ended, Option.toList_none, List.append_nil]

theorem nextIdentity_before_le
    {index later : Nat}
    (inOrder : index ≤ later) :
    (session.before evaluator steps index).nextIdentity ≤
      (session.before evaluator steps later).nextIdentity := by
  induction inOrder with
  | refl => exact Nat.le_refl _
  | @step later _ ih =>
      apply Nat.le_trans ih
      cases there : steps[later]? with
      | none =>
          have same := before_succ_of_none evaluator session steps there
          exact Nat.le_of_eq (congrArg Session.nextIdentity same.symm)
      | some next =>
          rw [before_succ evaluator session steps there]
          exact nextIdentity_le_step evaluator _ next

/-- The step with the number makes the value. -/
def Makes (index : Nat) (value : Value) : Prop :=
  ∃ next,
    steps[index]? = some next ∧
      next.isMaker = true ∧
      ((session.before evaluator steps index).step evaluator next).2 = some value

/-- Every function that is passed to a step was made by an earlier one. -/
def IsSourced : Prop :=
  ∀ index next value,
    steps[index]? = some next →
      some value ∈ next.args →
        value.isFunction = true →
          ∃ earlier < index, session.Makes evaluator steps earlier value

/--
The value occurs in front of the step with the number: the session holds it, or
an earlier step has given it, or it was passed to an earlier step or is passed
to this one.
-/
inductive Occurs
    {evaluator : Evaluator State}
    (custody : evaluator.Custody)
    (session : Session State)
    (steps : List Step)
    (index : Nat) : Value → Prop where
  | held {value : Value} :
      (session.before evaluator steps index).Holds custody value →
        Occurs custody session steps index value
  | given {earlier : Nat} {next : Step} {value : Value} :
      earlier < index →
        steps[earlier]? = some next →
          ((session.before evaluator steps earlier).step evaluator next).2 = some value →
            Occurs custody session steps index value
  | passed {earlier : Nat} {next : Step} {value : Value} :
      earlier ≤ index →
        steps[earlier]? = some next →
          some value ∈ next.args →
            Occurs custody session steps index value

variable
    {evaluator}
    {session}
    {steps}

theorem Makes.exists_record
    {index : Nat}
    {value : Value}
    (made : session.Makes evaluator steps index value) :
    ∃ record, value = .function record (session.before evaluator steps index).nextIdentity := by
  rcases made with ⟨next, -, maker, given⟩
  exact (identity_of_step evaluator _ maker given).1

theorem Makes.nextIdentity_lt
    {index later : Nat}
    {value : Value}
    (made : session.Makes evaluator steps index value)
    (inOrder : index < later) :
    (session.before evaluator steps index).nextIdentity <
      (session.before evaluator steps later).nextIdentity := by
  rcases made with ⟨next, there, maker, given⟩
  have after := (identity_of_step evaluator _ maker given).2
  rw [← before_succ evaluator session steps there] at after
  have behind : index + 1 ≤ later := inOrder
  have monotone := nextIdentity_before_le evaluator session steps behind
  omega

/-- Two functions that were made are equal exactly when the same step has made them. -/
theorem Makes.equals_iff
    {first second : Nat}
    {left right : Value}
    (leftMade : session.Makes evaluator steps first left)
    (rightMade : session.Makes evaluator steps second right) :
    left.equals right = true ↔ first = second := by
  rcases leftMade.exists_record with ⟨leftRecord, rfl⟩
  rcases rightMade.exists_record with ⟨rightRecord, rfl⟩
  rw [Value.equals_function_iff]
  constructor
  · rintro ⟨record, same⟩
    have identity := (Value.function.inj same).2
    rcases Nat.lt_trichotomy first second with earlier | equal | later
    · have := leftMade.nextIdentity_lt earlier
      omega
    · exact equal
    · have := rightMade.nextIdentity_lt later
      omega
  · rintro rfl
    exact ⟨rightRecord, rfl⟩

/-- A function that a session holds was made by an earlier step. -/
theorem exists_makes_of_holds
    {custody : evaluator.Custody}
    (bare : ∀ value, value.isFunction = true → ¬ session.Holds custody value)
    (sourced : session.IsSourced evaluator steps)
    {index : Nat}
    {value : Value}
    (isFunction : value.isFunction = true)
    (held : (session.before evaluator steps index).Holds custody value) :
    ∃ earlier < index, session.Makes evaluator steps earlier value := by
  induction index with
  | zero => exact absurd held (bare value isFunction)
  | succ index ih =>
      cases there : steps[index]? with
      | none =>
          rw [before_succ_of_none evaluator session steps there] at held
          rcases ih held with ⟨earlier, before, made⟩
          exact ⟨earlier, Nat.lt_succ_of_lt before, made⟩
      | some next =>
          rw [before_succ evaluator session steps there] at held
          rcases holds_or_passed_of_step evaluator isFunction (.inl held) with
            heldBefore | passed | ⟨maker, given⟩
          · rcases ih heldBefore with ⟨earlier, before, made⟩
            exact ⟨earlier, Nat.lt_succ_of_lt before, made⟩
          · rcases sourced index next value there passed isFunction with ⟨earlier, before, made⟩
            exact ⟨earlier, Nat.lt_succ_of_lt before, made⟩
          · exact ⟨index, Nat.lt_succ_self index, next, there, maker, given⟩

/-- Every function that occurs was made by an earlier step, just as it is. -/
theorem Occurs.exists_makes
    {custody : evaluator.Custody}
    (bare : ∀ value, value.isFunction = true → ¬ session.Holds custody value)
    (sourced : session.IsSourced evaluator steps)
    {index : Nat}
    {value : Value}
    (isFunction : value.isFunction = true)
    (occurs : Occurs custody session steps index value) :
    ∃ earlier < index, session.Makes evaluator steps earlier value := by
  cases occurs with
  | held held => exact exists_makes_of_holds bare sourced isFunction held
  | @given earlier next _ inOrder there given =>
      have found :
          ((session.before evaluator steps earlier).step evaluator next).1.Holds custody value ∨
            ((session.before evaluator steps earlier).step evaluator next).2 = some value :=
        .inr given
      rcases holds_or_passed_of_step evaluator isFunction found with
        held | passed | ⟨maker, made⟩
      · rcases exists_makes_of_holds bare sourced isFunction held with ⟨first, before, made⟩
        exact ⟨first, Nat.lt_trans before inOrder, made⟩
      · rcases sourced earlier next value there passed isFunction with ⟨first, before, made⟩
        exact ⟨first, Nat.lt_trans before inOrder, made⟩
      · exact ⟨earlier, inOrder, next, there, maker, made⟩
  | @passed earlier next _ inOrder there passed =>
      rcases sourced earlier next value there passed isFunction with ⟨first, before, made⟩
      exact ⟨first, Nat.lt_of_lt_of_le before inOrder, made⟩

/-- No two steps have made the function that occurs. -/
theorem Occurs.existsUnique_makes
    {custody : evaluator.Custody}
    (bare : ∀ value, value.isFunction = true → ¬ session.Holds custody value)
    (sourced : session.IsSourced evaluator steps)
    {index : Nat}
    {value : Value}
    (isFunction : value.isFunction = true)
    (occurs : Occurs custody session steps index value) :
    ∃! earlier, earlier < index ∧ session.Makes evaluator steps earlier value := by
  rcases occurs.exists_makes bare sourced isFunction with ⟨earlier, inOrder, made⟩
  refine ⟨earlier, ⟨inOrder, made⟩, ?_⟩
  rintro other ⟨-, otherMade⟩
  exact (otherMade.equals_iff made).1 ((made.equals_iff made).2 rfl)

/-- A function that a step makes differs from everything that occurs in front of the step. -/
theorem Makes.equals_eq_false
    {custody : evaluator.Custody}
    (bare : ∀ value, value.isFunction = true → ¬ session.Holds custody value)
    (sourced : session.IsSourced evaluator steps)
    {index : Nat}
    {value other : Value}
    (made : session.Makes evaluator steps index value)
    (occurs : Occurs custody session steps index other) :
    value.equals other = false := by
  cases equal : value.equals other with
  | false => rfl
  | true =>
      rcases made.exists_record with ⟨record, rfl⟩
      rcases (Value.equals_function_iff _ _ _).1 equal with ⟨otherRecord, rfl⟩
      rcases occurs.exists_makes bare sourced rfl with ⟨earlier, inOrder, otherMade⟩
      have same := (made.equals_iff otherMade).1 equal
      omega

end Runs

section Comparisons

variable
    {State : Type}
    (evaluator : Evaluator State)
    (session : Session State)

/-- A variable whose name is admitted gives back what it was set to. -/
theorem result_get_of_set
    (name value : Value)
    (surplus : List (Option Value))
    (admitted : session.environment.admission.IsAdmitted name.display) :
    ((session.perform evaluator ⟨.set, some name :: some value :: surplus⟩).1.perform evaluator
      ⟨.get, [some name]⟩).2 = .ok (.value value) := by
  rw [result_get_behind_set evaluator session name value surplus admitted, if_pos rfl]

/-- A function stands in no order with anything. -/
theorem result_ordering_of_function
    (record : FunctionRecord)
    (identity : Nat)
    (others : List (Option Value))
    {builtin : Builtin}
    (orders : builtin ∈ [.lessThan, .lessOrEqual, .greaterThan, .greaterOrEqual]) :
    (session.perform evaluator ⟨builtin, some (.function record identity) :: others⟩).2 =
      .ok (.ofBool false) := by
  have answered (test : Ordering → Bool) :
      Outcome.ofBool (areOrdered (some (.function record identity)) (argument others 0) test) =
        .ofBool false := by
    rw [areOrdered_function]
  simp only [List.mem_cons, List.not_mem_nil, or_false] at orders
  rcases orders with rfl | rfl | rfl | rfl
  · exact congrArg Except.ok (answered _)
  · exact congrArg Except.ok (answered _)
  · exact congrArg Except.ok (answered _)
  · exact congrArg Except.ok (answered _)

end Comparisons

/--
A session starts without variables and with an evaluator that keeps no
functions, and every function that is passed to a step was made by an earlier
one.

A call of `function` whose first argument is present makes a function.  Its
record has the text of the first argument as the name, the text of the last of
several arguments as the body, and the texts of those between as the
parameters; an absent argument reads `undefined`.

A function that a step makes is unequal to everything that occurs in front of
the step, and a function that occurs was made by one earlier step, just as it
is.  Setting a variable returns the value, and the variable then has it, if its
name is admitted.

In any session, two functions that steps made are equal exactly when the same
step has made them, and they stand in no order.
-/
theorem function_of_step
    {State : Type}
    {evaluator : Evaluator State}
    (custody : evaluator.Custody)
    (admission : Admission)
    (input : List UInt8)
    (capacity : Option Nat)
    (evaluation : State)
    (bare : ∀ value, value.isFunction = true → ¬ custody.keeps evaluation value)
    (steps : List Step)
    (sourced : (start admission input capacity evaluation).IsSourced evaluator steps) :
    let initial := start admission input capacity evaluation
    let reached := initial.before evaluator steps
    (∀ index name others,
        steps[index]? = some (.call ⟨.function, some name :: others⟩) →
          ∃ record identity,
            ((reached index).perform evaluator ⟨.function, some name :: others⟩).2 =
                .ok (.value (.function record identity)) ∧
              initial.Makes evaluator steps index (.function record identity) ∧
              record.name = name.display ∧
              (others = [] → record.params = [] ∧ record.body = "") ∧
              ∀ params body,
                others = params ++ [body] →
                  record.params = params.map (fun param => param.elim "undefined" Value.display) ∧
                    record.body = body.elim "undefined" Value.display) ∧
      (∀ index value other,
        initial.Makes evaluator steps index value →
          Occurs custody initial steps index other →
            value.equals other = false) ∧
      (∀ index value,
        Occurs custody initial steps index value →
          value.isFunction = true →
            ∃! earlier, earlier < index ∧ initial.Makes evaluator steps earlier value) ∧
      (∀ index name value surplus,
        let written := (reached index).perform evaluator ⟨.set, some name :: some value :: surplus⟩
        written.2 = .ok (.value value) ∧
          ((reached index).environment.admission.IsAdmitted name.display →
            (written.1.perform evaluator ⟨.get, [some name]⟩).2 = .ok (.value value))) ∧
      ∀ first second left right,
        initial.Makes evaluator steps first left →
          initial.Makes evaluator steps second right →
            ∀ (session : Session State) (surplus : List (Option Value)),
              let result (builtin : Builtin) :=
                (session.perform evaluator ⟨builtin, some left :: some right :: surplus⟩).2
              result .equal = .ok (.ofBool (first == second)) ∧
                result .notEqual = .ok (.ofBool (first != second)) ∧
                ∀ builtin ∈ [.lessThan, .lessOrEqual, .greaterThan, .greaterOrEqual],
                  result builtin = .ok (.ofBool false) := by
  intro initial reached
  have nothingHeld (value : Value) (isFunction : value.isFunction = true) :
      ¬ initial.Holds custody value := by
    rintro (kept | ⟨name, bound⟩)
    · exact bare value isFunction kept
    · cases bound
  refine ⟨?_, ?_, ?_, ?_, ?_⟩
  · intro index name others there
    refine ⟨functionRecord name others, (reached index).nextIdentity, rfl, ⟨_, there, rfl, rfl⟩,
      rfl, ?_, ?_⟩
    · rintro rfl
      exact ⟨rfl, rfl⟩
    · rintro params body rfl
      rw [functionRecord, List.dropLast_concat, List.getLast?_concat]
      exact ⟨rfl, rfl⟩
  · intro index value other made occurs
    exact made.equals_eq_false nothingHeld sourced occurs
  · intro index value occurs isFunction
    exact occurs.existsUnique_makes nothingHeld sourced isFunction
  · intro index name value surplus written
    exact ⟨rfl, result_get_of_set evaluator (reached index) name value surplus⟩
  · intro first second left right leftMade rightMade session surplus result
    have equality : left.equals right = (first == second) := by
      rw [Bool.eq_iff_iff, beq_iff_eq]
      exact leftMade.equals_iff rightMade
    rcases leftMade.exists_record with ⟨record, rfl⟩
    refine ⟨?_, ?_, ?_⟩
    · rw [← equality]
      rfl
    · rw [bne, ← equality]
      rfl
    · intro builtin orders
      exact result_ordering_of_function evaluator session record _ _ orders

/-- Two declarations that read alike make two functions, one of which is set and passed on. -/
theorem function_of_step_alike :
    let declaration : Call := ⟨.function, [some (.text "f"), none, some (.bool true)]⟩
    let made (identity : Nat) : Value := .function ⟨"f", ["undefined"], "true"⟩ identity
    let setting : Call := ⟨.set, [some (.text "g"), some (made 0)]⟩
    let steps : List Step := [.call declaration, .call declaration, .call setting]
    let reached := (start .rejectReserved [] none ()).before .idle steps 3
    reached.environment.get? "g" = some (made 0) ∧
      (reached.perform .idle ⟨.equal, [some (made 0), some (made 1)]⟩).2 = .ok (.ofBool false) ∧
      (reached.perform .idle ⟨.notEqual, [some (made 0), some (made 0)]⟩).2 =
        .ok (.ofBool false) := by
  intro declaration made setting steps reached
  have bare (value : Value) (_ : value.isFunction = true) :
      ¬ Evaluator.Custody.ofIdle.keeps () value := id
  have first : (start .rejectReserved [] none ()).Makes .idle steps 0 (made 0) :=
    ⟨_, rfl, rfl, rfl⟩
  have second : (start .rejectReserved [] none ()).Makes .idle steps 1 (made 1) :=
    ⟨_, rfl, rfl, rfl⟩
  have plain (value : Value) (passed : some value ∈ declaration.args) :
      value.isFunction = false := by
    simp only [declaration, List.mem_cons, Option.some.injEq, reduceCtorEq, false_or,
      List.not_mem_nil, or_false] at passed
    rcases passed with rfl | rfl
    · rfl
    · rfl
  have sourced : (start .rejectReserved [] none ()).IsSourced .idle steps := by
    intro index next value there passed isFunction
    rcases index with _ | _ | _ | index
    · cases there
      rw [plain value passed] at isFunction
      cases isFunction
    · cases there
      rw [plain value passed] at isFunction
      cases isFunction
    · cases there
      simp only [Step.args, setting, List.mem_cons, Option.some.injEq, List.not_mem_nil,
        or_false] at passed
      rcases passed with rfl | rfl
      · cases isFunction
      · exact ⟨0, by decide, first⟩
    · cases there
  obtain ⟨-, -, -, -, equality⟩ :=
    function_of_step .ofIdle .rejectReserved [] none () bare steps sourced
  exact ⟨rfl, (equality 0 1 _ _ first second reached []).1,
    (equality 0 0 _ _ first first reached []).2.1⟩

end Session

end CallScript
