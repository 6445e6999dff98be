import CallScript.Proofs.Environment.Replay
import CallScript.Session.Call

/-!
# What a call does to a session

A call may write a text, pass over a line of the input, and change the core of
the session: the variables, the state of the evaluator and the numbering of
functions.  This file says which bytes a call writes and when it fails, and
that what it does to the core, and the outcome it has, depend neither on the
output nor on the input.  A call fails when its bytes do not fit into the output,
or else when it asks for a line that cannot be read; what it has written before
stays.  It also says what is read behind a write.
-/

namespace CallScript

/-- A built-in with its arguments, each of which may be absent. -/
structure Call where
  builtin : Builtin
  args : List (Option Value)

/-- The text that a call writes, if it writes one. -/
def Call.text? (call : Call) : Option String :=
  match call.builtin with
  | .print => some (shown (argument call.args 0) ++ "\n")
  | .printf =>
      let value := (shown (argument call.args 1)).toList
      let template := (textOrEmpty (argument call.args 0)).toList
      some (String.ofList (fillTemplate value template) ++ "\n")
  | .input => (argument call.args 0).map Value.display
  | _ => none

def Call.bytes (call : Call) : List UInt8 :=
  call.text?.elim [] fun text => text.toUTF8.toList

namespace Session

variable
    {State : Type}
    (evaluator : Evaluator State)

/-- The session after a call, and the result of the call. -/
def perform
    (session : Session State)
    (call : Call) : Session State × Except CallFailure Outcome :=
  session.call evaluator call.builtin call.args

/-- The session after several calls; a call that fails does not end it. -/
def after
    (session : Session State)
    (calls : List Call) : Session State :=
  calls.foldl (fun reached call => (reached.perform evaluator call).1) session

@[simp]
theorem after_cons
    (session : Session State)
    (call : Call)
    (calls : List Call) :
    session.after evaluator (call :: calls) =
      (session.perform evaluator call).1.after evaluator calls := by
  rfl

end Session

theorem Sink.write_nil
    (sink : Sink) :
    sink.write [] = sink := by
  rcases sink with ⟨stored, capacity⟩
  cases capacity with
  | none => simp [write, kept]
  | some capacity => simp [write, kept]

namespace Session

section Streams

variable
    {State : Type}
    (evaluator : Evaluator State)
    (session : Session State)
    (call : Call)

theorem perform_of_text
    {text : String}
    (written : call.text? = some text) :
    session.perform evaluator call =
      if session.output.fits text.toUTF8.toList then
        if call.builtin = .input then (session.wrote text).awaitLine
        else (session.wrote text, .ok .absent)
      else (session.wrote text, .error .sinkFull) := by
  rcases call with ⟨builtin, args⟩
  cases builtin with
  | print =>
      cases written
      simp only [perform, Session.call, writing]
      split
      · rfl
      · rfl
  | printf =>
      cases written
      simp only [perform, Session.call, writing]
      split
      · rfl
      · rfl
  | input =>
      rcases Option.map_eq_some_iff.1 written with ⟨prompt, present, rfl⟩
      simp only [perform, Session.call, present, writing]
      cases session.output.fits prompt.display.toUTF8.toList with
      | true => rfl
      | false => rfl
  | _ => cases written

/-- A line that is awaited ends the program, or cannot be read. -/
theorem awaitLine_cases :
    session.awaitLine = (session.skipLine, .ok .terminate) ∧
        breaksOff session.inputFails session.input = false ∨
      session.awaitLine = (session.skipLine, .error .unreadableInput) ∧
        breaksOff session.inputFails session.input = true := by
  rw [awaitLine]
  cases breaksOff session.inputFails session.input with
  | false => exact .inl ⟨rfl, rfl⟩
  | true => exact .inr ⟨rfl, rfl⟩

theorem outcome_of_text
    {text : String}
    {outcome : Outcome}
    (written : call.text? = some text)
    (succeeds : (session.perform evaluator call).2 = .ok outcome) :
    outcome = if call.builtin = .input then .terminate else .absent := by
  rw [perform_of_text evaluator session call written] at succeeds
  split at succeeds
  · split at succeeds
    · rename_i asks
      rcases (session.wrote text).awaitLine_cases with ⟨awaited, -⟩ | ⟨awaited, -⟩
      · rw [awaited] at succeeds
        cases succeeds
        exact (if_pos asks).symm
      · rw [awaited] at succeeds
        cases succeeds
    · rename_i asksNot
      cases succeeds
      exact (if_neg asksNot).symm
  · cases succeeds

/-- A call that writes no text leaves the output alone, and awaits a line or succeeds. -/
theorem perform_of_silent
    (silent : call.text? = none) :
    (session.perform evaluator call).1.output = session.output ∧
      if call.builtin = .input then session.perform evaluator call = session.awaitLine
      else ∃ outcome, (session.perform evaluator call).2 = .ok outcome := by
  rcases call with ⟨builtin, args⟩
  cases builtin with
  | print | printf => cases silent
  | input =>
      simp only [perform, Session.call, Option.map_eq_none_iff.1 silent]
      exact ⟨rfl, trivial⟩
  | set | ifThen | whileLoop | function | tryCatch =>
      simp only [perform, Session.call, runAttempt]
      split
      · exact ⟨rfl, _, rfl⟩
      · exact ⟨rfl, _, rfl⟩
  | _ => exact ⟨rfl, _, rfl⟩

/-- A call of `input` whose prompt fits awaits a line behind it. -/
theorem perform_input_of_fits
    {args : List (Option Value)}
    (fits : session.output.fits (Call.mk .input args).bytes = true) :
    session.perform evaluator ⟨.input, args⟩ =
      awaitLine { session with output := session.output.write (Call.mk .input args).bytes } := by
  cases prompt : argument args 0 with
  | none =>
      have bytes : (Call.mk .input args).bytes = [] := by
        rw [Call.bytes, Call.text?, prompt]
        rfl
      rw [bytes, Sink.write_nil]
      simp only [perform, Session.call, prompt]
  | some value =>
      have written : (Call.mk .input args).text? = some value.display :=
        congrArg (Option.map Value.display) prompt
      rw [Call.bytes, written] at fits ⊢
      rw [perform_of_text evaluator session _ written]
      exact (if_pos fits).trans (if_pos rfl)

/-- A call writes its bytes to the output, and nothing else. -/
theorem output_perform :
    (session.perform evaluator call).1.output = session.output.write call.bytes := by
  cases written : call.text? with
  | none =>
      rw [(perform_of_silent evaluator session call written).1, Call.bytes, written]
      exact session.output.write_nil.symm
  | some text =>
      rw [perform_of_text evaluator session call written, Call.bytes, written]
      split
      · split
        · rfl
        · rfl
      · rfl

/-- Whether the whole input can be read is nothing that a call changes. -/
theorem inputFails_perform :
    (session.perform evaluator call).1.inputFails = session.inputFails := by
  cases written : call.text? with
  | some text =>
      rw [perform_of_text evaluator session call written]
      split
      · split
        · rfl
        · rfl
      · rfl
  | none =>
      rcases call with ⟨builtin, args⟩
      cases builtin with
      | print | printf => cases written
      | input =>
          simp only [perform, Session.call, Option.map_eq_none_iff.1 written]
          rfl
      | set | ifThen | whileLoop | function | tryCatch =>
          simp only [perform, Session.call, runAttempt]
          split
          · rfl
          · rfl
      | _ => rfl

theorem inputFails_after
    (calls : List Call) :
    (session.after evaluator calls).inputFails = session.inputFails := by
  induction calls generalizing session with
  | nil => rfl
  | cons call calls ih => rw [after_cons, ih, inputFails_perform]

/--
What a call results in.  Its bytes do not fit into the output, which then holds those
that do, and nothing is read; or they fit, and it asks for a line that cannot be read;
or it succeeds.
-/
theorem perform_cases
    (room : session.output.fits [] = true) :
    ((session.perform evaluator call).2 = .error .sinkFull ∧
        session.output.fits call.bytes = false ∧
        (session.perform evaluator call).1.input = session.input) ∨
      session.output.fits call.bytes = true ∧
        (((session.perform evaluator call).2 = .error .unreadableInput ∧
            call.builtin = .input ∧
            breaksOff session.inputFails session.input = true) ∨
          (∃ outcome, (session.perform evaluator call).2 = .ok outcome) ∧
            (call.builtin = .input → breaksOff session.inputFails session.input = false)) := by
  cases written : call.text? with
  | none =>
      have behaves := (perform_of_silent evaluator session call written).2
      refine .inr ⟨?_, ?_⟩
      · rw [Call.bytes, written]
        exact room
      · split at behaves
        · rename_i asks
          rcases session.awaitLine_cases with ⟨awaited, whole⟩ | ⟨awaited, broken⟩
          · rw [behaves, awaited]
            exact .inr ⟨⟨_, rfl⟩, fun _ => whole⟩
          · rw [behaves, awaited]
            exact .inl ⟨rfl, asks, broken⟩
        · rename_i asksNot
          exact .inr ⟨behaves, fun asks => absurd asks asksNot⟩
  | some text =>
      have bytes : call.bytes = text.toUTF8.toList := by
        rw [Call.bytes, written]
        rfl
      rw [perform_of_text evaluator session call written, bytes]
      cases session.output.fits text.toUTF8.toList with
      | false => exact .inl ⟨rfl, rfl, rfl⟩
      | true =>
          refine .inr ⟨rfl, ?_⟩
          rw [if_pos rfl]
          split
          · rename_i asks
            rcases (session.wrote text).awaitLine_cases with
              ⟨awaited, whole⟩ | ⟨awaited, broken⟩
            · rw [awaited]
              exact .inr ⟨⟨_, rfl⟩, fun _ => whole⟩
            · rw [awaited]
              exact .inl ⟨rfl, asks, broken⟩
          · rename_i asksNot
            exact .inr ⟨⟨_, rfl⟩, fun asks => absurd asks asksNot⟩

/--
A call fails exactly when its bytes do not fit into the output, or when it asks for a line
that cannot be read.
-/
theorem perform_fails_iff
    (room : session.output.fits [] = true) :
    (∃ failure, (session.perform evaluator call).2 = .error failure) ↔
      session.output.fits call.bytes = false ∨
        call.builtin = .input ∧ breaksOff session.inputFails session.input = true := by
  rcases perform_cases evaluator session call room with
    ⟨failed, full, -⟩ | ⟨fits, ⟨failed, asks, broken⟩ | ⟨⟨outcome, succeeds⟩, whole⟩⟩
  · exact ⟨fun _ => .inl full, fun _ => ⟨_, failed⟩⟩
  · exact ⟨fun _ => .inr ⟨asks, broken⟩, fun _ => ⟨_, failed⟩⟩
  · constructor
    · rintro ⟨failure, failed⟩
      rw [succeeds] at failed
      cases failed
    · rintro (full | ⟨asks, broken⟩)
      · rw [fits] at full
        cases full
      · rw [whole asks] at broken
        cases broken

end Streams

/-- What of a session neither the output nor the input has a part in. -/
def core
    {State : Type}
    (session : Session State) : Environment × State × Nat :=
  (session.environment, session.evaluation, session.nextIdentity)

section Core

variable
    {State : Type}
    (evaluator : Evaluator State)
    {left right : Session State}
    (call : Call)

/-- Without a text to be written, only the input decides whether a call succeeds. -/
theorem perform_congr_of_silent
    (same : left.core = right.core)
    (sameLine :
      call.builtin = .input →
        breaksOff left.inputFails left.input = breaksOff right.inputFails right.input)
    (silent : call.text? = none) :
    (left.perform evaluator call).1.core = (right.perform evaluator call).1.core ∧
      (left.perform evaluator call).2 = (right.perform evaluator call).2 := by
  rcases left with ⟨environment, leftInput, leftFails, leftOutput, evaluation, nextIdentity⟩
  rcases right with
    ⟨otherEnvironment, rightInput, rightFails, rightOutput, otherEvaluation, otherIdentity⟩
  obtain ⟨rfl, rfl, rfl⟩ :
      environment = otherEnvironment ∧ evaluation = otherEvaluation ∧
        nextIdentity = otherIdentity := by
    simpa [core] using same
  rcases call with ⟨builtin, args⟩
  cases builtin with
  | print | printf => cases silent
  | input =>
      simp only [perform, Session.call, Option.map_eq_none_iff.1 silent, awaitLine]
      rw [sameLine rfl]
      exact ⟨rfl, rfl⟩
  | set | ifThen | function =>
      simp only [perform, Session.call]
      split
      · exact ⟨rfl, rfl⟩
      · exact ⟨rfl, rfl⟩
  | whileLoop | tryCatch =>
      simp only [perform, Session.call, runAttempt]
      split
      · exact ⟨rfl, trivial⟩
      · exact ⟨rfl, trivial⟩
  | _ => exact ⟨rfl, rfl⟩

theorem core_perform_of_text
    (session : Session State)
    {text : String}
    (written : call.text? = some text) :
    (session.perform evaluator call).1.core = session.core := by
  rw [perform_of_text evaluator session call written]
  split
  · split
    · rfl
    · rfl
  · rfl

end Core

/-- What is read under a name behind a write under the same or another name. -/
theorem result_get_behind_set
    {State : Type}
    (evaluator : Evaluator State)
    (session : Session State)
    {written : Value}
    (name value : Value)
    (surplus : List (Option Value))
    (admitted : session.environment.admission.IsAdmitted written.display) :
    ((session.perform evaluator ⟨.set, some written :: some value :: surplus⟩).1.perform evaluator
        ⟨.get, [some name]⟩).2 =
      if written.display = name.display then .ok (.value value)
      else (session.perform evaluator ⟨.get, [some name]⟩).2 := by
  show
    Except.ok
        (Outcome.ofValue? ((session.environment.set written.display value).get? name.display)) = _
  rw [session.environment.get?_set ⟨written.display, value⟩ name.display]
  by_cases same : written.display = name.display
  · rw [if_pos ⟨same, admitted⟩, if_pos same]
    rfl
  · rw [if_neg fun counts => same counts.1, if_neg same]
    rfl

end Session

end CallScript
