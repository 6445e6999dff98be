import CallScript.Block
import CallScript.Environment
import CallScript.Session.Sink

/-!
# Sessions

A session is everything that a call of a built-in can touch: the variables,
the input, the output, and an evaluator for the bodies of control-flow calls.
It also numbers the functions that are declared in it, so that each
declaration has an identity of its own.

A call leads from a session to a session and an outcome, or to a failure when
the output takes no more bytes or when the input cannot be read.
-/

namespace CallScript

/--
What runs the bodies that are handed to control-flow calls.  An evaluator has
a state of its own and may change the variables.
-/
structure Evaluator (State : Type) where
  /-- Runs a branch of a conditional, or the handler of a failed attempt. -/
  branch : State → Environment → Option Value → State × Environment
  /-- Runs the fragments of the body of a loop. -/
  block : State → Environment → List String → State × Environment
  /-- Attempts a body and tells whether that succeeded. -/
  attempt : State → Environment → Option Value → Bool × State × Environment

/-- The evaluator that runs nothing and takes every attempt for a success. -/
def Evaluator.idle : Evaluator Unit where
  branch state environment _ := (state, environment)
  block state environment _ := (state, environment)
  attempt state environment _ := (true, state, environment)

/-- The result of a call. -/
inductive Outcome where
  /-- The call has a value. -/
  | value (value : Value)
  /-- The call has no value. -/
  | absent
  /-- The program asks to be stopped. -/
  | terminate
  deriving DecidableEq

namespace Outcome

/-- The value of the outcome, if it has one. -/
def value? : Outcome → Option Value
  | .value held => some held
  | _ => none

/-- The outcome with a value, if there is one. -/
def ofValue? (value : Option Value) : Outcome :=
  value.elim .absent .value

/-- The outcome with a truth value. -/
def ofBool (value : Bool) : Outcome :=
  .value (.bool value)

end Outcome

/-- Why a call fails. -/
inductive CallFailure where
  /-- The output takes no more bytes. -/
  | sinkFull
  /-- Reading the input fails. -/
  | unreadableInput
  deriving DecidableEq, Repr

/-- The failure in words. -/
def CallFailure.message : CallFailure → String
  | .sinkFull => "sink full"
  | .unreadableInput => "the input cannot be read"

/-- Everything that a call can touch. -/
structure Session (State : Type) where
  /-- The variables. -/
  environment : Environment
  /-- The bytes of the input that have not been read. -/
  input : List UInt8
  /-- Reading on behind these bytes fails; otherwise the input ends there. -/
  inputFails : Bool
  /-- The output. -/
  output : Sink
  /-- The state of the evaluator. -/
  evaluation : State
  /-- The identity of the next function that is declared. -/
  nextIdentity : Nat

namespace Session

variable {State : Type}

/-- A session without variables and output, on an input that can be read to its end. -/
def start
    (admission : Admission)
    (input : List UInt8)
    (capacity : Option Nat)
    (evaluation : State) : Session State :=
  ⟨.empty admission, input, false, .empty capacity, evaluation, 0⟩

/-- A function value with an identity of its own, and the session that has given it out. -/
def declare (session : Session State) (record : FunctionRecord) : Value × Session State :=
  (.function record session.nextIdentity,
    { session with nextIdentity := session.nextIdentity + 1 })

/-- The session after a write to a variable. -/
def bind (session : Session State) (name : String) (value : Value) : Session State :=
  { session with environment := session.environment.set name value }

/-- The session after the evaluator has run. -/
def evaluated (session : Session State) (result : State × Environment) : Session State :=
  { session with evaluation := result.1, environment := result.2 }

/-- The session after a text was written. -/
def wrote (session : Session State) (text : String) : Session State :=
  { session with output := session.output.write text.toUTF8.toList }

/-- Writes a text, and has the outcome if all of it fits. -/
def writing
    (session : Session State)
    (text : String)
    (outcome : Outcome) : Session State × Except CallFailure Outcome :=
  (session.wrote text,
    if session.output.fits text.toUTF8.toList then .ok outcome else .error .sinkFull)

/-- The bytes behind the first line. -/
def behindLine : List UInt8 → List UInt8
  | [] => []
  | byte :: rest => if byte = 10 then rest else behindLine rest

/-- Reading a line fails: no line feed stands in front of the place where reading fails. -/
def breaksOff (fails : Bool) (bytes : List UInt8) : Bool :=
  fails && !bytes.contains 10

/-- The session after a line of the input was passed over. -/
def skipLine (session : Session State) : Session State :=
  { session with input := behindLine session.input }

/--
Passes over a line of the input and asks to be stopped.  Where reading fails, the
bytes in front of that place are lost.
-/
def awaitLine (session : Session State) : Session State × Except CallFailure Outcome :=
  (session.skipLine,
    if breaksOff session.inputFails session.input then .error .unreadableInput
    else .ok .terminate)

end Session

end CallScript
