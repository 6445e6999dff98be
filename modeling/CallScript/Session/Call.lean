import CallScript.Session.Basic

/-!
# Calls

What each built-in does.  An argument may be absent, because the call does not
go so far or because it is passed as such; an absent value is shown as
`undefined`, counts as false, and equals only another absent value.
-/

namespace CallScript

/-- The argument at a position, counted from zero. -/
def argument (args : List (Option Value)) (position : Nat) : Option Value :=
  (args[position]?).join

/-- The text of a value that may be absent. -/
def shown (value : Option Value) : String :=
  value.elim "undefined" Value.display

/-- The text of a value, which is empty when the value is absent. -/
def textOrEmpty (value : Option Value) : String :=
  value.elim "" Value.display

/-- The value counts as true. -/
def holds (value : Option Value) : Bool :=
  value.elim false Value.isTruthy

/-- Two values are equal, or both are absent. -/
def areEqual : Option Value → Option Value → Bool
  | some left, some right => left.equals right
  | none, none => true
  | _, _ => false

/-- Two values stand in one of the given orders. -/
def areOrdered (left right : Option Value) (test : Ordering → Bool) : Bool :=
  match left, right with
  | some left, some right => (left.compare? right).any test
  | _, _ => false

/-- The text with the first percent sign replaced by another text. -/
def fillTemplate (insert : List Char) : List Char → List Char
  | [] => []
  | character :: rest =>
      if character = '%' then insert ++ rest else character :: fillTemplate insert rest

/--
The record of a declaration: the first argument is the name, the last of
several is the body, and those between are the parameters.
-/
def functionRecord (name : Value) (others : List (Option Value)) : FunctionRecord where
  name := name.display
  params := others.dropLast.map shown
  body := others.getLast?.elim "" shown

namespace Session

variable {State : Type}

/-- Hands a body to the evaluator. -/
def runBranch
    (evaluator : Evaluator State)
    (session : Session State)
    (body : Option Value) : Session State :=
  session.evaluated (evaluator.branch session.evaluation session.environment body)

/-- Hands the fragments of a body to the evaluator. -/
def runBlock
    (evaluator : Evaluator State)
    (session : Session State)
    (body : Option Value) : Session State :=
  session.evaluated
    (evaluator.block session.evaluation session.environment (blockFragments (textOrEmpty body)))

/-- Lets the evaluator attempt a body, and hands it the handler when that fails. -/
def runAttempt
    (evaluator : Evaluator State)
    (session : Session State)
    (body handler : Option Value) : Session State :=
  let (succeeded, result) := evaluator.attempt session.evaluation session.environment body
  let attempted := session.evaluated result
  if succeeded then attempted else attempted.runBranch evaluator handler

/-- Declares a function and binds it to its name. -/
def runFunction
    (session : Session State)
    (name : Value)
    (others : List (Option Value)) : Session State × Value :=
  let (value, declared) := session.declare (functionRecord name others)
  (declared.bind name.display value, value)

/-- Calls a built-in. -/
def call
    (evaluator : Evaluator State)
    (session : Session State)
    (builtin : Builtin)
    (args : List (Option Value)) : Session State × Except CallFailure Outcome :=
  let first := argument args 0
  let second := argument args 1
  let third := argument args 2
  match builtin with
  | .print => session.writing (shown first ++ "\n") .absent
  | .printf =>
      let filled := fillTemplate (shown second).toList (textOrEmpty first).toList
      session.writing (String.ofList filled ++ "\n") .absent
  | .get =>
      (session, .ok (.ofValue? (first.bind fun name => session.environment.get? name.display)))
  | .set =>
      match first, second with
      | some name, some value => (session.bind name.display value, .ok (.value value))
      | _, _ => (session, .ok .absent)
  | .rem => (session, .ok (.ofBool (holds first)))
  | .nop => (session, .ok .absent)
  | .ifThen =>
      if holds first then (session.runBranch evaluator second, .ok .absent)
      else (session, .ok (.ofBool false))
  | .ifElse =>
      (session.runBranch evaluator (if holds first then second else third), .ok .absent)
  | .loop => (session.runBlock evaluator first, .ok .absent)
  | .whileLoop =>
      (if holds first then session.runBlock evaluator second else session, .ok .absent)
  | .function =>
      match args with
      | some name :: others =>
          let (declared, value) := session.runFunction name others
          (declared, .ok (.value value))
      | _ => (session, .ok .absent)
  | .concat => (session, .ok (.value (.text (" ".intercalate (args.map textOrEmpty)))))
  | .input =>
      match first with
      | some prompt =>
          match session.writing prompt.display .terminate with
          | (prompted, .ok _) => prompted.awaitLine
          | failed => failed
      | none => session.awaitLine
  | .tryCatch => (session.runAttempt evaluator first second, .ok .absent)
  | .equal => (session, .ok (.ofBool (areEqual first second)))
  | .notEqual => (session, .ok (.ofBool (!areEqual first second)))
  | .lessThan => (session, .ok (.ofBool (areOrdered first second (· == .lt))))
  | .lessOrEqual => (session, .ok (.ofBool (areOrdered first second (· != .gt))))
  | .greaterThan => (session, .ok (.ofBool (areOrdered first second (· == .gt))))
  | .greaterOrEqual => (session, .ok (.ofBool (areOrdered first second (· != .lt))))

/-- Calls the built-in that a token names; there is no result when it names none. -/
def dispatch
    (evaluator : Evaluator State)
    (session : Session State)
    (token : Token)
    (args : List (Option Value)) : Option (Session State × Except CallFailure Outcome) :=
  token.builtin?.map fun builtin => session.call evaluator builtin args

end Session

end CallScript
