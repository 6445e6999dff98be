/-!
# Built-in calls

Everything that a program does is a call of one of twenty built-ins.  This
file lists them and their names.
-/

namespace CallScript

/-- A built-in call. -/
inductive Builtin where
  /-- Writes a value. -/
  | print
  /-- Writes a template with a value put into it. -/
  | printf
  /-- Reads a variable. -/
  | get
  /-- Writes a variable. -/
  | set
  /-- A remark; tells whether it is truthy. -/
  | rem
  /-- Does nothing. -/
  | nop
  /-- Takes a branch when a condition holds. -/
  | ifThen
  /-- Takes one of two branches. -/
  | ifElse
  /-- Hands the fragments of a body to the evaluator. -/
  | loop
  /-- Hands the fragments of a body to the evaluator when a condition holds. -/
  | whileLoop
  /-- Declares a function. -/
  | function
  /-- Joins texts by spaces. -/
  | concat
  /-- Shows a prompt, passes over a line of input and stops the program. -/
  | input
  /-- Attempts a body and turns to a handler when the attempt fails. -/
  | tryCatch
  /-- Tests equality. -/
  | equal
  /-- Tests inequality. -/
  | notEqual
  /-- Tests whether the left operand is smaller. -/
  | lessThan
  /-- Tests whether the left operand is smaller or equal. -/
  | lessOrEqual
  /-- Tests whether the left operand is greater. -/
  | greaterThan
  /-- Tests whether the left operand is greater or equal. -/
  | greaterOrEqual
  deriving DecidableEq, Repr

namespace Builtin

/-- The name by which a program calls the built-in. -/
def name : Builtin → String
  | .print => "print"
  | .printf => "printf"
  | .get => "get"
  | .set => "set"
  | .rem => "rem"
  | .nop => "nop"
  | .ifThen => "if"
  | .ifElse => "if_else"
  | .loop => "loop"
  | .whileLoop => "while"
  | .function => "function"
  | .concat => "concat"
  | .input => "input"
  | .tryCatch => "try_catch"
  | .equal => "equal"
  | .notEqual => "not_equal"
  | .lessThan => "less_than"
  | .lessOrEqual => "less_or_equal"
  | .greaterThan => "greater_than"
  | .greaterOrEqual => "greater_or_equal"

/-- The built-ins in their usual order. -/
def all : List Builtin :=
  [.print, .printf, .get, .set, .rem, .nop, .ifThen, .ifElse, .loop, .whileLoop, .function,
    .concat, .input, .tryCatch, .equal, .notEqual, .lessThan, .lessOrEqual, .greaterThan,
    .greaterOrEqual]

/-- The built-in with a name. -/
def named? (name : String) : Option Builtin :=
  all.find? fun builtin => builtin.name == name

end Builtin

end CallScript
