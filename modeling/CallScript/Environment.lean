import CallScript.NameMap
import CallScript.Value
import CallScript.Vocabulary

/-!
# The environment

All calls of a program share one flat space of variables.  The last write to a
name wins and no name is ever removed.  A policy of admission decides which
writes take place; a refused write is without effect, but the writer still
gets the value back.
-/

namespace CallScript

/-- Which names may be bound. -/
inductive Admission where
  /-- Every name. -/
  | permissive
  /-- Every name that is neither forbidden nor reserved. -/
  | rejectReserved
  deriving DecidableEq, Repr

namespace Admission

/-- The name may never be bound; no name is forbidden at present. -/
def isForbidden (_admission : Admission) (_name : String) : Bool :=
  false

/-- A binding of the name takes place. -/
def admits (admission : Admission) (name : String) : Bool :=
  match admission with
  | .permissive => true
  | .rejectReserved => !(admission.isForbidden name || isReservedWord name)

/-- The value to be bound to a name, unless the binding is refused. -/
def admit? (admission : Admission) (name : String) (value : Value) : Option Value :=
  if admission.admits name then some value else none

end Admission

/-- The variables of a program and the policy of their admission. -/
structure Environment where
  /-- The variables. -/
  store : NameMap Value
  /-- Which names may be bound. -/
  admission : Admission
  deriving DecidableEq

namespace Environment

/-- The environment without variables. -/
def empty (admission : Admission) : Environment :=
  ⟨.empty, admission⟩

/-- The value of a variable. -/
def get? (environment : Environment) (name : String) : Option Value :=
  environment.store.get? name

/-- The variable is bound. -/
def contains (environment : Environment) (name : String) : Bool :=
  environment.store.contains name

/-- The environment after a write. -/
def set (environment : Environment) (name : String) (value : Value) : Environment :=
  match environment.admission.admit? name value with
  | some admitted => { environment with store := environment.store.insert name admitted }
  | none => environment

/-- The number of variables. -/
def size (environment : Environment) : Nat :=
  environment.store.size

/-- The variables with their values, in increasing order of the names. -/
def bindings (environment : Environment) : List (String × Value) :=
  environment.store.entries

end Environment

end CallScript
