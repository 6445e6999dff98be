import CallScript.Environment
import CallScript.Proofs.NameMap.Order
import Mathlib.Data.List.Induction

/-!
# Writes to an environment

An environment after a list of writes is described by the writes alone: a
variable has the value of the last write to it that its policy admits, and
what it had before when there is no such write.
-/

namespace CallScript

/-- The policy lets the name be bound. -/
def Admission.IsAdmitted (admission : Admission) (name : String) : Prop :=
  admission = .permissive ∨ name ∉ reservedWords

instance (admission : Admission) (name : String) : Decidable (admission.IsAdmitted name) :=
  inferInstanceAs (Decidable (_ ∨ _))

theorem Admission.admits_iff
    (admission : Admission)
    (name : String) :
    admission.admits name = true ↔ admission.IsAdmitted name := by
  cases admission with
  | permissive => simp [admits, IsAdmitted]
  | rejectReserved => simp [admits, isForbidden, isReservedWord, IsAdmitted]

/-- A write to a variable. -/
structure Write where
  name : String
  value : Value

/-- The value of the last write to a name, of those writes that the policy admits. -/
def lastAdmitted?
    (admission : Admission)
    (writes : List Write)
    (name : String) : Option Value :=
  let admitted := writes.filter fun write => write.name = name ∧ admission.IsAdmitted write.name
  admitted.getLast?.map Write.value

theorem lastAdmitted?_concat
    (admission : Admission)
    (writes : List Write)
    (write : Write)
    (name : String) :
    lastAdmitted? admission (writes ++ [write]) name =
      if write.name = name ∧ admission.IsAdmitted write.name then some write.value
      else lastAdmitted? admission writes name := by
  rw [lastAdmitted?, List.filter_append]
  split_ifs with counts
  · rw [List.filter_cons_of_pos (by simpa using counts), List.filter_nil, List.getLast?_concat]
    rfl
  · rw [List.filter_cons_of_neg (by simpa using counts), List.filter_nil, List.append_nil]
    rfl

theorem lastAdmitted?_reserved
    (writes : List Write)
    {name : String}
    (reserved : name ∈ reservedWords) :
    lastAdmitted? .rejectReserved writes name = none := by
  rw [lastAdmitted?, Option.map_eq_none_iff, List.getLast?_eq_none_iff, List.filter_eq_nil_iff]
  intro write _ counts
  rcases of_decide_eq_true counts with ⟨rfl, impossible | free⟩
  · cases impossible
  · exact free reserved

namespace Environment

variable
    (environment : Environment)

def replay (writes : List Write) : Environment :=
  writes.foldl (fun reached write => reached.set write.name write.value) environment

theorem replay_append
    (front back : List Write) :
    environment.replay (front ++ back) = (environment.replay front).replay back :=
  List.foldl_append

/-- A write takes place when it is admitted, and changes nothing else. -/
theorem set_eq
    (name : String)
    (value : Value) :
    environment.set name value =
      if environment.admission.IsAdmitted name then
        { environment with store := environment.store.insert name value }
      else environment := by
  rw [set, Admission.admit?, if_congr (environment.admission.admits_iff name) rfl rfl]
  split_ifs
  · rfl
  · rfl

@[simp]
theorem admission_set
    (name : String)
    (value : Value) :
    (environment.set name value).admission = environment.admission := by
  rw [set_eq]
  split_ifs
  · rfl
  · rfl

theorem get?_set
    (write : Write)
    (name : String) :
    (environment.set write.name write.value).get? name =
      if write.name = name ∧ environment.admission.IsAdmitted write.name then some write.value
      else environment.get? name := by
  rw [set_eq]
  by_cases admitted : environment.admission.IsAdmitted write.name
  · rw [if_pos admitted]
    simp only [get?, NameMap.get?_insert, admitted, and_true, eq_comm]
  · rw [if_neg admitted, if_neg fun counts => admitted counts.2]

theorem isOrdered_set
    (ordered : environment.store.IsOrdered)
    (name : String)
    (value : Value) :
    (environment.set name value).store.IsOrdered := by
  rw [set_eq]
  split_ifs
  · exact ordered.insert name value
  · exact ordered

@[simp]
theorem admission_replay
    (writes : List Write) :
    (environment.replay writes).admission = environment.admission := by
  induction writes using List.reverseRecOn with
  | nil => rfl
  | append_singleton writes write ih =>
      rw [replay_append]
      exact (admission_set _ write.name write.value).trans ih

/-- The last admitted write decides, and the earlier value when there is none. -/
theorem get?_replay
    (writes : List Write)
    (name : String) :
    (environment.replay writes).get? name =
      (lastAdmitted? environment.admission writes name).or (environment.get? name) := by
  induction writes using List.reverseRecOn with
  | nil => rfl
  | append_singleton writes write ih =>
      rw [replay_append, lastAdmitted?_concat]
      show ((environment.replay writes).set write.name write.value).get? name = _
      rw [get?_set, admission_replay, ih]
      split_ifs
      · rfl
      · rfl

theorem isOrdered_replay
    (ordered : environment.store.IsOrdered)
    (writes : List Write) :
    (environment.replay writes).store.IsOrdered := by
  induction writes using List.reverseRecOn with
  | nil => exact ordered
  | append_singleton writes write ih =>
      rw [replay_append]
      exact isOrdered_set _ ih write.name write.value

theorem contains_replay
    {name : String}
    (bound : environment.contains name = true)
    (writes : List Write) :
    (environment.replay writes).contains name = true := by
  show ((environment.replay writes).get? name).isSome = true
  rw [get?_replay, Option.isSome_or, Bool.or_eq_true]
  exact .inr bound

end Environment

end CallScript
