import CallScript.Json.Record
import Mathlib.Data.List.Nodup

/-!
# Records in JSON

The values that an object gives for a field, one member after the other.  A
record that gives each of its fields once has its values in the order of the
fields; one that gives a field more than once, or has a key without a content,
is no record.
-/

namespace CallScript.Json

/-! ## Values of a field -/

@[simp]
theorem valuesOf_nil
    (field : String) :
    valuesOf [] field = [] := by
  rfl

theorem valuesOf_cons_self
    (field : String)
    (json : Json)
    (members : List (Option String × Json)) :
    valuesOf ((some field, json) :: members) field = json :: valuesOf members field := by
  rw [valuesOf, List.filter_cons_of_pos (by simp)]
  rfl

theorem valuesOf_cons_of_ne
    {key field : String}
    (apart : key ≠ field)
    (json : Json)
    (members : List (Option String × Json)) :
    valuesOf ((some key, json) :: members) field = valuesOf members field := by
  rw [valuesOf, List.filter_cons_of_neg (by simpa using apart)]
  rfl

/-- A field has as many values as there are members with its name. -/
theorem length_valuesOf
    (members : List (Option String × Json))
    (field : String) :
    (valuesOf members field).length = (members.map Prod.fst).count (some field) := by
  rw [valuesOf, List.length_map, ← List.countP_eq_length_filter, List.count, List.countP_map]
  rfl

/-- A field that the first member gives is given by no other member, if it has a value. -/
theorem field?_cons_self_eq_some_iff
    {field : String}
    {json : Json}
    {members : List (Option String × Json)}
    {given : Option Json} :
    field? ((some field, json) :: members) field = some given ↔
      given = some json ∧ valuesOf members field = [] := by
  rw [field?, valuesOf_cons_self]
  cases valuesOf members field with
  | nil => simp [eq_comm]
  | cons value values => simp

theorem field?_cons_of_ne
    {key field : String}
    (apart : key ≠ field)
    (json : Json)
    (members : List (Option String × Json)) :
    field? ((some key, json) :: members) field = field? members field := by
  rw [field?, field?, valuesOf_cons_of_ne apart]

/-- A field that is given more than once has no value. -/
theorem field?_eq_none
    {members : List (Option String × Json)}
    {field : String}
    (repeated : 2 ≤ (members.map Prod.fst).count (some field)) :
    field? members field = none := by
  rw [← length_valuesOf] at repeated
  rw [field?]
  split
  · rename_i none
    simp [none] at repeated
  · rename_i value single
    simp [single] at repeated
  · rfl

theorem field?_of_mem
    {values : List (String × Json)}
    (distinct : (values.map Prod.fst).Nodup)
    {value : String × Json}
    (listed : value ∈ values) :
    field? (values.map fun (name, json) => (some name, json)) value.1 = some (some value.2) := by
  rcases List.append_of_mem listed with ⟨front, back, rfl⟩
  rw [List.map_append, List.map_cons, List.nodup_middle, List.nodup_cons, List.mem_append,
    not_or] at distinct
  have passed (others : List (String × Json)) (absent : value.1 ∉ others.map Prod.fst) :
      (others.map fun (name, json) => (some name, json)).filter
          (fun member => member.1 == some value.1) = [] := by
    rw [List.filter_eq_nil_iff]
    intro member inMembers same
    rcases List.mem_map.1 inMembers with ⟨other, inOthers, rfl⟩
    exact absent (Option.some.inj (eq_of_beq same) ▸ List.mem_map_of_mem inOthers)
  simp [field?, valuesOf, passed front distinct.1.1, passed back distinct.1.2]

theorem mapM_eq_some_map
    {α β : Type}
    {read? : α → Option β}
    {result : α → β}
    {list : List α}
    (each : ∀ item ∈ list, read? item = some (result item)) :
    list.mapM read? = some (list.map result) := by
  induction list with
  | nil => rfl
  | cons item list ih =>
      rw [List.forall_mem_cons] at each
      rw [List.mapM_cons, each.1, ih each.2]
      rfl

/-- An object with each field once is a record with all the values. -/
theorem record?_object
    {values : List (String × Json)}
    (distinct : (values.map Prod.fst).Nodup) :
    record? (values.map Prod.fst) (.object (values.map fun (name, json) => (some name, json))) =
      some (values.map fun value => some value.2) := by
  have named :
      (values.map fun (name, json) => (some name, json)).all
          (fun member => member.1.isSome) = true := by
    simp
  rw [record?, named, if_pos rfl, List.mapM_map]
  exact mapM_eq_some_map fun value listed => field?_of_mem distinct listed

theorem eq_map_of_mapM_eq_some
    {α β : Type}
    {read? : α → Option β}
    {write : β → α}
    (each : ∀ item value, read? item = some value → item = write value)
    {list : List α}
    {values : List β}
    (read : list.mapM read? = some values) :
    list = values.map write := by
  induction list generalizing values with
  | nil =>
      cases read
      rfl
  | cons item list ih =>
      simp only [List.mapM_cons, Option.bind_eq_bind, Option.bind_eq_some_iff] at read
      obtain ⟨value, readItem, others, readOthers, last⟩ := read
      cases last
      rw [List.map_cons, ← each item value readItem, ← ih readOthers]

theorem mapM_eq_none
    {α β : Type}
    {read? : α → Option β}
    {list : List α}
    {item : α}
    (listed : item ∈ list)
    (fails : read? item = none) :
    list.mapM read? = none := by
  induction list with
  | nil => cases listed
  | cons first list ih =>
      rw [List.mapM_cons]
      rcases List.mem_cons.1 listed with rfl | later
      · rw [fails]
        rfl
      · rw [ih later]
        cases read? first with
        | none => rfl
        | some value => rfl

/-- An object that gives a field more than once is no record. -/
theorem record?_eq_none_of_repeated
    {fields : List String}
    {members : List (Option String × Json)}
    {field : String}
    (known : field ∈ fields)
    (repeated : 2 ≤ (members.map Prod.fst).count (some field)) :
    record? fields (.object members) = none := by
  rw [record?, mapM_eq_none known (field?_eq_none repeated)]
  split
  · rfl
  · rfl

/-- An object with a key without a content is no record. -/
theorem record?_eq_none_of_key
    (fields : List String)
    {members : List (Option String × Json)}
    {json : Json}
    (listed : (none, json) ∈ members) :
    record? fields (.object members) = none := by
  have unnamed : ¬ (members.all fun member => member.1.isSome) = true := by
    intro named
    cases List.all_eq_true.1 named _ listed
  rw [record?, if_neg unnamed]

end CallScript.Json
