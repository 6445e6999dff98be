import CallScript.Json.Basic

/-!
# Records and choices in JSON

A record with named fields may be written as an object, in any order and with
further members that are passed over, or as an array of its values in the
order of the fields, which may end early.  A field must not be given twice.  A
choice between named alternatives is written as the name, or as an object
whose only member has that name and the value `null`.
-/

namespace CallScript.Json

/-- The values that an object gives for a field. -/
def valuesOf (members : List (Option String × Json)) (field : String) : List Json :=
  (members.filter fun member => member.1 == some field).map Prod.snd

/-- The value of a field that is given at most once. -/
def field? (members : List (Option String × Json)) (field : String) : Option (Option Json) :=
  match valuesOf members field with
  | [] => some none
  | [value] => some (some value)
  | _ => none

/--
The values of a record in the order of its fields; a field that is not given
has none.  There is no result when the text is not a record, when a key has no
content or when a field is given twice.
-/
def record? (fields : List String) : Json → Option (List (Option Json))
  | .object members =>
      if members.all fun member => member.1.isSome then fields.mapM (field? members) else none
  | .array elements =>
      if elements.length ≤ fields.length then
        some (elements.map some ++ List.replicate (fields.length - elements.length) none)
      else none
  | _ => none

/-- The name of a chosen alternative. -/
def choice? : Json → Option String
  | .string content => content
  | .object [(name, .null)] => name
  | _ => none

end CallScript.Json
