/-!
# JSON values

A JSON value as it stands in a file: the members of an object keep their order
and may repeat a key, and a number keeps its spelling.  A string may be
written with escapes that denote no text, because they name one half of a
surrogate pair; such a string has no content, but the text around it can still
be read.
-/

namespace CallScript

/-- A JSON value. -/
inductive Json where
  /-- The value `null`. -/
  | null
  /-- A truth value. -/
  | bool (value : Bool)
  /-- A number in its own spelling. -/
  | number (spelling : List Char)
  /-- A string; there is no content when its escapes denote no text. -/
  | string (content : Option String)
  /-- The values of an array. -/
  | array (elements : List Json)
  /-- The members of an object. -/
  | object (members : List (Option String × Json))

namespace Json

/-- A string value with the given content. -/
def ofString (text : String) : Json :=
  .string (some text)

/-- The content of a string value. -/
def string? : Json → Option String
  | .string content => content
  | _ => none

/-- The content of a truth value. -/
def bool? : Json → Option Bool
  | .bool value => some value
  | _ => none

end Json

end CallScript
