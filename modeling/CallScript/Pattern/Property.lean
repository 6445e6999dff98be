import CallScript.Pattern.CharSet

/-!
# Properties of characters

A pattern may ask for the characters that have a property, such as a general
category or a script.  A property goes by a letter or by a name in braces, and
a name may come with one of the values that the property has.

Which properties there are, and which characters have them, is data that grows
with every version of Unicode.  A reader of patterns takes this data as a table
and makes no assumption on it.
-/

namespace CallScript.Pattern

/-- How a pattern refers to a property. -/
inductive PropertyName where
  /-- By a letter. -/
  | letter (sign : Char)
  /-- By a name. -/
  | named (name : List Char)
  /-- By a name and one of the values of the property. -/
  | valued (name value : List Char)
  deriving DecidableEq

/-- The characters with a property, for every way to refer to one that is known. -/
abbrev PropertyTable := PropertyName → Option CharSet

namespace PropertyName

/-- The text in front of the first place where a mark stands, and the text behind the mark. -/
def cutAt? (mark : List Char) : List Char → Option (List Char × List Char)
  | [] => none
  | sign :: rest =>
      if mark.isPrefixOf (sign :: rest) then some ([], (sign :: rest).drop mark.length)
      else (cutAt? mark rest).map fun (front, back) => (sign :: front, back)

/--
What the text between two braces refers to, and whether the characters with
another value of the property are meant.
-/
def ofBraced (text : List Char) : PropertyName × Bool :=
  match cutAt? ['!', '='] text with
  | some (name, value) => (.valued name value, true)
  | none =>
      match cutAt? [':'] text <|> cutAt? ['='] text with
      | some (name, value) => (.valued name value, false)
      | none => (.named text, false)

end PropertyName

namespace PropertyTable

/-- The table without properties. -/
def empty : PropertyTable :=
  fun _ => none

/-- The name without a leading `is`, without its case and without the signs that do not count. -/
def plainName (name : List Char) : String :=
  let telling :=
    match name with
    | first :: second :: rest =>
        if first.toLower = 'i' && second.toLower = 's' then rest else name
    | _ => name
  let counting := telling.filter fun sign => sign.toNat < 128 && !" _-".toList.contains sign
  String.ofList (counting.map Char.toLower)

/-- The general categories whose characters are known here. -/
def category? : (name : String) → Option CharSet
  | "any" => some .all
  | "ascii" => some (.range '\x00' '\x7f')
  | "nd" | "decimalnumber" | "digit" => some .decimalDigit
  | _ => none

/-- The properties apart from categories whose characters are known here. -/
def property? : (name : String) → Option CharSet
  | "whitespace" | "wspace" | "space" => some .blank
  | _ => none

/--
The properties for which sets of characters have a sign of their own, and the
categories that need no data.
-/
def basic : PropertyTable
  | .letter _ => none
  | .named name => property? (plainName name) <|> category? (plainName name)
  | .valued name value =>
      if plainName name = "gc" || plainName name = "generalcategory" then
        category? (plainName value)
      else none

end PropertyTable

end CallScript.Pattern
