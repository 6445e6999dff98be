import CallScript.Text.Quoted

/-!
# Tokens

A token is a piece of source text with the name of its kind.  Four kinds have
a fixed role: string literals, white space, text that no rule matches, and
tokens that name something of the language itself.
-/

namespace CallScript

/-- A piece of source text and its kind. -/
structure Token where
  /-- The text of the token. -/
  text : String
  /-- The name of its kind. -/
  kind : String
  deriving DecidableEq, Repr

/-- The kind of a token that names a reserved word. -/
def reservedKind : String := "RESERVED"

/-- The usual kind of a string literal. -/
def stringKind : String := "STRING"

/-- The usual kind of white space. -/
def whitespaceKind : String := "WHITESPACE"

/-- The usual kind of text that no rule matches. -/
def invalidKind : String := "INVALID"

/-- A text filled up with spaces to a number of characters. -/
def padRight (width : Nat) (text : List Char) : List Char :=
  text ++ List.replicate (width - text.length) ' '

namespace Token

/-- The token names a reserved word. -/
def isReserved (token : Token) : Bool :=
  token.kind == reservedKind

/-- The token as a line: its kind in ten columns, then its text in quotes. -/
def line (token : Token) : String :=
  String.ofList (padRight 10 token.kind.toList ++ ' ' :: Text.quoted token.text.toList)

end Token

end CallScript
