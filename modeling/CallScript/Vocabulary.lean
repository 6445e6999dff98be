import CallScript.Builtin
import CallScript.Pattern.Reader
import CallScript.Pattern.Search
import CallScript.Token

/-!
# The vocabulary and its classifier

The vocabulary consists of the reserved words and the names of the built-ins.
The classifier searches a token for a word of the vocabulary, anywhere in its
text or as the whole of it, with or without regard to case, and promotes the
tokens in which it finds one.  String literals are never promoted.

The search runs over one pattern, the choice of all words.
-/

namespace CallScript

open CallScript.Pattern

/-- The reserved words in their usual order. -/
def reservedWords : List String :=
  ["%", "print", "printf", "set", "rem", "if", "if_else", "loop", "while", "for", "function",
    "true", "false", "equals", "not_equals", "less_than", "less_or_equals", "greater_than",
    "greater_or_equals"]

/-- The word is reserved, spelled exactly so. -/
def isReservedWord (word : String) : Bool :=
  reservedWords.contains word

/-- The reserved words, then the names of the other built-ins. -/
def vocabulary : List String :=
  reservedWords ++ (Builtin.all.map Builtin.name).filter fun name => !isReservedWord name

/-- Where in a token a word of the vocabulary is looked for. -/
inductive ReservedMatch where
  /-- Anywhere in the text. -/
  | contains
  /-- The whole text. -/
  | exact
  deriving DecidableEq, Repr

/-- The sign has a meaning of its own in a pattern. -/
def isPatternSign (character : Char) : Bool :=
  "\\.+*?()|[]\x7b\x7d^$#&-~".toList.contains character

/-- A word as a pattern that matches this word alone. -/
def escaped (word : List Char) : List Char :=
  word.flatMap fun character => if isPatternSign character then ['\\', character] else [character]

/-- The pattern of a group of words: the words are escaped, with bars between them. -/
def wordsPattern (words : List (List Char)) : List Char :=
  '(' :: (['|'].intercalate (words.map escaped) ++ [')'])

/-- The pattern of the texts in which a word of the vocabulary is found, as it is written. -/
def vocabularyPattern (reservedMatch : ReservedMatch) : List Char :=
  let words := wordsPattern (vocabulary.map String.toList)
  match reservedMatch with
  | .contains => words
  | .exact => '^' :: (words ++ ['$'])

/-- A word of the vocabulary, with or without regard to case. -/
def wordExpr (caseless : Bool) (name : String) : Expr :=
  Expr.inSequence (name.toList.map (Expr.letter caseless))

/-- What the pattern of the vocabulary means. -/
def vocabularyExpr (reservedMatch : ReservedMatch) (caseless : Bool) : Expr :=
  let words := Expr.group 1 (Expr.choiceOf (vocabulary.map (wordExpr caseless)))
  match reservedMatch with
  | .contains => words
  | .exact => Expr.sequenceOf [.edge .textStart, words, .edge .textEnd]

/-- Promotes the tokens that hold a word of the vocabulary. -/
structure Classifier where
  /-- The pattern of the texts to be promoted. -/
  expr : Expr
  /-- The kind of the tokens that are never promoted. -/
  stringKind : String

namespace Classifier

/-- The classifier for a way of looking for words. -/
def ofPolicy
    (reservedMatch : ReservedMatch)
    (caseless : Bool)
    (stringKind : String) : Classifier where
  expr := vocabularyExpr reservedMatch caseless
  stringKind := stringKind

/--
The classifier for a way of looking for words, with its pattern read as it is
written.  The pattern names no property.
-/
def read
    (reservedMatch : ReservedMatch)
    (caseless : Bool)
    (stringKind : String) : Except PatternError Classifier := do
  let mode := { Mode.initial with caseless := caseless }
  let expr ← Expr.readIn .empty mode (vocabularyPattern reservedMatch)
  return ⟨expr, stringKind⟩

/-- The text holds a word of the vocabulary where the classifier looks for one. -/
def accepts (classifier : Classifier) (text : List Char) : Bool :=
  classifier.expr.isFoundIn text

/-- The kind that a text of a kind gets. -/
def kindOf (classifier : Classifier) (kind : String) (text : List Char) : String :=
  if kind ≠ classifier.stringKind && classifier.accepts text then reservedKind else kind

/-- The token with the kind that the classifier gives it. -/
def classify (classifier : Classifier) (token : Token) : Token :=
  { token with kind := classifier.kindOf token.kind token.text.toList }

end Classifier

/-- The built-in that a token calls, provided that the token is marked as reserved. -/
def Token.builtin? (token : Token) : Option Builtin :=
  if token.isReserved then Builtin.named? token.text else none

end CallScript
