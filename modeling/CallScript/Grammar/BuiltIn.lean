import CallScript.Grammar.Basic

/-!
# The grammar of the language

The ten rules of the scripting language itself.  The meaning of each pattern
is given directly; the main statement, `ofEntries_builtIn`, says that reading
the patterns as they are written gives exactly these meanings, so that the
grammar passes every check that a grammar from a file has to pass.
-/

namespace CallScript

open CallScript.Pattern

namespace Grammar

/-- The characters inside a string literal: letters, white space and digits. -/
def stringCharSet : CharSet :=
  .union (.union (.range 'a' 'z') (.range 'A' 'Z')) (.union .blank .decimalDigit)

/-- A string literal: letters, white space and digits between two quotes. -/
def stringRule : Rule where
  kind := "STRING"
  pattern := "\"([a-zA-Z]|\\s|\\d)+\""
  expr :=
    .sequence (.word ['"'])
      (.sequence (.repetition 1 none true (.group 1 (.chars stringCharSet))) (.word ['"']))

/-- A run of white space. -/
def whitespaceRule : Rule where
  kind := "WHITESPACE"
  pattern := "\\s+"
  expr := .repetition 1 none true (.chars .blank)

/-- A run of digits, which may go on behind a point. -/
def numberRule : Rule where
  kind := "NUMBER"
  pattern := "\\d+(\\.\\d+)?"
  expr :=
    .sequence (.repetition 1 none true (.chars .decimalDigit))
      (.repetition 0 (some 1) true
        (.group 1
          (.sequence (.word ['.']) (.repetition 1 none true (.chars .decimalDigit)))))

/-- A name: ASCII letters, digits and underscores without a digit in front. -/
def barewordRule : Rule where
  kind := "BAREWORD"
  pattern := "[A-Za-z_][A-Za-z0-9_]*"
  expr :=
    .sequence
      (.chars (.union (.range 'A' 'Z') (.union (.range 'a' 'z') (.single '_'))))
      (.repetition 0 none true
        (.chars
          (.union (.range 'A' 'Z')
            (.union (.range 'a' 'z') (.union (.range '0' '9') (.single '_'))))))

/-- A rule whose only text is one character. -/
def singleRule (kind pattern : String) (character : Char) : Rule where
  kind := kind
  pattern := pattern
  expr := .word [character]

/-- A run of the signs that operators are made of. -/
def operatorRule : Rule where
  kind := "OPERATOR"
  pattern := "[-+*/%<>=!]+"
  expr :=
    .repetition 1 none true
      (.chars
        (.union (.single '-') (.union (.single '+') (.union (.single '*')
          (.union (.single '/') (.union (.single '%') (.union (.single '<')
            (.union (.single '>') (.union (.single '=') (.single '!'))))))))))

/-- The rules of the language in the order of preference. -/
def builtIn : Grammar where
  rules :=
    [stringRule,
      whitespaceRule,
      numberRule,
      barewordRule,
      singleRule "LPAREN" "\\(" '(',
      singleRule "RPAREN" "\\)" ')',
      singleRule "LBRACE" "\\\x7b" '{',
      singleRule "RBRACE" "\\\x7d" '}',
      singleRule "COMMA" "," ',',
      operatorRule]

/--
Reading the rules of the language as they are written gives the grammar itself,
whatever properties are known.
-/
theorem ofEntries_builtIn
    (table : PropertyTable) :
    ofEntries table builtIn.entries = .ok builtIn := by
  rfl

end Grammar

end CallScript
