import CallScript.Scan.Span
import CallScript.Vocabulary

/-!
# Scanning

A scan goes through a source from match to match and collects tokens.  The
text in front of a match is a gap and becomes a token of the default kind; the
match becomes a token of the kind of its rule, promoted if it names something
of the language, and is left out if it is white space.  A strict scan fails on
the first gap that holds a double quote, because such a quote opens no string
literal.
-/

namespace CallScript

open CallScript.Text

/-- How the spans of a source are labelled. -/
structure ScanOptions where
  /-- The kind of the tokens that stand for gaps. -/
  defaultKind : String
  /-- The kind of the matches that are left out. -/
  whitespaceKind : String
  /-- The kind of the matches that are never promoted. -/
  stringKind : String
  /-- Where in a match a word of the vocabulary is looked for. -/
  reservedMatch : ReservedMatch
  /-- Words of the vocabulary are found in either case. -/
  caseInsensitive : Bool
  /-- A gap must not hold a double quote. -/
  strictStrings : Bool
  deriving DecidableEq

/-- The usual options. -/
def ScanOptions.standard : ScanOptions where
  defaultKind := invalidKind
  whitespaceKind := CallScript.whitespaceKind
  stringKind := CallScript.stringKind
  reservedMatch := .contains
  caseInsensitive := true
  strictStrings := false

/--
The tokens of a gap that stands behind some text.  In a strict scan, the first
double quote of the gap is a fault.
-/
def ScanOptions.gapTokens
    (options : ScanOptions)
    (passed gap : List Char) : Except Fault (List Token) :=
  if gap.isEmpty then .ok []
  else if options.strictStrings && gap.contains '"' then
    .error (.openQuote (Location.behind (passed ++ gap.takeWhile (· ≠ '"'))))
  else .ok [⟨String.ofList gap, options.defaultKind⟩]

/-- The tokens of a match. -/
def ScanOptions.matchTokens
    (options : ScanOptions)
    (classifier : Classifier)
    (kind : String)
    (text : List Char) : List Token :=
  if kind = options.whitespaceKind then []
  else [classifier.classify ⟨String.ofList text, kind⟩]

/-- A grammar with the options of its scans and the classifier that they ask for. -/
structure Scanner where
  /-- The rules by which a source is cut. -/
  grammar : Grammar
  /-- How the pieces are labelled. -/
  options : ScanOptions
  /-- What promotes the matches. -/
  classifier : Classifier

namespace Scanner

open Grammar

/-- The scanner of a grammar and options. -/
def ofOptions (grammar : Grammar) (options : ScanOptions) : Except Fault Scanner :=
  match Classifier.read options.reservedMatch options.caseInsensitive options.stringKind with
  | .error cause => .error (.unreadableWords cause)
  | .ok classifier => .ok ⟨grammar, options, classifier⟩

/-- The tokens of the text behind the cursor, given the text in front of it. -/
def scanFrom
    (scanner : Scanner)
    (passed rest : List Char) : Except Fault (List Token) :=
  match _found : nextFind? scanner.grammar.rules none rest with
  | none => scanner.options.gapTokens passed rest
  | some find => do
      let gap ← scanner.options.gapTokens passed find.skipped
      let hit := scanner.options.matchTokens scanner.classifier find.rule.kind find.matched
      let later ← scanner.scanFrom (passed ++ find.skipped ++ find.matched) find.rest
      return gap ++ hit ++ later
termination_by rest.length
decreasing_by exact length_rest_lt _found

/-- Scans a source. -/
def scan (scanner : Scanner) (source : String) : Except Fault (List Token) :=
  scanner.scanFrom [] source.toList

end Scanner

namespace Grammar

/-- Scans a source. -/
def scan
    (grammar : Grammar)
    (options : ScanOptions)
    (source : String) : Except Fault (List Token) := do
  let scanner ← Scanner.ofOptions grammar options
  scanner.scan source

/--
The tokens of a source under the usual options, with a kind of its own for
gaps; none if the scan fails.
-/
def tokens (grammar : Grammar) (defaultKind source : String) : List Token :=
  match grammar.scan { ScanOptions.standard with defaultKind := defaultKind } source with
  | .ok tokens => tokens
  | .error _ => []

end Grammar

end CallScript
