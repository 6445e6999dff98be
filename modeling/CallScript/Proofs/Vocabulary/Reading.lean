import CallScript.Proofs.Pattern.Normal
import CallScript.Proofs.Pattern.Words
import CallScript.Scan.Tokens

/-!
# The pattern of the vocabulary

The classifier reads the pattern of its words as it is written.  The main
statement, `Classifier.read_eq_ofPolicy`, says that this never fails and what
comes out: the words are made of letters that no pattern gives a meaning of
their own, and there are few enough of them.  Hence every grammar and all
options have a scanner.
-/

namespace CallScript

open CallScript.Pattern

/-- The characters that the words of the vocabulary are made of. -/
def vocabularyLetters : List Char :=
  "abcdefghijklmnopqrstuvwxyz_%".toList

theorem mem_vocabularyLetters
    {name : String}
    (named : name ∈ vocabulary)
    {character : Char}
    (member : character ∈ name.toList) :
    character ∈ vocabularyLetters := by
  have known :
      (vocabulary.all fun name => name.toList.all vocabularyLetters.contains) = true := by
    decide +kernel
  have letters := List.all_eq_true.1 (List.all_eq_true.1 known name named) character member
  exact List.contains_iff_mem.1 letters

theorem roomBound_letter_le
    (caseless : Bool)
    {character : Char}
    (member : character ∈ vocabularyLetters) :
    (Expr.letter caseless character).roomBound ≤ 10208 := by
  have small :
      (vocabularyLetters.all fun character =>
          (Expr.letter caseless character).roomBound ≤ 10208) =
        true := by
    cases caseless with
    | true => decide +kernel
    | false => decide +kernel
  simpa using List.all_eq_true.1 small character member

theorem vocabulary_eq :
    vocabulary = "%" :: "print" :: (vocabulary.drop 2) := by
  rfl

theorem branches_wordExpr
    (caseless : Bool)
    (name : String) :
    (wordExpr caseless name).branches = [wordExpr caseless name] := by
  apply Expr.branches_inSequence
  intro expr member
  rcases List.mem_map.1 member with ⟨character, -, rfl⟩
  exact Expr.isLetters_letter caseless character

theorem roomBound_wordExpr_le
    (caseless : Bool)
    {name : String}
    (member : name ∈ vocabulary) :
    (wordExpr caseless name).roomBound ≤ 10208 * name.toList.length + 32 := by
  have letters :
      ∀ characters : List Char,
        (∀ character ∈ characters, character ∈ vocabularyLetters) →
          ((characters.map (Expr.letter caseless)).map Expr.roomBound).sum ≤
            10208 * characters.length := by
    intro characters known
    induction characters with
    | nil => simp
    | cons character characters ih =>
        have first := roomBound_letter_le caseless (known character List.mem_cons_self)
        have rest := ih fun other otherMember => known other (List.mem_cons_of_mem _ otherMember)
        simp only [List.map_cons, List.sum_cons, List.length_cons]
        omega
  have sequence := Expr.roomBound_inSequence_le (name.toList.map (Expr.letter caseless))
  have bound := letters name.toList fun _ => mem_vocabularyLetters member
  rw [wordExpr]
  omega

/-- The words of the vocabulary as alternatives are a plain choice. -/
theorem asChoice_vocabulary
    (caseless : Bool) :
    Expr.asChoice (vocabulary.map (wordExpr caseless)) =
      Expr.choiceOf (vocabulary.map (wordExpr caseless)) := by
  have plain :
      ∀ expr ∈ vocabulary.map (wordExpr caseless), expr.branches = [expr] := by
    intro expr member
    rcases List.mem_map.1 member with ⟨name, -, rfl⟩
    exact branches_wordExpr caseless name
  have percent : wordExpr caseless "%" = .word ['%'] := by
    cases caseless <;> decide +kernel
  have print : (wordExpr caseless "print").singleChar? = none := by
    cases caseless <;> decide +kernel
  rw [vocabulary_eq, List.map_cons, List.map_cons] at plain ⊢
  apply Expr.asChoice_eq_choiceOf plain
  · rw [percent]
    exact Nat.le_refl 1
  · simp [Expr.asSet?, percent, print, Expr.set?]

theorem roomBound_vocabulary_le
    (caseless : Bool) :
    (Expr.choiceOf (vocabulary.map (wordExpr caseless))).roomBound ≤ 10000000 := by
  have total :
      ∀ names : List String,
        (∀ name ∈ names, name ∈ vocabulary) →
          ((names.map (wordExpr caseless)).map fun expr => expr.roomBound + 128).sum ≤
            (names.map fun name => 10208 * name.toList.length + 160).sum := by
    intro names known
    induction names with
    | nil => simp
    | cons name names ih =>
        have first := roomBound_wordExpr_le caseless (known name List.mem_cons_self)
        have rest := ih fun other otherMember => known other (List.mem_cons_of_mem _ otherMember)
        simp only [List.map_cons, List.sum_cons]
        omega
  have choice := Expr.roomBound_choiceOf_le (vocabulary.map (wordExpr caseless))
  have bound := total vocabulary fun _ member => member
  have closed :
      (vocabulary.map fun name => 10208 * name.toList.length + 160).sum + 128 ≤ 10000000 := by
    decide +kernel
  omega

theorem vocabulary_words :
    vocabulary.map String.toList =
      "%".toList :: (vocabulary.drop 1).map String.toList := by
  rfl

/-- The words of the vocabulary are read as the choice that the classifier looks for. -/
theorem wordsExpr_vocabulary
    {mode : Mode}
    (unicode : mode.repertoire = .unicode) :
    mode.wordsExpr (vocabulary.map String.toList) =
      .group 1 (Expr.choiceOf (vocabulary.map (wordExpr mode.caseless))) := by
  have letters : mode.letter = Expr.letter mode.caseless := by
    funext character
    rw [Mode.letter, unicode]
  rw [Mode.wordsExpr, List.map_map, ← asChoice_vocabulary, letters]
  rfl

/--
The pattern of the vocabulary is neither too deep nor too large, and means what
it says, whatever properties are known.
-/
theorem readIn_vocabularyPattern
    (table : PropertyTable)
    (reservedMatch : ReservedMatch)
    (caseless : Bool) :
    Expr.readIn table { Mode.initial with caseless := caseless }
        (vocabularyPattern reservedMatch) =
      .ok (vocabularyExpr reservedMatch caseless) := by
  let mode : Mode := { Mode.initial with caseless := caseless }
  have meaning :
      mode.wordsExpr (vocabulary.map String.toList) =
        .group 1 (Expr.choiceOf (vocabulary.map (wordExpr caseless))) :=
    wordsExpr_vocabulary rfl
  have room := roomBound_vocabulary_le caseless
  rw [vocabulary_words] at meaning
  have limit : 10000000 + 2048 ≤ roomLimit := by decide
  cases reservedMatch with
  | contains =>
      have fits :
          (mode.wordsExpr ("%".toList :: (vocabulary.drop 1).map String.toList)).fits = true := by
        rw [meaning]
        apply Expr.fits_of_roomBound
        simp only [Expr.roomBound]
        omega
      have read := Expr.readIn_words table rfl _ _ fits
      rw [vocabularyPattern, vocabulary_words, read, meaning]
      rfl
  | exact =>
      have fits :
          (Expr.sequenceOf
              [.edge mode.start,
                mode.wordsExpr ("%".toList :: (vocabulary.drop 1).map String.toList),
                .edge mode.finish]).fits =
            true := by
        rw [meaning]
        apply Expr.fits_of_roomBound
        simp only [Expr.sequenceOf, Expr.roomBound]
        omega
      have read := Expr.readIn_wholeWords table rfl _ _ fits
      rw [vocabularyPattern, vocabulary_words, read, meaning]
      rfl

/-- The classifier is read without fault, whatever the way of looking for words. -/
theorem Classifier.read_eq_ofPolicy
    (reservedMatch : ReservedMatch)
    (caseless : Bool)
    (stringKind : String) :
    Classifier.read reservedMatch caseless stringKind =
      .ok (Classifier.ofPolicy reservedMatch caseless stringKind) := by
  rw [Classifier.read, readIn_vocabularyPattern]
  rfl

def ScanOptions.classifier (options : ScanOptions) : Classifier :=
  Classifier.ofPolicy options.reservedMatch options.caseInsensitive options.stringKind

/-- Every grammar and all options have a scanner. -/
theorem Scanner.ofOptions_eq_ok
    (grammar : Grammar)
    (options : ScanOptions) :
    Scanner.ofOptions grammar options = .ok ⟨grammar, options, options.classifier⟩ := by
  rw [Scanner.ofOptions, Classifier.read_eq_ofPolicy]
  rfl

theorem Grammar.scan_eq_scanFrom
    (grammar : Grammar)
    (options : ScanOptions)
    (source : String) :
    grammar.scan options source =
      Scanner.scanFrom ⟨grammar, options, options.classifier⟩ [] source.toList := by
  rw [Grammar.scan, Scanner.ofOptions_eq_ok]
  rfl

end CallScript
