import CallScript.Proofs.Pattern.Alphabet
import CallScript.Proofs.Vocabulary.Reading

/-!
# The letters of the vocabulary

A text in which the classifier finds a word of the vocabulary holds a letter of
one, in either case.  The main statement, `Classifier.accepts_eq_false`, says
this of every way of looking for words.
-/

namespace CallScript

open CallScript.Pattern
open CallScript.Text

namespace Pattern.Expr

/-- Every match of the expression takes a character, and takes members only. -/
def IsOver (member : Char → Prop) (expr : Expr) : Prop :=
  expr.TakesOnly member ∧ expr.isTaking = true

section IsOver

variable
    {member : Char → Prop}

theorem isOver_of_mem_pushPart
    {part : Expr}
    {parts : List Expr}
    (partOver : part.IsOver member)
    (each : ∀ other ∈ parts, other.IsOver member) :
    ∀ other ∈ pushPart part parts, other.IsOver member := by
  simp only [pushPart]
  split
  · exact each
  · rename_i first second others
    rw [List.forall_mem_cons] at each ⊢
    refine ⟨⟨?_, ?_⟩, each.2⟩
    · intro character listed
      rcases List.mem_append.1 listed with inFirst | inSecond
      · exact partOver.1 character inFirst
      · exact each.1.1 character inSecond
    · have nonempty : first ≠ [] := by simpa [IsOver, isTaking] using partOver.2
      simp [isTaking, nonempty]
  · rw [List.forall_mem_cons]
    exact ⟨partOver, each⟩

theorem pushPart_ne_nil
    {part : Expr}
    (taking : part.isTaking = true)
    (parts : List Expr) :
    pushPart part parts ≠ [] := by
  simp only [pushPart]
  split
  · cases taking
  · simp
  · simp

theorem isOver_sequenceOf
    {exprs : List Expr}
    (nonempty : exprs ≠ [])
    (each : ∀ expr ∈ exprs, expr.IsOver member) :
    (sequenceOf exprs).IsOver member := by
  induction exprs with
  | nil => exact absurd rfl nonempty
  | cons first exprs ih =>
      rw [List.forall_mem_cons] at each
      cases exprs with
      | nil => exact each.1
      | cons second exprs =>
          have rest := ih (by simp) each.2
          exact ⟨⟨each.1.1, rest.1⟩, by simp [sequenceOf, isTaking, each.1.2]⟩

theorem isOver_choiceOf
    {exprs : List Expr}
    (each : ∀ expr ∈ exprs, expr.IsOver member) :
    (choiceOf exprs).IsOver member := by
  induction exprs with
  | nil => simp [choiceOf, IsOver, TakesOnly, isTaking, CharSet.IsWithin, CharSet.contains]
  | cons first exprs ih =>
      rw [List.forall_mem_cons] at each
      cases exprs with
      | nil => exact each.1
      | cons second exprs =>
          have rest := ih each.2
          exact ⟨⟨each.1.1, rest.1⟩, by simp [choiceOf, isTaking, each.1.2, rest.2]⟩

/-- Letters in normal form take what the letters take. -/
theorem isOver_inSequence
    {exprs : List Expr}
    (letters : ∀ expr ∈ exprs, expr.IsLetters)
    (nonempty : exprs ≠ [])
    (each : ∀ expr ∈ exprs, expr.IsOver member) :
    (inSequence exprs).IsOver member := by
  have pushed :
      ((exprs.flatMap parts).foldr pushPart [] = [] → exprs = []) ∧
        ∀ other ∈ (exprs.flatMap parts).foldr pushPart [], other.IsOver member := by
    clear nonempty
    induction exprs with
    | nil => simp
    | cons expr exprs ih =>
        rw [List.forall_mem_cons] at letters each
        rw [List.flatMap_cons, letters.1.parts, List.singleton_append, List.foldr_cons]
        constructor
        · intro none
          exact absurd none (pushPart_ne_nil each.1.2 _)
        · exact isOver_of_mem_pushPart each.1 (ih letters.2 each.2).2
  exact isOver_sequenceOf (mt pushed.1 nonempty) pushed.2

end IsOver

end Pattern.Expr

/-- The character is a letter of the vocabulary, in either case. -/
def IsVocabularyLetter (character : Char) : Prop :=
  ∃ letter ∈ vocabularyLetters, fold character = fold letter

theorem isOver_letter
    (caseless : Bool)
    {letter : Char}
    (listed : letter ∈ vocabularyLetters) :
    (Expr.letter caseless letter).IsOver IsVocabularyLetter := by
  have itself : IsVocabularyLetter letter := ⟨letter, listed, rfl⟩
  cases caseless with
  | false => exact ⟨by simpa [Expr.letter, Expr.TakesOnly] using itself, rfl⟩
  | true =>
      have alone :
          (vocabularyLetters.all fun letter =>
              (CharSet.sameLetter letter).only?.all fun other => fold other == fold letter) =
            true := by
        decide +kernel
      simp only [Expr.letter, Expr.ofSet, if_true]
      split
      · rename_i other only
        have same := List.all_eq_true.1 alone letter listed
        rw [only, Option.all_some, beq_iff_eq] at same
        exact ⟨by simpa [Expr.TakesOnly] using ⟨letter, listed, same⟩, rfl⟩
      · refine ⟨fun character contained => ⟨letter, listed, ?_⟩, rfl⟩
        simpa [CharSet.contains] using contained

theorem isOver_wordExpr
    (caseless : Bool)
    {name : String}
    (named : name ∈ vocabulary) :
    (wordExpr caseless name).IsOver IsVocabularyLetter := by
  have nonempty : (vocabulary.all fun name => !name.toList.isEmpty) = true := by
    decide +kernel
  have nameNonempty := List.all_eq_true.1 nonempty name named
  apply Expr.isOver_inSequence
  · intro expr listed
    rcases List.mem_map.1 listed with ⟨character, -, rfl⟩
    exact Expr.isLetters_letter caseless character
  · simpa using nameNonempty
  · intro expr listed
    rcases List.mem_map.1 listed with ⟨character, inName, rfl⟩
    exact isOver_letter caseless (mem_vocabularyLetters named inName)

theorem isOver_vocabularyExpr
    (reservedMatch : ReservedMatch)
    (caseless : Bool) :
    (vocabularyExpr reservedMatch caseless).IsOver IsVocabularyLetter := by
  have words :
      (Expr.choiceOf (vocabulary.map (wordExpr caseless))).IsOver IsVocabularyLetter := by
    apply Expr.isOver_choiceOf
    intro expr listed
    rcases List.mem_map.1 listed with ⟨name, named, rfl⟩
    exact isOver_wordExpr caseless named
  cases reservedMatch with
  | contains => exact words
  | exact =>
      refine ⟨⟨trivial, words.1, trivial⟩, ?_⟩
      simp [vocabularyExpr, Expr.sequenceOf, Expr.isTaking, words.2]

/-- A text without letters of the vocabulary is never promoted. -/
theorem Classifier.accepts_eq_false
    (reservedMatch : ReservedMatch)
    (caseless : Bool)
    (stringKind : String)
    {text : List Char}
    (foreign : ∀ character ∈ text, ¬ IsVocabularyLetter character) :
    (ofPolicy reservedMatch caseless stringKind).accepts text = false := by
  have letters := isOver_vocabularyExpr reservedMatch caseless
  exact Expr.isFoundAfter_eq_false letters.1 letters.2 foreign none

end CallScript
