import CallScript.Proofs.Vocabulary.Words

/-!
# What the classifier accepts

The classifier searches a text for a pattern in which the words of the
vocabulary compete: some begin with others, and only the first that stands at a
place is tried to the end.  None of this shows.  The main statement,
`Classifier.accepts_iff_vocabulary`, tells the accepted texts by the words alone,
for each way of looking for words.
-/

namespace CallScript

open CallScript.Text

/-- The word is a reserved word or the name of a built-in. -/
def IsVocabularyWord (word : String) : Prop :=
  word ∈ reservedWords ∨ ∃ builtin : Builtin, builtin.name = word

theorem mem_vocabulary_iff
    {word : String} :
    word ∈ vocabulary ↔ IsVocabularyWord word := by
  have listed (builtin : Builtin) : builtin ∈ Builtin.all := by
    cases builtin <;> decide
  rw [vocabulary, List.mem_append, List.mem_filter, IsVocabularyWord]
  constructor
  · rintro (reserved | ⟨named, -⟩)
    · exact .inl reserved
    · rcases List.mem_map.1 named with ⟨builtin, -, name⟩
      exact .inr ⟨builtin, name⟩
  · rintro (reserved | ⟨builtin, rfl⟩)
    · exact .inl reserved
    · cases reserved : isReservedWord builtin.name with
      | true => exact .inl (List.contains_iff_mem.1 reserved)
      | false => exact .inr ⟨List.mem_map_of_mem (listed builtin), rfl⟩

theorem spells_false_iff
    {name : String}
    {text : List Char} :
    Spells false name text ↔ text = name.toList := by
  have unfolded : letterOf false = id := rfl
  rw [Spells, unfolded, List.map_id, List.map_id]

/-- No word is spelled with a line feed at its end. -/
theorem not_spells_append_lineFeed
    (caseless : Bool)
    {name : String}
    (named : name ∈ vocabulary)
    (text : List Char) :
    ¬ Spells caseless name (text ++ ['\n']) := by
  have foreign :
      (vocabularyLetters.all fun letter => letterOf caseless letter != letterOf caseless '\n') =
        true := by
    cases caseless <;> decide +kernel
  intro spelled
  have inside : letterOf caseless '\n' ∈ name.toList.map (letterOf caseless) := by
    rw [← spelled, List.map_append]
    exact List.mem_append_right _ List.mem_cons_self
  rcases List.mem_map.1 inside with ⟨letter, inName, same⟩
  have apart := List.all_eq_true.1 foreign letter (mem_vocabularyLetters named inName)
  simp [same] at apart

/--
With and without regard to case, the classifiers for whole words and for words
anywhere are made without fault.  The one accepts a text when it is a word of the
vocabulary, the other when a piece of it is, letter by letter under simple case
folding when case does not matter; the long s then counts as an s.  A line feed at
the end is part of the text, so no such text is a whole word.
-/
theorem Classifier.accepts_iff_vocabulary
    (caseless : Bool)
    (stringKind : String) :
    ∃ whole anywhere,
      Classifier.read .exact caseless stringKind = .ok whole ∧
        Classifier.read .contains caseless stringKind = .ok anywhere ∧
        (∀ text : String,
          whole.accepts text.toList = true ↔
            match caseless with
            | false => IsVocabularyWord text
            | true =>
                ∃ word, IsVocabularyWord word ∧ text.toList.map fold = word.toList.map fold) ∧
        (∀ text : String,
          anywhere.accepts text.toList = true ↔
            match caseless with
            | false => ∃ word, IsVocabularyWord word ∧ word.toList <:+: text.toList
            | true =>
                ∃ word piece,
                  IsVocabularyWord word ∧
                    piece <:+: text.toList ∧ piece.map fold = word.toList.map fold) ∧
        (∀ text : String, whole.accepts (text ++ "\n").toList = false) ∧
        fold '\u017f' = fold 's' := by
  refine ⟨ofPolicy .exact caseless stringKind, ofPolicy .contains caseless stringKind,
    read_eq_ofPolicy _ _ _, read_eq_ofPolicy _ _ _, ?_, ?_, ?_, ?_⟩
  · intro text
    rw [accepts_exact_iff]
    simp only [mem_vocabulary_iff]
    cases caseless with
    | false =>
        simp only [spells_false_iff, String.toList_inj]
        constructor
        · rintro ⟨word, listed, rfl⟩
          exact listed
        · intro listed
          exact ⟨text, listed, rfl⟩
    | true => rfl
  · intro text
    rw [accepts_contains_iff]
    simp only [mem_vocabulary_iff]
    cases caseless with
    | false =>
        simp only [spells_false_iff]
        constructor
        · rintro ⟨word, listed, piece, inside, rfl⟩
          exact ⟨word, listed, inside⟩
        · rintro ⟨word, listed, inside⟩
          exact ⟨word, listed, word.toList, inside, rfl⟩
    | true =>
        constructor
        · rintro ⟨word, listed, piece, inside, spelled⟩
          exact ⟨word, piece, listed, inside, spelled⟩
        · rintro ⟨word, piece, listed, inside, spelled⟩
          exact ⟨word, listed, piece, inside, spelled⟩
  · intro text
    rw [String.toList_append, Bool.eq_false_iff, ne_eq, accepts_exact_iff]
    rintro ⟨name, named, spelled⟩
    exact not_spells_append_lineFeed caseless named text.toList spelled
  · decide +kernel

end CallScript
