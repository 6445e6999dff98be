import CallScript.Proofs.Pattern.Search
import CallScript.Proofs.Pattern.Straight
import CallScript.Proofs.Vocabulary.Reading

/-!
# The words of the vocabulary

The pattern of the vocabulary is a choice of words, some of which begin with
others.  It matches at a place exactly when one of the words stands there,
whichever of them comes first.  Hence the classifier accepts the texts that spell
a word or have a piece that does, and every word of the vocabulary among them,
whatever the way of looking for words.

Every built-in has its name in the vocabulary.  So a token that names a
built-in is promoted under every policy, and which built-in a token calls
depends on its text and its kind alone.  The main statement is
`Classifier.builtin?_classify`.
-/

namespace CallScript

open CallScript.Pattern
open CallScript.Text

/-- The folding leaves a code point alone or takes it into the image of one of its runs. -/
theorem Text.foldIn_cases
    (code : Nat)
    (runs : List FoldRun) :
    foldIn code runs = code ∨ ∃ run ∈ runs, run.image ≤ foldIn code runs := by
  induction runs with
  | nil => exact .inl rfl
  | cons run runs ih =>
      simp only [foldIn]
      split
      · exact .inl rfl
      split
      · exact .inr ⟨run, List.mem_cons_self, Nat.le_add_right _ _⟩
      · rcases ih with unmoved | ⟨other, listed, reached⟩
        · exact .inl unmoved
        · exact .inr ⟨other, List.mem_cons_of_mem _ listed, reached⟩

/-- Nothing else folds to a sign that comes in front of the small letters. -/
theorem Text.eq_of_fold_eq
    {character sign : Char}
    (visible : 0 < sign.toNat)
    (low : sign.toNat < 0x61)
    (folded : fold character = sign) :
    character = sign := by
  rw [fold] at folded
  rcases foldIn_cases character.toNat foldRuns with unmoved | ⟨run, listed, reached⟩
  · rwa [unmoved, Char.ofNat_toNat] at folded
  · have images : (foldRuns.all fun run => decide (0x61 ≤ run.image)) = true := by
      decide +kernel
    have image := of_decide_eq_true (List.all_eq_true.1 images run listed)
    rw [Char.ofNat] at folded
    by_cases valid : (foldIn character.toNat foldRuns).isValidChar
    · rw [dif_pos valid] at folded
      have code : sign.toNat = foldIn character.toNat foldRuns := by
        rw [← folded]
        rfl
      omega
    · rw [dif_neg valid] at folded
      subst folded
      exact absurd visible (by decide)

theorem isStraight_wordExpr
    (caseless : Bool)
    (name : String) :
    (wordExpr caseless name).isStraight = true := by
  apply Expr.isStraight_inSequence
  intro expr listed
  rcases List.mem_map.1 listed with ⟨character, -, rfl⟩
  rcases Expr.isLetters_letter caseless character with ⟨characters, letter⟩ | ⟨set, letter⟩
  · rw [letter]
    rfl
  · rw [letter]
    rfl

/-- The pattern of the vocabulary matches at a place when one of the words stands there. -/
theorem isSome_matchLength?_vocabularyExpr
    (reservedMatch : ReservedMatch)
    (caseless : Bool)
    (before : Option Char)
    (text : List Char) :
    ((vocabularyExpr reservedMatch caseless).matchLength? before text).isSome =
      match reservedMatch with
      | .contains =>
          vocabulary.any fun name => Demand.areMet before (wordExpr caseless name).demands text
      | .exact =>
          before.isNone &&
            vocabulary.any fun name =>
              Demand.areMet before
                ((wordExpr caseless name).demands ++ [.place .textEnd]) text := by
  have nonempty : vocabulary.map (wordExpr caseless) ≠ [] := List.cons_ne_nil _ _
  have straight : ∀ expr ∈ vocabulary.map (wordExpr caseless), expr.isStraight = true := by
    intro expr listed
    rcases List.mem_map.1 listed with ⟨name, -, rfl⟩
    exact isStraight_wordExpr caseless name
  cases reservedMatch with
  | contains =>
      have group := Expr.isSome_matchLength?_group nonempty straight 1 before text
      rw [List.any_map] at group
      exact group
  | exact =>
      have between :=
        Expr.isSome_matchLength?_between nonempty straight 1 before text .textStart .textEnd
      rw [List.any_map] at between
      exact between

/-- The character as it counts in a word: folded where case does not matter. -/
def letterOf (caseless : Bool) (character : Char) : Char :=
  if caseless then fold character else character

/-- The text is the word, letter by letter, with or without regard to case. -/
def Spells (caseless : Bool) (name : String) (text : List Char) : Prop :=
  text.map (letterOf caseless) = name.toList.map (letterOf caseless)

/-- A letter of the vocabulary asks for the characters that count as this letter. -/
theorem demands_letter
    (caseless : Bool)
    {letter : Char}
    (listed : letter ∈ vocabularyLetters) :
    ∃ set : CharSet,
      (Expr.letter caseless letter).demands = [.character set] ∧
        ∀ character,
          set.contains character = true ↔
            letterOf caseless character = letterOf caseless letter := by
  cases caseless with
  | false => exact ⟨.single letter, rfl, fun character => beq_iff_eq⟩
  | true =>
      -- What has no other case comes in front of all characters that something folds to.
      have alone :
          (vocabularyLetters.all fun letter =>
              (CharSet.sameLetter letter).only?.all fun other =>
                other == letter && fold letter == letter &&
                  decide (0 < letter.toNat ∧ letter.toNat < 0x61)) =
            true := by
        decide +kernel
      have letterAlone := List.all_eq_true.1 alone letter listed
      simp only [Expr.letter, Expr.ofSet, if_true]
      split
      · rename_i other only
        simp only [only, Option.all_some, Bool.and_eq_true, beq_iff_eq, decide_eq_true_eq]
          at letterAlone
        rcases letterAlone with ⟨⟨rfl, unmoved⟩, visible, low⟩
        refine ⟨.single other, rfl, fun character => ?_⟩
        simp only [CharSet.contains, beq_iff_eq, letterOf, if_true, unmoved]
        constructor
        · rintro rfl
          exact unmoved
        · exact eq_of_fold_eq visible low
      · exact ⟨.sameLetter letter, rfl, fun character => beq_iff_eq⟩

/-- What a word of the vocabulary asks for is given by the texts that spell it. -/
theorem areMet_wordExpr_iff
    (caseless : Bool)
    {name : String}
    (named : name ∈ vocabulary)
    (before : Option Char)
    (demands : List Demand)
    (text : List Char) :
    Demand.areMet before ((wordExpr caseless name).demands ++ demands) text = true ↔
      ∃ word rest,
        text = word ++ rest ∧
          Spells caseless name word ∧ Demand.areMet (lastOr before word) demands rest = true := by
  have letters : ∀ character ∈ name.toList, character ∈ vocabularyLetters :=
    fun _ member => mem_vocabularyLetters named member
  simp only [Spells]
  rw [wordExpr, Expr.demands_inSequence, List.flatMap_map]
  generalize name.toList = characters at letters
  induction characters generalizing before text with
  | nil => simp
  | cons letter characters ih =>
      rw [List.forall_mem_cons] at letters
      rcases demands_letter caseless letters.1 with ⟨set, asked, member⟩
      rw [List.flatMap_cons, asked, List.map_cons]
      simp only [List.cons_append, List.nil_append]
      cases text with
      | nil =>
          constructor
          · intro met
            cases met
          · rintro ⟨word, rest, whole, spelled, -⟩
            obtain ⟨rfl, rfl⟩ := List.nil_eq_append_iff.1 whole
            cases spelled
      | cons character text =>
          rw [Demand.areMet, Bool.and_eq_true, member]
          constructor
          · rintro ⟨same, met⟩
            rcases (ih (some character) text letters.2).1 met with ⟨word, rest, rfl, spelled, met⟩
            refine ⟨character :: word, rest, rfl, ?_, by rwa [lastOr_cons]⟩
            rw [List.map_cons, same, spelled]
          · rintro ⟨word, rest, whole, spelled, met⟩
            rcases List.cons_eq_append_iff.1 whole with ⟨rfl, -⟩ | ⟨word, rfl, rfl⟩
            · cases spelled
            · rw [List.map_cons, List.cons.injEq] at spelled
              rw [lastOr_cons] at met
              exact ⟨spelled.1,
                (ih (some character) _ letters.2).2 ⟨word, rest, rfl, spelled.2, met⟩⟩

/-- Where words are looked for anywhere, a text is accepted when a piece of it spells one. -/
theorem Classifier.accepts_contains_iff
    (caseless : Bool)
    (stringKind : String)
    (text : List Char) :
    (ofPolicy .contains caseless stringKind).accepts text = true ↔
      ∃ name ∈ vocabulary, ∃ piece, piece <:+: text ∧ Spells caseless name piece := by
  rw [accepts, ofPolicy, Expr.isFoundIn, Expr.isFoundAfter_iff]
  simp only [isSome_matchLength?_vocabularyExpr, List.any_eq_true]
  constructor
  · rintro ⟨front, back, rfl, name, named, met⟩
    rw [← List.append_nil (wordExpr caseless name).demands, areMet_wordExpr_iff _ named] at met
    rcases met with ⟨word, rest, rfl, spelled, -⟩
    exact ⟨name, named, word, ⟨front, rest, List.append_assoc _ _ _⟩, spelled⟩
  · rintro ⟨name, named, piece, ⟨front, rest, rfl⟩, spelled⟩
    refine ⟨front, piece ++ rest, List.append_assoc _ _ _, name, named, ?_⟩
    rw [← List.append_nil (wordExpr caseless name).demands, areMet_wordExpr_iff _ named]
    exact ⟨piece, rest, rfl, spelled, rfl⟩

/-- Where whole words are looked for, a text is accepted when it spells one. -/
theorem Classifier.accepts_exact_iff
    (caseless : Bool)
    (stringKind : String)
    (text : List Char) :
    (ofPolicy .exact caseless stringKind).accepts text = true ↔
      ∃ name ∈ vocabulary, Spells caseless name text := by
  rw [accepts, ofPolicy, Expr.isFoundIn, Expr.isFoundAfter_iff]
  simp only [isSome_matchLength?_vocabularyExpr, Bool.and_eq_true, List.any_eq_true]
  constructor
  · rintro ⟨front, back, rfl, atStart, name, named, met⟩
    -- Only the start of the text has nothing in front of it.
    have none : front = [] := by
      cases last : front.getLast? with
      | none => exact List.getLast?_eq_none_iff.1 last
      | some character => simp [lastOr, last] at atStart
    rcases (areMet_wordExpr_iff _ named _ _ _).1 met with ⟨word, rest, rfl, spelled, ended⟩
    have atEnd : rest = [] := by
      simpa [Demand.areMet, Edge.holds] using ended
    rw [none, atEnd, List.nil_append, List.append_nil]
    exact ⟨name, named, spelled⟩
  · rintro ⟨name, named, spelled⟩
    refine ⟨[], text, rfl, rfl, name, named, ?_⟩
    exact (areMet_wordExpr_iff _ named _ _ _).2 ⟨text, [], by simp, spelled, rfl⟩

/-- A word of the vocabulary is accepted, whatever the way of looking for words. -/
theorem Classifier.accepts_of_mem_vocabulary
    (reservedMatch : ReservedMatch)
    (caseless : Bool)
    (stringKind : String)
    {name : String}
    (named : name ∈ vocabulary) :
    (ofPolicy reservedMatch caseless stringKind).accepts name.toList = true := by
  cases reservedMatch with
  | contains =>
      exact (accepts_contains_iff _ _ _).2 ⟨name, named, name.toList, List.infix_rfl, rfl⟩
  | exact => exact (accepts_exact_iff _ _ _).2 ⟨name, named, rfl⟩

/-- The text of a token that names a built-in is a word of the vocabulary. -/
theorem mem_vocabulary_of_named?
    {name : String}
    {builtin : Builtin}
    (found : Builtin.named? name = some builtin) :
    name ∈ vocabulary := by
  have same : builtin.name = name := by simpa using List.find?_some found
  have listed : name ∈ Builtin.all.map Builtin.name :=
    same ▸ List.mem_map_of_mem (List.mem_of_find?_eq_some found)
  rw [vocabulary, List.mem_append, List.mem_filter]
  cases reserved : isReservedWord name with
  | true => exact .inl (List.contains_iff_mem.1 reserved)
  | false => exact .inr ⟨listed, rfl⟩

/--
Which built-in a token calls behind the classifier depends neither on where the
classifier looks for words nor on case: it is the one that the text names,
unless the token is a string literal.
-/
theorem Classifier.builtin?_classify
    (reservedMatch : ReservedMatch)
    (caseless : Bool)
    (stringKind : String)
    (token : Token) :
    ((ofPolicy reservedMatch caseless stringKind).classify token).builtin? =
      if token.kind ≠ stringKind ∨ token.kind = reservedKind then Builtin.named? token.text
      else none := by
  rcases token with ⟨text, kind⟩
  simp only [classify, kindOf, Token.builtin?, Token.isReserved]
  cases accepted : (ofPolicy reservedMatch caseless stringKind).accepts text.toList with
  | true =>
      by_cases literal : kind = stringKind
      · simp [ofPolicy, literal]
      · simp [ofPolicy, literal]
  | false =>
      -- A text that is not accepted names no built-in, so it does not matter what the kind is.
      have unnamed : Builtin.named? text = none := by
        cases named : Builtin.named? text with
        | none => rfl
        | some builtin =>
            have word := accepts_of_mem_vocabulary reservedMatch caseless stringKind
              (mem_vocabulary_of_named? named)
            rw [accepted] at word
            cases word
      simp [unnamed]

end CallScript
