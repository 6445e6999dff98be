import CallScript.Proofs.Json.Scalars

/-!
# How JSON values are spelled

The grammar of JSON texts, given without the reader: which texts spell a value, with white space
around it or without, and which spell the elements of an array or the members of an object up to
the closing bracket.

The reader accepts exactly these texts, each as the value that it spells.  In one direction
every spelling is read with any text behind it, by induction on how it is spelled; the length
of the spelling is enough rounds.  In the other direction what a reader takes off a text is a
spelling, by induction on the rounds.  The main statement is `read?_eq_some_iff`.
-/

namespace CallScript.Json

open CallScript.Text

/-! ## Values -/

/-- What a part of a JSON text stands for. -/
inductive Piece where
  /-- A value. -/
  | value (json : Json)
  /-- A value with white space around it. -/
  | padded (json : Json)
  /-- The elements of an array that is not empty. -/
  | elements (jsons : List Json)
  /-- The members of an object that is not empty. -/
  | members (entries : List (Option String × Json))

/-- A key with white space around it. -/
inductive SpellsKey : List Char → Option String → Prop where
  | padded
      {before spelling behind : List Char}
      {key : Option String}
      (blankBefore : IsBlank before)
      (spelled : SpellsString spelling key)
      (blankBehind : IsBlank behind) :
      SpellsKey (before ++ spelling ++ behind) key

/-- The text spells a part of a JSON text. -/
inductive Spells : List Char → Piece → Prop where
  | null : Spells ['n', 'u', 'l', 'l'] (.value .null)
  | true : Spells ['t', 'r', 'u', 'e'] (.value (.bool true))
  | false : Spells ['f', 'a', 'l', 's', 'e'] (.value (.bool false))
  | number
      {spelling : List Char}
      (number : IsNumber spelling) :
      Spells spelling (.value (.number spelling))
  | string
      {spelling : List Char}
      {content : Option String}
      (spelled : SpellsString spelling content) :
      Spells spelling (.value (.string content))
  | emptyArray
      {space : List Char}
      (blank : IsBlank space) :
      Spells ('[' :: (space ++ [']'])) (.value (.array []))
  | array
      {spelling : List Char}
      {elements : List Json}
      (inside : Spells spelling (.elements elements)) :
      Spells ('[' :: (spelling ++ [']'])) (.value (.array elements))
  | emptyObject
      {space : List Char}
      (blank : IsBlank space) :
      Spells ('\x7b' :: (space ++ ['\x7d'])) (.value (.object []))
  | object
      {spelling : List Char}
      {members : List (Option String × Json)}
      (inside : Spells spelling (.members members)) :
      Spells ('\x7b' :: (spelling ++ ['\x7d'])) (.value (.object members))
  | padded
      {before spelling behind : List Char}
      {json : Json}
      (blankBefore : IsBlank before)
      (value : Spells spelling (.value json))
      (blankBehind : IsBlank behind) :
      Spells (before ++ spelling ++ behind) (.padded json)
  | lastElement
      {spelling : List Char}
      {json : Json}
      (element : Spells spelling (.padded json)) :
      Spells spelling (.elements [json])
  | element
      {spelling more : List Char}
      {json : Json}
      {elements : List Json}
      (element : Spells spelling (.padded json))
      (later : Spells more (.elements elements)) :
      Spells (spelling ++ ',' :: more) (.elements (json :: elements))
  | lastMember
      {name spelling : List Char}
      {key : Option String}
      {json : Json}
      (named : SpellsKey name key)
      (value : Spells spelling (.padded json)) :
      Spells (name ++ ':' :: spelling) (.members [(key, json)])
  | member
      {name spelling more : List Char}
      {key : Option String}
      {json : Json}
      {members : List (Option String × Json)}
      (named : SpellsKey name key)
      (value : Spells spelling (.padded json))
      (later : Spells more (.members members)) :
      Spells (name ++ ':' :: (spelling ++ ',' :: more)) (.members ((key, json) :: members))

theorem SpellsKey.bare
    {spelling : List Char}
    {key : Option String}
    (spelled : SpellsString spelling key) :
    SpellsKey spelling key := by
  have padded := SpellsKey.padded isBlank_nil spelled isBlank_nil
  rwa [List.nil_append, List.append_nil] at padded

theorem Spells.bare
    {spelling : List Char}
    {json : Json}
    (value : Spells spelling (.value json)) :
    Spells spelling (.padded json) := by
  have padded := Spells.padded isBlank_nil value isBlank_nil
  rwa [List.nil_append, List.append_nil] at padded

/-! ## Spellings are read -/

theorem readValue?_of_dropSpace
    {text other : List Char}
    (same : dropSpace text = dropSpace other)
    (rounds : Nat) :
    readValue? rounds text = readValue? rounds other := by
  cases rounds with
  | zero => rw [readValue?, readValue?]
  | succ rounds => rw [readValue?, readValue?, same]

theorem readElements?_of_dropSpace
    {text other : List Char}
    (same : dropSpace text = dropSpace other)
    (rounds : Nat) :
    readElements? rounds text = readElements? rounds other := by
  cases rounds with
  | zero => rw [readElements?, readElements?]
  | succ rounds => rw [readElements?, readElements?, readValue?_of_dropSpace same]

theorem readMembers?_of_dropSpace
    {text other : List Char}
    (same : dropSpace text = dropSpace other)
    (rounds : Nat) :
    readMembers? rounds text = readMembers? rounds other := by
  cases rounds with
  | zero => rw [readMembers?, readMembers?]
  | succ rounds => rw [readMembers?, readMembers?, same]

/-- What begins with a minus sign or a digit is read as a number. -/
theorem readValue?_number
    {first : Char}
    (starts : first = '-' ∨ first.isDigit = true)
    (rounds : Nat)
    (more : List Char) :
    readValue? (rounds + 1) (first :: more) = readNumber? (first :: more) := by
  have solid : isSpace first = false := by
    by_contra space
    simp only [isSpace, Bool.not_eq_false, Bool.or_eq_true, beq_iff_eq] at space
    rcases space with ((rfl | rfl) | rfl) | rfl <;> exact absurd starts (by decide)
  rw [readValue?, dropSpace_cons solid]
  -- No other value begins with such a character.
  split
  case h_7 => rfl
  all_goals
    rename_i same
    cases same
    exact absurd starts (by decide)

/-- No array begins with its closing bracket. -/
theorem readElements?_closed
    {text tail : List Char}
    (closed : dropSpace text = ']' :: tail)
    (rounds : Nat) :
    readElements? rounds text = none := by
  cases rounds with
  | zero => rw [readElements?]
  | succ rounds =>
      have noValue : readValue? rounds text = none := by
        cases rounds with
        | zero => rw [readValue?]
        | succ rounds =>
            rw [readValue?, closed]
            rfl
      rw [readElements?, noValue]
      rfl

/-- No object begins with its closing brace. -/
theorem readMembers?_closed
    {text tail : List Char}
    (closed : dropSpace text = '\x7d' :: tail)
    (rounds : Nat) :
    readMembers? rounds text = none := by
  cases rounds with
  | zero => rw [readMembers?]
  | succ rounds =>
      rw [readMembers?, closed]
      rfl

/--
The reader gets a part back from its spelling, with any text behind it that does not carry a
number on, in enough rounds.  Behind a value with white space around it, the reader may leave
the white space.
-/
def Piece.IsRead (spelling : List Char) : Piece → Prop
  | .value json =>
      ∀ rounds rest, IsApart rest → spelling.length ≤ rounds →
        readValue? rounds (spelling ++ rest) = some (json, rest)
  | .padded json =>
      ∀ rounds rest, IsApart rest → spelling.length ≤ rounds →
        ∃ tail, dropSpace tail = dropSpace rest ∧
          readValue? rounds (spelling ++ rest) = some (json, tail)
  | .elements jsons =>
      ∀ rounds rest, spelling.length < rounds →
        readElements? rounds (spelling ++ ']' :: rest) = some (jsons, rest)
  | .members entries =>
      ∀ rounds rest, spelling.length < rounds →
        readMembers? rounds (spelling ++ '\x7d' :: rest) = some (entries, rest)

section List

variable
    {rounds : Nat}
    {text tail rest more : List Char}
    {json : Json}
    (read : readValue? rounds text = some (json, tail))

include read

theorem readElements?_last
    (closes : dropSpace tail = ']' :: rest) :
    readElements? (rounds + 1) text = some ([json], rest) := by
  simp [readElements?, read, closes]

theorem readElements?_further
    {elements : List Json}
    (goesOn : dropSpace tail = ',' :: more)
    (later : readElements? rounds more = some (elements, rest)) :
    readElements? (rounds + 1) text = some (json :: elements, rest) := by
  simp [readElements?, read, goesOn, later]

variable
    {name : List Char}
    {key : Option String}
    (named : SpellsKey name key)

include named

/-- A key is read together with the value behind it. -/
theorem readMembers?_member :
    readMembers? (rounds + 1) (name ++ ':' :: text) =
      match dropSpace tail with
      | '\x7d' :: rest => some ([(key, json)], rest)
      | ',' :: more => do
          let (members, rest) ← readMembers? rounds more
          return ((key, json) :: members, rest)
      | _ => none := by
  obtain ⟨blankBefore, ⟨spelled⟩, blankBehind⟩ := named
  have colon := dropSpace_append_cons blankBehind (show isSpace ':' = false from rfl)
  rw [List.append_assoc, List.append_assoc, List.cons_append, readMembers?,
    dropSpace_append_cons blankBefore rfl, List.append_assoc, List.singleton_append]
  simp only [readString?_append spelled, Option.bind_eq_bind, Option.bind_some, colon, read]
  rfl

theorem readMembers?_last
    (closes : dropSpace tail = '\x7d' :: rest) :
    readMembers? (rounds + 1) (name ++ ':' :: text) = some ([(key, json)], rest) := by
  simp [readMembers?_member read named, closes]

theorem readMembers?_further
    {members : List (Option String × Json)}
    (goesOn : dropSpace tail = ',' :: more)
    (later : readMembers? rounds more = some (members, rest)) :
    readMembers? (rounds + 1) (name ++ ':' :: text) = some ((key, json) :: members, rest) := by
  simp [readMembers?_member read named, goesOn, later]

end List

theorem readValue?_bracket
    (rounds : Nat)
    (text : List Char) :
    readValue? (rounds + 1) ('[' :: text) =
      match dropSpace text with
      | ']' :: tail => some (.array [], tail)
      | inner =>
          (readElements? rounds inner).map fun (elements, tail) => (.array elements, tail) := by
  rw [readValue?, dropSpace_cons rfl]
  rfl

theorem readValue?_brace
    (rounds : Nat)
    (text : List Char) :
    readValue? (rounds + 1) ('\x7b' :: text) =
      match dropSpace text with
      | '\x7d' :: tail => some (.object [], tail)
      | inner =>
          (readMembers? rounds inner).map fun (members, tail) => (.object members, tail) := by
  rw [readValue?, dropSpace_cons rfl]
  rfl

theorem readValue?_array
    {rounds : Nat}
    {text rest : List Char}
    {elements : List Json}
    (read : readElements? rounds text = some (elements, rest)) :
    readValue? (rounds + 1) ('[' :: text) = some (.array elements, rest) := by
  rw [readValue?_bracket]
  split
  · rename_i tail closed
    rw [readElements?_closed closed] at read
    cases read
  · rw [readElements?_of_dropSpace (dropSpace_dropSpace text), read]
    rfl

theorem readValue?_object
    {rounds : Nat}
    {text rest : List Char}
    {members : List (Option String × Json)}
    (read : readMembers? rounds text = some (members, rest)) :
    readValue? (rounds + 1) ('\x7b' :: text) = some (.object members, rest) := by
  rw [readValue?_brace]
  split
  · rename_i tail closed
    rw [readMembers?_closed closed] at read
    cases read
  · rw [readMembers?_of_dropSpace (dropSpace_dropSpace text), read]
    rfl

/-- There is a round for the first character of a text, and enough rounds for the others. -/
theorem exists_rounds
    {size rounds : Nat}
    (enough : size < rounds) :
    ∃ fewer, rounds = fewer + 1 ∧ size ≤ fewer :=
  ⟨rounds - 1, by omega, by omega⟩

/-- Every spelling is read as what it spells. -/
theorem Spells.isRead
    {spelling : List Char}
    {piece : Piece}
    (spells : Spells spelling piece) :
    piece.IsRead spelling := by
  induction spells with
  | null | true | false =>
      intro rounds rest apart enough
      obtain ⟨rounds, rfl, enough⟩ := exists_rounds enough
      rw [readValue?, List.cons_append, dropSpace_cons rfl]
      rfl
  | @number spelling number =>
      intro rounds rest apart enough
      obtain ⟨first, more, rfl, starts⟩ := number.exists_first
      obtain ⟨rounds, rfl, enough⟩ := exists_rounds enough
      rw [List.cons_append, readValue?_number starts, ← List.cons_append]
      exact readNumber?_append number apart
  | string spelled =>
      intro rounds rest apart enough
      rcases spelled with ⟨spelled⟩
      obtain ⟨rounds, rfl, enough⟩ := exists_rounds enough
      rw [List.cons_append, List.append_assoc, readValue?, dropSpace_cons rfl]
      simp only [List.singleton_append, readString?_append spelled]
      rfl
  | @emptyArray space blank =>
      intro rounds rest apart enough
      obtain ⟨rounds, rfl, enough⟩ := exists_rounds enough
      rw [List.cons_append, List.append_assoc, List.singleton_append, readValue?_bracket,
        dropSpace_append_cons blank rfl]
      rfl
  | @array spelling elements inside ih =>
      intro rounds rest apart enough
      simp only [List.length_cons, List.length_append, List.length_nil] at enough
      obtain ⟨rounds, rfl, enough⟩ := exists_rounds enough
      rw [List.cons_append, List.append_assoc]
      exact readValue?_array (ih rounds rest (by omega))
  | @emptyObject space blank =>
      intro rounds rest apart enough
      obtain ⟨rounds, rfl, enough⟩ := exists_rounds enough
      rw [List.cons_append, List.append_assoc, List.singleton_append, readValue?_brace,
        dropSpace_append_cons blank rfl]
      rfl
  | @object spelling members inside ih =>
      intro rounds rest apart enough
      simp only [List.length_cons, List.length_append, List.length_nil] at enough
      obtain ⟨rounds, rfl, enough⟩ := exists_rounds enough
      rw [List.cons_append, List.append_assoc]
      exact readValue?_object (ih rounds rest (by omega))
  | @padded before spelling behind json blankBefore value blankBehind ih =>
      intro rounds rest apart enough
      simp only [List.length_append] at enough
      refine ⟨behind ++ rest, dropSpace_append blankBehind rest, ?_⟩
      rw [List.append_assoc, List.append_assoc,
        readValue?_of_dropSpace (dropSpace_append blankBefore _)]
      exact ih rounds _ (isApart_blank_append blankBehind apart) (by omega)
  | lastElement element ih =>
      intro rounds rest enough
      obtain ⟨rounds, rfl, enough⟩ := exists_rounds enough
      obtain ⟨tail, same, read⟩ := ih rounds (']' :: rest) (isApart_cons rfl _) (by omega)
      exact readElements?_last read same
  | element element later ih ihLater =>
      intro rounds rest enough
      simp only [List.length_append, List.length_cons] at enough
      obtain ⟨rounds, rfl, enough⟩ := exists_rounds enough
      rw [List.append_assoc, List.cons_append]
      obtain ⟨tail, same, read⟩ := ih rounds (',' :: _) (isApart_cons rfl _) (by omega)
      exact readElements?_further read same (ihLater rounds rest (by omega))
  | lastMember named value ih =>
      intro rounds rest enough
      simp only [List.length_append, List.length_cons] at enough
      obtain ⟨rounds, rfl, enough⟩ := exists_rounds enough
      rw [List.append_assoc, List.cons_append]
      obtain ⟨tail, same, read⟩ := ih rounds ('\x7d' :: rest) (isApart_cons rfl _) (by omega)
      exact readMembers?_last read named same
  | member named value later ih ihLater =>
      intro rounds rest enough
      simp only [List.length_append, List.length_cons] at enough
      obtain ⟨rounds, rfl, enough⟩ := exists_rounds enough
      rw [List.append_assoc, List.cons_append, List.append_assoc, List.cons_append]
      obtain ⟨tail, same, read⟩ := ih rounds (',' :: _) (isApart_cons rfl _) (by omega)
      exact readMembers?_further read named same (ihLater rounds rest (by omega))

/-! ## What is read is a spelling -/

/-- What the readers take off a text in so many rounds is a spelling. -/
structure ReadsSpellings (rounds : Nat) : Prop where
  value :
    ∀ {text rest json},
      readValue? rounds text = some (json, rest) →
        ∃ space spelling,
          IsBlank space ∧ Spells spelling (.value json) ∧ text = space ++ spelling ++ rest
  elements :
    ∀ {text rest elements},
      readElements? rounds text = some (elements, rest) →
        ∃ spelling, Spells spelling (.elements elements) ∧ text = spelling ++ ']' :: rest
  members :
    ∀ {text rest members},
      readMembers? rounds text = some (members, rest) →
        ∃ spelling, Spells spelling (.members members) ∧ text = spelling ++ '\x7d' :: rest

theorem readsSpellings_zero : ReadsSpellings 0 where
  value := by
    intro text rest json read
    rw [readValue?] at read
    cases read
  elements := by
    intro text rest elements read
    rw [readElements?] at read
    cases read
  members := by
    intro text rest members read
    rw [readMembers?] at read
    cases read

section Step

variable
    {rounds : Nat}
    (shorter : ReadsSpellings rounds)

include shorter

/-- A value that is read up to a character is spelled with white space around it. -/
theorem ReadsSpellings.padded
    {text rest tail : List Char}
    {json : Json}
    {character : Char}
    (read : readValue? rounds text = some (json, rest))
    (reached : dropSpace rest = character :: tail) :
    ∃ spelling, Spells spelling (.padded json) ∧ text = spelling ++ character :: tail := by
  obtain ⟨before, spelling, blankBefore, spelled, rfl⟩ := shorter.value read
  obtain ⟨behind, blankBehind, whole⟩ := exists_dropSpace rest
  rw [reached] at whole
  refine ⟨_, .padded blankBefore spelled blankBehind, ?_⟩
  rw [whole]
  simp only [List.append_assoc]

theorem ReadsSpellings.value_succ
    {text rest : List Char}
    {json : Json}
    (read : readValue? (rounds + 1) text = some (json, rest)) :
    ∃ space spelling,
      IsBlank space ∧ Spells spelling (.value json) ∧ text = space ++ spelling ++ rest := by
  obtain ⟨space, blank, whole⟩ := exists_dropSpace text
  suffices ∃ spelling, Spells spelling (.value json) ∧ dropSpace text = spelling ++ rest by
    obtain ⟨spelling, spelled, same⟩ := this
    exact ⟨space, spelling, blank, spelled, by rw [whole, same, List.append_assoc]⟩
  rw [readValue?] at read
  split at read
  · rename_i behind same
    cases read
    exact ⟨_, .null, same⟩
  · rename_i behind same
    cases read
    exact ⟨_, .true, same⟩
  · rename_i behind same
    cases read
    exact ⟨_, .false, same⟩
  · rename_i behind same
    rw [Option.map_eq_some_iff] at read
    obtain ⟨⟨content, tail⟩, readString, last⟩ := read
    cases last
    obtain ⟨spelling, spelled, whole⟩ := readString?_eq_some readString
    exact ⟨spelling, .string spelled, by rw [same, whole]⟩
  · rename_i behind same
    split at read
    · rename_i tail closed
      cases read
      obtain ⟨inside, blankInside, whole⟩ := exists_dropSpace behind
      refine ⟨_, .emptyArray blankInside, ?_⟩
      rw [same, whole, closed]
      simp
    · rw [Option.map_eq_some_iff] at read
      obtain ⟨⟨elements, tail⟩, readElements, last⟩ := read
      cases last
      rw [readElements?_of_dropSpace (dropSpace_dropSpace behind)] at readElements
      obtain ⟨spelling, spelled, rfl⟩ := shorter.elements readElements
      exact ⟨_, .array spelled, by simp [same]⟩
  · rename_i behind same
    split at read
    · rename_i tail closed
      cases read
      obtain ⟨inside, blankInside, whole⟩ := exists_dropSpace behind
      refine ⟨_, .emptyObject blankInside, ?_⟩
      rw [same, whole, closed]
      simp
    · rw [Option.map_eq_some_iff] at read
      obtain ⟨⟨members, tail⟩, readMembers, last⟩ := read
      cases last
      rw [readMembers?_of_dropSpace (dropSpace_dropSpace behind)] at readMembers
      obtain ⟨spelling, spelled, rfl⟩ := shorter.members readMembers
      exact ⟨_, .object spelled, by simp [same]⟩
  · obtain ⟨spelling, number, rfl, whole⟩ := readNumber?_eq_some read
    exact ⟨spelling, .number number, whole⟩

theorem ReadsSpellings.elements_succ
    {text rest : List Char}
    {elements : List Json}
    (read : readElements? (rounds + 1) text = some (elements, rest)) :
    ∃ spelling, Spells spelling (.elements elements) ∧ text = spelling ++ ']' :: rest := by
  simp only [readElements?, Option.bind_eq_bind, Option.bind_eq_some_iff, Prod.exists] at read
  obtain ⟨element, behind, readElement, last⟩ := read
  split at last
  · rename_i tail closed
    cases last
    obtain ⟨spelling, spelled, rfl⟩ := shorter.padded readElement closed
    exact ⟨spelling, .lastElement spelled, rfl⟩
  · rename_i more goesOn
    simp only [Option.bind_eq_some_iff, Prod.exists] at last
    obtain ⟨others, tail, readOthers, last⟩ := last
    cases last
    obtain ⟨spelling, spelled, rfl⟩ := shorter.padded readElement goesOn
    obtain ⟨later, spelledLater, rfl⟩ := shorter.elements readOthers
    exact ⟨_, .element spelled spelledLater, by simp⟩
  · cases last

theorem ReadsSpellings.members_succ
    {text rest : List Char}
    {members : List (Option String × Json)}
    (read : readMembers? (rounds + 1) text = some (members, rest)) :
    ∃ spelling, Spells spelling (.members members) ∧ text = spelling ++ '\x7d' :: rest := by
  rw [readMembers?] at read
  split at read
  case h_2 => cases read
  rename_i inner opened
  simp only [Option.bind_eq_bind, Option.bind_eq_some_iff, Prod.exists] at read
  obtain ⟨key, afterKey, readKey, last⟩ := read
  split at last
  case h_2 => cases last
  rename_i afterColon colon
  have named : ∃ name, SpellsKey name key ∧ text = name ++ ':' :: afterColon := by
    obtain ⟨before, blankBefore, whole⟩ := exists_dropSpace text
    obtain ⟨behind, blankBehind, wholeBehind⟩ := exists_dropSpace afterKey
    obtain ⟨spelling, spelled, same⟩ := readString?_eq_some readKey
    refine ⟨_, .padded blankBefore spelled blankBehind, ?_⟩
    rw [colon] at wholeBehind
    rw [opened, same, wholeBehind] at whole
    rw [whole]
    simp only [List.append_assoc]
  obtain ⟨name, named, rfl⟩ := named
  simp only [Option.bind_eq_some_iff, Prod.exists] at last
  obtain ⟨json, behind, readValue, last⟩ := last
  split at last
  · rename_i tail closed
    cases last
    obtain ⟨spelling, spelled, rfl⟩ := shorter.padded readValue closed
    exact ⟨_, .lastMember named spelled, by simp⟩
  · rename_i more goesOn
    simp only [Option.bind_eq_some_iff, Prod.exists] at last
    obtain ⟨others, tail, readOthers, last⟩ := last
    cases last
    obtain ⟨spelling, spelled, rfl⟩ := shorter.padded readValue goesOn
    obtain ⟨later, spelledLater, rfl⟩ := shorter.members readOthers
    exact ⟨_, .member named spelled spelledLater, by simp⟩
  · cases last

end Step

theorem readsSpellings
    (rounds : Nat) :
    ReadsSpellings rounds := by
  induction rounds with
  | zero => exact readsSpellings_zero
  | succ rounds ih => exact ⟨ih.value_succ, ih.elements_succ, ih.members_succ⟩

/-- Exactly the spellings of a value with white space around them are read, as the value. -/
theorem read?_eq_some_iff
    {text : List Char}
    {json : Json} :
    read? text = some json ↔ Spells text (.padded json) := by
  constructor
  · intro read
    rw [read?] at read
    split at read
    · rename_i value rest readValue
      split_ifs at read with done
      cases read
      obtain ⟨before, spelling, blankBefore, spelled, rfl⟩ := (readsSpellings _).value readValue
      obtain ⟨behind, blankBehind, whole⟩ := exists_dropSpace rest
      rw [List.isEmpty_iff.1 done, List.append_nil] at whole
      rw [whole]
      exact .padded blankBefore spelled blankBehind
    · cases read
  · intro spelled
    obtain ⟨tail, same, read⟩ :=
      spelled.isRead (2 * text.length + 1) [] isApart_nil (by omega)
    rw [List.append_nil] at read
    rw [read?, read]
    simp only [same]
    rfl

end CallScript.Json
