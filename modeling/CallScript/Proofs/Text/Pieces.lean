import CallScript.Text.Blank
import Mathlib.Data.List.Basic

/-!
# Pieces and trimmed texts

What is lost when a text is cut at a separator or trimmed: one separator in
front of each piece but the first, and white space at the ends.
-/

namespace CallScript.Text

/-- The pieces with a separator in front of each but the first make up the text. -/
theorem exists_splitOn
    (separator : Char)
    (text : List Char) :
    ∃ piece pieces,
      text.splitOn separator = piece :: pieces ∧
        text = piece ++ pieces.flatMap (separator :: ·) := by
  induction text with
  | nil => exact ⟨[], [], rfl, rfl⟩
  | cons character rest ih =>
      rcases ih with ⟨piece, pieces, cut, joined⟩
      rw [List.splitOn_cons_eq_if_modifyHead, cut]
      split
      · rename_i separates
        refine ⟨[], piece :: pieces, rfl, ?_⟩
        rw [List.flatMap_cons, List.nil_append, List.cons_append, ← joined,
          beq_iff_eq.1 separates]
      · refine ⟨character :: piece, pieces, rfl, ?_⟩
        rw [List.cons_append, ← joined]

theorem mem_of_mem_splitOn
    {separator : Char}
    {text piece : List Char}
    {character : Char}
    (listed : piece ∈ text.splitOn separator)
    (inside : character ∈ piece) :
    character ∈ text := by
  rcases exists_splitOn separator text with ⟨first, pieces, cut, joined⟩
  rw [cut] at listed
  rw [joined, List.mem_append]
  rcases List.mem_cons.1 listed with rfl | later
  · exact .inl inside
  · exact .inr (List.mem_flatMap.2 ⟨piece, later, List.mem_cons_of_mem _ inside⟩)

theorem separator_notMem_of_mem_splitOn
    {separator : Char}
    {text piece : List Char}
    (listed : piece ∈ text.splitOn separator) :
    separator ∉ piece := by
  induction text generalizing piece with
  | nil =>
      rw [List.splitOn_nil, List.mem_singleton] at listed
      subst listed
      exact List.not_mem_nil
  | cons character rest ih =>
      rcases exists_splitOn separator rest with ⟨first, pieces, cut, -⟩
      rw [List.splitOn_cons_eq_if_modifyHead, cut] at listed
      rw [cut] at ih
      split at listed
      · rcases List.mem_cons.1 listed with rfl | later
        · exact List.not_mem_nil
        · exact ih later
      · rename_i other
        rcases List.mem_cons.1 listed with rfl | later
        · rw [List.mem_cons, not_or]
          exact ⟨Ne.symm (mt beq_iff_eq.2 other), ih List.mem_cons_self⟩
        · exact ih (List.mem_cons_of_mem _ later)

theorem mem_intercalate
    {separator character : Char}
    {pieces : List (List Char)}
    (inside : character ∈ [separator].intercalate pieces) :
    character = separator ∨ ∃ piece ∈ pieces, character ∈ piece := by
  induction pieces with
  | nil => cases inside
  | cons piece pieces ih =>
      cases pieces with
      | nil =>
          rw [List.intercalate_singleton] at inside
          exact .inr ⟨piece, List.mem_singleton_self _, inside⟩
      | cons next pieces =>
          rw [List.intercalate_cons_cons, List.mem_append, List.mem_append,
            List.mem_singleton] at inside
          rcases inside with (here | separates) | later
          · exact .inr ⟨piece, List.mem_cons_self, here⟩
          · exact .inl separates
          · exact (ih later).imp_right fun ⟨other, listed, inOther⟩ =>
              ⟨other, List.mem_cons_of_mem _ listed, inOther⟩

theorem trimEnd_append
    (text : List Char) :
    trimEnd text ++ (text.reverse.takeWhile isBlank).reverse = text := by
  rw [trimEnd, ← List.reverse_append, List.takeWhile_append_dropWhile, List.reverse_reverse]

/-- A text is its trimmed form with white space around it. -/
theorem exists_trim
    (text : List Char) :
    ∃ front behind,
      (∀ character ∈ front, isBlank character = true) ∧
        (∀ character ∈ behind, isBlank character = true) ∧
        text = front ++ (trim text ++ behind) := by
  refine ⟨text.takeWhile isBlank, ((trimStart text).reverse.takeWhile isBlank).reverse,
    List.all_eq_true.1 List.all_takeWhile, ?_, ?_⟩
  · intro character inside
    exact List.all_eq_true.1 List.all_takeWhile character (List.mem_reverse.1 inside)
  · rw [trim, trimEnd_append, trimStart, List.takeWhile_append_dropWhile]

/-- The second text is the first one without the white space at its ends. -/
structure IsTrimmed (text trimmed : List Char) : Prop where
  /-- Only white space is lost. -/
  whole :
    ∃ front behind,
      (∀ character ∈ front, isBlank character = true) ∧
        (∀ character ∈ behind, isBlank character = true) ∧
        text = front ++ (trimmed ++ behind)
  /-- None is left in front. -/
  first : ∀ character, trimmed.head? = some character → isBlank character = false
  /-- None is left behind. -/
  last : ∀ character, trimmed.getLast? = some character → isBlank character = false

theorem isTrimmed_trim
    (text : List Char) :
    IsTrimmed text (trim text) := by
  have stops
      (rest : List Char)
      (character : Char)
      (first : (rest.dropWhile isBlank).head? = some character) :
      isBlank character = false := by
    have visible := List.head?_dropWhile_not isBlank rest
    rw [first] at visible
    exact visible
  constructor
  · exact exists_trim text
  · intro character first
    have starts : (trimStart text).head? = some character := by
      rw [← trimEnd_append (trimStart text), List.head?_append, ← trim, first]
      rfl
    exact stops text character starts
  · intro character last
    rw [trim, trimEnd, List.getLast?_reverse] at last
    exact stops _ character last

/-- White space around a text that neither starts nor ends with any is all that is removed. -/
theorem trim_append
    {front middle behind : List Char}
    (frontBlank : ∀ character ∈ front, isBlank character = true)
    (behindBlank : ∀ character ∈ behind, isBlank character = true)
    (nonempty : middle ≠ [])
    (first : ∀ character ∈ middle.head?, isBlank character = false)
    (last : ∀ character ∈ middle.getLast?, isBlank character = false) :
    trim (front ++ (middle ++ behind)) = middle := by
  have start : trimStart (front ++ (middle ++ behind)) = middle ++ behind := by
    rw [trimStart, List.dropWhile_append_of_pos frontBlank]
    cases middle with
    | nil => exact absurd rfl nonempty
    | cons character middle => simp [first character rfl]
  have back : ∀ character ∈ behind.reverse, isBlank character = true := fun character member =>
    behindBlank character (List.mem_reverse.1 member)
  rw [trim, start, trimEnd, List.reverse_append, List.dropWhile_append_of_pos back]
  rw [List.getLast?_eq_head?_reverse] at last
  cases reversed : middle.reverse with
  | nil => exact absurd (List.reverse_eq_nil_iff.1 reversed) nonempty
  | cons character rest =>
      rw [reversed] at last
      rw [List.dropWhile_cons_of_neg (by simp [last character rfl]), ← reversed,
        List.reverse_reverse]

/-- A text between two visible characters has nothing to trim. -/
theorem trim_eq_self_of_ends
    {text : List Char}
    (first : ∀ character ∈ text.head?, isBlank character = false)
    (last : ∀ character ∈ text.getLast?, isBlank character = false) :
    trim text = text := by
  by_cases empty : text = []
  · rw [empty]
    rfl
  · have trimmed : trim ([] ++ (text ++ [])) = text :=
      trim_append (List.forall_mem_nil _) (List.forall_mem_nil _) empty first last
    rwa [List.append_nil] at trimmed

theorem trim_eq_self
    {text : List Char}
    (visible : ∀ character ∈ text, isBlank character = false) :
    trim text = text := by
  apply trim_eq_self_of_ends
  · intro character first
    exact visible character (List.mem_of_head? first)
  · intro character last
    exact visible character (List.mem_of_getLast? last)

theorem mem_of_mem_trim
    {text : List Char}
    {character : Char}
    (inside : character ∈ trim text) :
    character ∈ text := by
  rcases exists_trim text with ⟨front, behind, -, -, whole⟩
  rw [whole]
  exact List.mem_append_right _ (List.mem_append_left _ inside)

end CallScript.Text
