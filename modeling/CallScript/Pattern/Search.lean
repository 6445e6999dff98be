import CallScript.Pattern.Matching

/-!
# Searching a text

A search looks for the first place where an expression matches and takes the
preferred match there.  The hits of an expression are its successive matches:
each search begins where the last match ended, and a match that takes no
character is passed over when it stands directly behind the match before it.

Each hit is stored together with the text that the search skipped, so the
skipped and the matched parts, followed by the tail, make up the text.
-/

namespace CallScript.Pattern

/-- The expression matches somewhere in the text. -/
def Expr.isFoundAfter (expr : Expr) (before : Option Char) : List Char → Bool
  | [] => (expr.matchLength? before []).isSome
  | character :: rest =>
      (expr.matchLength? before (character :: rest)).isSome ||
        expr.isFoundAfter (some character) rest

/-- The expression matches somewhere in a whole text. -/
def Expr.isFoundIn (expr : Expr) (text : List Char) : Bool :=
  expr.isFoundAfter none text

/-- A match in a text, with the text that was skipped to reach it. -/
structure Hit where
  /-- The text between the end of the last match and this one. -/
  skipped : List Char
  /-- The matched text. -/
  matched : List Char
  deriving DecidableEq

/-- The hit when one more character was skipped in front of it. -/
def Hit.after (character : Char) (hit : Hit) : Hit :=
  { hit with skipped := character :: hit.skipped }

/-- The text up to the end of the hit. -/
def Hit.passed (hit : Hit) : List Char :=
  hit.skipped ++ hit.matched

/--
The first hit of an expression at or behind a place, and the text behind it.
At a place that is closed to empty matches, an empty match is passed over.
-/
def Expr.firstHit? (expr : Expr) (before : Option Char) (closed : Bool) :
    List Char → Option (Hit × List Char)
  | [] =>
      match expr.matchLength? before [] with
      | some _ => if closed then none else some (⟨[], []⟩, [])
      | none => none
  | character :: rest =>
      let further :=
        (expr.firstHit? (some character) false rest).map fun (hit, tail) =>
          (hit.after character, tail)
      match expr.matchLength? before (character :: rest) with
      | some length =>
          if length = 0 && closed then further
          else some (⟨[], (character :: rest).take length⟩, (character :: rest).drop length)
      | none => further

/-- The character at the end of a text, or the one before the text when it is empty. -/
def lastOr (before : Option Char) (text : List Char) : Option Char :=
  match text.getLast? with
  | some character => some character
  | none => before

/-- In an empty text, the only hit is empty, at a place that is not closed. -/
theorem Expr.firstHit?_nil
    {expr : Expr}
    {before : Option Char}
    {closed : Bool}
    {tail : List Char}
    {hit : Hit}
    (found : expr.firstHit? before closed [] = some (hit, tail)) :
    hit = ⟨[], []⟩ ∧ tail = [] ∧ closed = false := by
  simp only [firstHit?] at found
  split at found
  · split at found
    · cases found
    · rename_i _ opened
      cases found
      exact ⟨rfl, rfl, by simpa using opened⟩
  · cases found

/--
The first hit in a text stands at its start, unless it is empty and passed over
there, or is the first hit behind the first character.
-/
theorem Expr.firstHit?_cons
    {expr : Expr}
    {before : Option Char}
    {closed : Bool}
    {character : Char}
    {rest tail : List Char}
    {hit : Hit}
    (found : expr.firstHit? before closed (character :: rest) = some (hit, tail)) :
    (∃ length,
        expr.matchLength? before (character :: rest) = some length ∧
          (closed = true → 0 < length) ∧
          hit = ⟨[], (character :: rest).take length⟩ ∧
          tail = (character :: rest).drop length) ∨
      ∃ later,
        (∀ length, expr.matchLength? before (character :: rest) ≠ some (length + 1)) ∧
          expr.firstHit? (some character) false rest = some (later, tail) ∧
          hit = later.after character := by
  simp only [firstHit?] at found
  split at found
  · rename_i length chosen
    split at found
    · rename_i passedOver
      obtain ⟨⟨later, laterTail⟩, laterFound, equal⟩ := Option.map_eq_some_iff.1 found
      cases equal
      refine .inr ⟨later, ?_, laterFound, rfl⟩
      intro further taking
      rw [chosen] at taking
      cases taking
      simp at passedOver
    · rename_i kept
      cases found
      refine .inl ⟨length, chosen, ?_, rfl, rfl⟩
      rintro rfl
      exact Nat.pos_of_ne_zero (by simpa using kept)
  · rename_i chosen
    obtain ⟨⟨later, laterTail⟩, laterFound, equal⟩ := Option.map_eq_some_iff.1 found
    cases equal
    exact .inr ⟨later, by simp [chosen], laterFound, rfl⟩

/-- A hit and the text behind it are no longer than the searched text. -/
theorem Expr.length_of_firstHit?
    {expr : Expr}
    {before : Option Char}
    {closed : Bool}
    {text tail : List Char}
    {hit : Hit}
    (found : expr.firstHit? before closed text = some (hit, tail)) :
    hit.passed.length + tail.length = text.length := by
  induction text generalizing before closed hit tail with
  | nil =>
      obtain ⟨rfl, rfl, -⟩ := firstHit?_nil found
      rfl
  | cons character rest ih =>
      rcases firstHit?_cons found with ⟨length, -, -, rfl, rfl⟩ | ⟨later, -, laterFound, rfl⟩
      · simp only [Hit.passed, List.nil_append, List.length_take, List.length_drop]
        omega
      · have laterLength := ih laterFound
        simp only [Hit.passed, Hit.after, List.length_append, List.length_cons] at laterLength ⊢
        omega

/-- A hit at a place that is closed to empty matches takes a character. -/
theorem Expr.passed_of_firstHit?
    {expr : Expr}
    {before : Option Char}
    {text tail : List Char}
    {hit : Hit}
    (found : expr.firstHit? before true text = some (hit, tail)) :
    0 < hit.passed.length := by
  cases text with
  | nil =>
      obtain ⟨-, -, opened⟩ := firstHit?_nil found
      cases opened
  | cons character rest =>
      rcases firstHit?_cons found with ⟨length, -, taking, rfl, rfl⟩ | ⟨later, -, -, rfl⟩
      · have positive := taking rfl
        simp only [Hit.passed, List.nil_append, List.length_take, List.length_cons]
        omega
      · simp [Hit.passed, Hit.after]

/--
The successive hits of an expression behind a place, and the text behind the
last of them.
-/
def Expr.hitsFrom
    (expr : Expr)
    (before : Option Char)
    (closed : Bool)
    (text : List Char) : List Hit × List Char :=
  match _found : expr.firstHit? before closed text with
  | none => ([], text)
  | some (hit, tail) =>
      let (hits, rest) := expr.hitsFrom (lastOr before hit.passed) true tail
      (hit :: hits, rest)
termination_by (text.length, if closed then 0 else 1)
decreasing_by
  have lengths := length_of_firstHit? _found
  cases closed with
  | true =>
      have := passed_of_firstHit? _found
      exact Prod.Lex.left _ _ (by omega)
  | false =>
      by_cases empty : hit.passed.length = 0
      · rw [show tail.length = text.length by omega]
        exact Prod.Lex.right _ (by simp)
      · exact Prod.Lex.left _ _ (by omega)

/-- The successive hits of an expression in a whole text, and the text behind the last. -/
def Expr.hitsIn (expr : Expr) (text : List Char) : List Hit × List Char :=
  expr.hitsFrom none false text

/-- The matched texts of the successive hits. -/
def Expr.matchesIn (expr : Expr) (text : List Char) : List (List Char) :=
  (expr.hitsIn text).1.map Hit.matched

end CallScript.Pattern
