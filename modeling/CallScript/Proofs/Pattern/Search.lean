import CallScript.Pattern.Search

/-!
# The first match that takes a character

A scan asks an expression for the first of its successive matches that takes a
character.  The hits of an expression are found one after another, each search
beginning where the last hit ended; this file shows that the empty ones among
them change nothing.  The main statement, `Expr.firstTaking?_eq_search?`, says
that the first taking hit stands at the first place whose preferred match takes
a character.

It also shows that a hit is a piece of the text: with what was skipped to reach it
and what stands behind it, it makes up the text.
-/

namespace CallScript.Pattern

/-- The hits of a text, each with all the text in front of it. -/
def Hit.placedBehind (passed : List Char) : List Hit → List Hit
  | [] => []
  | hit :: hits =>
      ⟨passed ++ hit.skipped, hit.matched⟩ :: Hit.placedBehind (passed ++ hit.passed) hits

/--
The first of the successive hits in a text that takes a character, with all the
text in front of it.
-/
def Expr.firstTaking? (expr : Expr) (text : List Char) : Option Hit :=
  (Hit.placedBehind [] (expr.hitsIn text).1).find? fun hit => !hit.matched.isEmpty

/-- The preferred match at the first place where it takes a character. -/
def Expr.search? (expr : Expr) (before : Option Char) : List Char → Option Hit
  | [] => none
  | character :: rest =>
      match expr.matchLength? before (character :: rest) with
      | some (length + 1) => some ⟨[], (character :: rest).take (length + 1)⟩
      | _ => (expr.search? (some character) rest).map (Hit.after character)

def Hit.behind (passed : List Char) (hit : Hit) : Hit :=
  ⟨passed ++ hit.skipped, hit.matched⟩

theorem Hit.behind_behind
    (first second : List Char)
    (hit : Hit) :
    (hit.behind second).behind first = hit.behind (first ++ second) := by
  simp [Hit.behind]

theorem Hit.passed_behind
    (passed : List Char)
    (hit : Hit) :
    (hit.behind passed).passed = passed ++ hit.passed := by
  simp [Hit.behind, Hit.passed]

@[simp]
theorem lastOr_nil
    (before : Option Char) :
    lastOr before [] = before := by
  rfl

@[simp]
theorem lastOr_cons
    (before : Option Char)
    (character : Char)
    (text : List Char) :
    lastOr before (character :: text) = lastOr (some character) text := by
  cases text with
  | nil => rfl
  | cons next rest => simp [lastOr, List.getLast?_cons]

theorem lastOr_append
    (before : Option Char)
    (front back : List Char) :
    lastOr before (front ++ back) = lastOr (lastOr before front) back := by
  induction front generalizing before with
  | nil => rfl
  | cons character front ih => rw [List.cons_append, lastOr_cons, lastOr_cons, ih]

theorem lastOr_congr
    {text : List Char}
    (nonempty : text ≠ [])
    (before other : Option Char) :
    lastOr before text = lastOr other text := by
  cases text with
  | nil => exact absurd rfl nonempty
  | cons character rest => rw [lastOr_cons, lastOr_cons]

theorem getLast?_of_lastOr
    {before : Option Char}
    {text : List Char}
    {character : Char}
    (last : lastOr before text = some character) :
    text.getLast? = some character ∨ text = [] ∧ before = some character := by
  rw [lastOr] at last
  split at last
  · rename_i some
    exact .inl (some.trans last)
  · rename_i none
    exact .inr ⟨List.getLast?_eq_none_iff.1 none, last⟩

/-- An expression is found in a text when it matches at one of its places. -/
theorem Expr.isFoundAfter_iff
    {expr : Expr}
    {before : Option Char}
    {text : List Char} :
    expr.isFoundAfter before text = true ↔
      ∃ front back,
        text = front ++ back ∧ (expr.matchLength? (lastOr before front) back).isSome = true := by
  induction text generalizing before with
  | nil =>
      rw [isFoundAfter]
      constructor
      · intro matched
        exact ⟨[], [], rfl, matched⟩
      · rintro ⟨front, back, whole, matched⟩
        obtain ⟨rfl, rfl⟩ := List.nil_eq_append_iff.1 whole
        exact matched
  | cons character rest ih =>
      rw [isFoundAfter, Bool.or_eq_true, ih]
      constructor
      · rintro (here | ⟨front, back, rfl, later⟩)
        · exact ⟨[], character :: rest, rfl, here⟩
        · exact ⟨character :: front, back, rfl, by rwa [lastOr_cons]⟩
      · rintro ⟨front, back, whole, matched⟩
        rcases List.cons_eq_append_iff.1 whole with ⟨rfl, rfl⟩ | ⟨front, rfl, rfl⟩
        · exact .inl matched
        · rw [lastOr_cons] at matched
          exact .inr ⟨front, back, rfl, matched⟩

theorem Expr.firstHit?_of_matched
    {expr : Expr}
    {before : Option Char}
    {front back : List Char}
    (nonempty : front ≠ [])
    (matched : expr.matchLength? before (front ++ back) = some front.length)
    (closed : Bool) :
    expr.firstHit? before closed (front ++ back) = some (⟨[], front⟩, back) := by
  cases front with
  | nil => exact absurd rfl nonempty
  | cons character front =>
      rw [List.cons_append] at matched ⊢
      simp [firstHit?, matched]

theorem Expr.firstHit?_of_unmatched
    {expr : Expr}
    {before : Option Char}
    {character : Char}
    {rest : List Char}
    (unmatched : expr.matchLength? before (character :: rest) = none)
    (closed : Bool) :
    expr.firstHit? before closed (character :: rest) =
      (expr.firstHit? (some character) false rest).map fun (hit, tail) =>
        (hit.after character, tail) := by
  simp only [firstHit?, unmatched]

/-- A search passes over a text at no place of which the expression matches. -/
theorem Expr.firstHit?_append_of_unmatched
    {expr : Expr}
    {before : Option Char}
    {front back : List Char}
    (unmatched :
      ∀ passed character rest,
        front = passed ++ character :: rest →
          expr.matchLength? (lastOr before passed) (character :: (rest ++ back)) = none)
    (closed : Bool) :
    expr.firstHit? before closed (front ++ back) =
      (expr.firstHit? (lastOr before front) (closed && front.isEmpty) back).map
        fun (hit, tail) => (hit.behind front, tail) := by
  induction front generalizing before closed with
  | nil =>
      rw [List.nil_append, lastOr_nil, List.isEmpty_nil, Bool.and_true]
      exact Option.map_id'.symm
  | cons character front ih =>
      have first : expr.matchLength? before (character :: (front ++ back)) = none :=
        unmatched [] character front rfl
      have later :
          ∀ passed other rest,
            front = passed ++ other :: rest →
              expr.matchLength? (lastOr (some character) passed) (other :: (rest ++ back)) =
                none := by
        rintro passed other rest rfl
        rw [← lastOr_cons before]
        exact unmatched (character :: passed) other rest rfl
      rw [List.cons_append, firstHit?_of_unmatched first, ih later, lastOr_cons,
        List.isEmpty_cons, Bool.and_false, Bool.false_and, Option.map_map]
      rfl

/-- A hit, what was skipped to reach it, and the text behind it make up the text. -/
theorem Expr.append_of_firstHit?
    {expr : Expr}
    {before : Option Char}
    {closed : Bool}
    {text tail : List Char}
    {hit : Hit}
    (found : expr.firstHit? before closed text = some (hit, tail)) :
    hit.passed ++ tail = text := by
  induction text generalizing before closed hit tail with
  | nil =>
      rcases firstHit?_nil found with ⟨rfl, rfl, -⟩
      rfl
  | cons character rest ih =>
      rcases firstHit?_cons found with ⟨length, -, -, rfl, rfl⟩ | ⟨later, -, laterFound, rfl⟩
      · simp [Hit.passed]
      · have laterText := ih laterFound
        simpa [Hit.passed, Hit.after] using laterText

theorem Expr.hitsFrom_of_none
    {expr : Expr}
    {before : Option Char}
    {closed : Bool}
    {text : List Char}
    (missing : expr.firstHit? before closed text = none) :
    expr.hitsFrom before closed text = ([], text) := by
  rw [hitsFrom]
  split
  · rfl
  · simp_all

theorem Expr.hitsFrom_of_some
    {expr : Expr}
    {before : Option Char}
    {closed : Bool}
    {text tail : List Char}
    {hit : Hit}
    (found : expr.firstHit? before closed text = some (hit, tail)) :
    expr.hitsFrom before closed text =
      (hit :: (expr.hitsFrom (lastOr before hit.passed) true tail).1,
        (expr.hitsFrom (lastOr before hit.passed) true tail).2) := by
  rw [hitsFrom]
  split
  · simp_all
  · rename_i other otherTail otherFound
    rw [found] at otherFound
    cases otherFound
    rfl

/-- Where no hit is left, no place has a preferred match that takes a character. -/
theorem Expr.search?_of_firstHit?_none
    {expr : Expr}
    {before : Option Char}
    {closed : Bool}
    {text : List Char}
    (missing : expr.firstHit? before closed text = none) :
    expr.search? before text = none := by
  induction text generalizing before closed with
  | nil => rfl
  | cons character rest ih =>
      simp only [firstHit?] at missing
      simp only [search?]
      split at missing
      · rename_i length chosen
        split at missing
        · rename_i empty
          obtain ⟨rfl, -⟩ : length = 0 ∧ closed = true := by simpa using empty
          have restMissing := ih (Option.map_eq_none_iff.1 missing)
          rw [chosen, restMissing]
          rfl
        · simp at missing
      · rename_i chosen
        have restMissing := ih (Option.map_eq_none_iff.1 missing)
        rw [chosen, restMissing]
        rfl

theorem Expr.search?_of_notTaking
    {expr : Expr}
    {before : Option Char}
    {character : Char}
    {rest : List Char}
    (notTaking :
      ∀ length, expr.matchLength? before (character :: rest) ≠ some (length + 1)) :
    expr.search? before (character :: rest) =
      (expr.search? (some character) rest).map (Hit.after character) := by
  rw [search?]
  split
  · rename_i length taking
    exact absurd taking (notTaking length)
  · rfl

/-- The first hit is what the search finds if it takes a character, and is passed over if not. -/
theorem Expr.search?_of_firstHit?
    {expr : Expr}
    {before : Option Char}
    {closed : Bool}
    {text tail : List Char}
    {hit : Hit}
    (found : expr.firstHit? before closed text = some (hit, tail)) :
    expr.search? before text =
      if hit.matched.isEmpty then
        (expr.search? (lastOr before hit.passed) tail).map (Hit.behind hit.passed)
      else some hit := by
  induction text generalizing before closed hit tail with
  | nil =>
      rcases firstHit?_nil found with ⟨rfl, rfl, -⟩
      rfl
  | cons character rest ih =>
      rcases firstHit?_cons found with
        ⟨length, chosen, -, rfl, rfl⟩ | ⟨later, notTaking, laterFound, rfl⟩
      · cases length with
        | zero =>
            have unmoved : Hit.behind [] = id := rfl
            simp [Hit.passed, unmoved]
        | succ length => simp [search?, chosen]
      · rw [search?_of_notTaking notTaking, ih laterFound]
        simp only [Hit.after, Hit.passed, List.cons_append, lastOr_cons]
        split
        · rw [Option.map_map]
          rfl
        · rfl

/-- Among the hits behind a place, the first taking one is what the search finds. -/
theorem Expr.find?_placedBehind_hitsFrom
    (expr : Expr)
    (passed : List Char)
    (before : Option Char)
    (closed : Bool)
    (text : List Char) :
    (Hit.placedBehind passed (expr.hitsFrom before closed text).1).find?
        (fun hit => !hit.matched.isEmpty) =
      (expr.search? before text).map (Hit.behind passed) := by
  fun_induction Expr.hitsFrom expr before closed text generalizing passed with
  | case1 before closed text missing =>
      rw [search?_of_firstHit?_none missing]
      rfl
  | case2 before closed text hit tail found hits rest further ih =>
      rw [search?_of_firstHit? found]
      simp only [further] at ih
      simp only [Hit.placedBehind, List.find?_cons]
      cases taking : hit.matched.isEmpty with
      | true =>
          simp only [Bool.not_true, if_true, ih, Option.map_map]
          congr 1
          funext later
          exact (Hit.behind_behind passed hit.passed later).symm
      | false => rfl

/-- The first taking hit stands at the first place whose preferred match takes a character. -/
theorem Expr.firstTaking?_eq_search?
    (expr : Expr)
    (text : List Char) :
    expr.firstTaking? text = expr.search? none text := by
  rw [firstTaking?, hitsIn, find?_placedBehind_hitsFrom]
  cases expr.search? none text with
  | none => rfl
  | some hit => rfl

@[simp]
theorem Hit.map_matched_placedBehind
    (passed : List Char)
    (hits : List Hit) :
    (Hit.placedBehind passed hits).map Hit.matched = hits.map Hit.matched := by
  induction hits generalizing passed with
  | nil => rfl
  | cons hit hits ih => rw [placedBehind, List.map_cons, List.map_cons, ih]

/-- A text in which no hit begins only moves the hits behind it. -/
theorem Expr.placedBehind_hitsFrom_append
    {expr : Expr}
    {before : Option Char}
    {closed : Bool}
    {front back : List Char}
    (moved :
      expr.firstHit? before closed (front ++ back) =
        (expr.firstHit? (lastOr before front) false back).map fun (hit, tail) =>
          (hit.behind front, tail))
    (passed : List Char) :
    Hit.placedBehind passed (expr.hitsFrom before closed (front ++ back)).1 =
      Hit.placedBehind (passed ++ front)
        (expr.hitsFrom (lastOr before front) false back).1 := by
  cases found : expr.firstHit? (lastOr before front) false back with
  | none =>
      rw [found, Option.map_none] at moved
      rw [hitsFrom_of_none moved, hitsFrom_of_none found]
      rfl
  | some first =>
      rcases first with ⟨hit, tail⟩
      rw [found, Option.map_some] at moved
      rw [hitsFrom_of_some moved, hitsFrom_of_some found]
      simp only [Hit.placedBehind, Hit.passed_behind, lastOr_append, List.append_assoc]
      rfl

theorem Expr.matched_ne_nil_of_firstTaking?
    {expr : Expr}
    {text : List Char}
    {hit : Hit}
    (found : expr.firstTaking? text = some hit) :
    hit.matched ≠ [] := by
  have taking := List.find?_some found
  simpa using taking

end CallScript.Pattern
