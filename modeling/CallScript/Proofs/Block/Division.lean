import CallScript.Proofs.Block.Delimiters
import Mathlib.Data.List.Basic

/-!
# The division of a chunk

A chunk is divided by its maximal runs of delimiters.  The division is unique:
whether a character delimits depends on its neighbours alone, and a run of
delimiters is put together from units in one way only.  The search for clusters
meets these runs and no others, so a chunk is cut into the texts between its runs
and the last unit of each run.  The main statement is `Block.exists_divides`.
-/

namespace CallScript.Block

open CallScript.Block.Delimiter
open CallScript.Pattern
open CallScript.Text

/-- A run of delimiters and the text behind it. -/
@[ext]
structure Part where
  /-- The units that are lost. -/
  lost : List Delimiter
  /-- The last unit. -/
  kept : Delimiter
  /-- The text between this run and the next one. -/
  text : List Char

/-- The run of delimiters. -/
def Part.run (part : Part) : List Char :=
  textOf (part.lost ++ [part.kept])

/-- A text divided at runs of delimiters. -/
structure Division where
  /-- The text in front of the first run. -/
  first : List Char
  /-- The runs, each with the text behind it. -/
  parts : List Part

namespace Division

/-- The text that is divided. -/
def whole (division : Division) : List Char :=
  division.first ++ division.parts.flatMap fun part => part.run ++ part.text

/-- The text without all units of a run but the last. -/
def remainder (division : Division) : List Char :=
  division.first ++ division.parts.flatMap fun part => part.kept.text ++ part.text

/-- The texts and the last units of the runs, in order. -/
def pieces (division : Division) : List (List Char) :=
  division.first :: division.parts.flatMap fun part => [part.kept.text, part.text]

/-- The pieces that are not empty. -/
def line (division : Division) : List (List Char) :=
  division.pieces.filter fun piece => !piece.isEmpty

end Division

/-- The text consists of units, one behind the other. -/
def IsRun (text : List Char) : Prop :=
  ∃ units, units ≠ [] ∧ text = textOf units

/-- Between these texts, the run cannot be made longer at either end. -/
structure IsMaximalRun (front run back : List Char) : Prop where
  /-- It is a run. -/
  isRun : IsRun run
  /-- No longer run has it inside. -/
  maximal :
    ∀ more further,
      more <:+ front → further <+: back → IsRun (more ++ run ++ further) → more = [] ∧ further = []

/-- The text holds no parenthesis. -/
def IsParenless (text : List Char) : Prop :=
  '(' ∉ text ∧ ')' ∉ text

/--
Behind the text in front, from left to right: there is no parenthesis outside the
runs, every run is maximal, and only the last one may have no text behind it.
-/
def IsDividedBehind (front first : List Char) : List Part → Prop
  | [] => IsParenless first
  | part :: parts =>
      IsParenless first ∧
        IsMaximalRun (front ++ first) part.run (Division.whole ⟨part.text, parts⟩) ∧
        (parts ≠ [] → part.text ≠ []) ∧
        IsDividedBehind (front ++ first ++ part.run) part.text parts

/-- The division is one of the text at its maximal runs of delimiters. -/
def Division.Divides (division : Division) (text : List Char) : Prop :=
  division.whole = text ∧ IsDividedBehind [] division.first division.parts

/-- Between these surroundings, no character of the text delimits. -/
def IsPlain (before : Option Char) (text after : List Char) : Prop :=
  ∀ front character back,
    text = front ++ character :: back →
      ¬ IsDelimiting (lastOr before front) character (back ++ after).head?

/-- The runs begin and end where the delimiting characters do. -/
def IsRead (before : Option Char) (first : List Char) : List Part → Prop
  | [] => IsPlain before first []
  | part :: parts =>
      IsPlain before first (part.run ++ Division.whole ⟨part.text, parts⟩) ∧
        (parts ≠ [] → part.text ≠ []) ∧
        IsRead (lastOr before (first ++ part.run)) part.text parts

@[simp]
theorem Division.whole_nil
    (first : List Char) :
    Division.whole ⟨first, []⟩ = first := by
  simp [whole]

@[simp]
theorem Division.whole_cons
    (first : List Char)
    (part : Part)
    (parts : List Part) :
    Division.whole ⟨first, part :: parts⟩ =
      first ++ (part.run ++ Division.whole ⟨part.text, parts⟩) := by
  simp [whole]

theorem Part.run_ne_nil
    (part : Part) :
    part.run ≠ [] :=
  textOf_ne_nil (by simp)

theorem isPlain_nil
    (before : Option Char)
    (after : List Char) :
    IsPlain before [] after := by
  intro front character back divided
  simp at divided

theorem isPlain_cons_iff
    {before : Option Char}
    {character : Char}
    {text after : List Char} :
    IsPlain before (character :: text) after ↔
      ¬ IsDelimiting before character (text ++ after).head? ∧
        IsPlain (some character) text after := by
  constructor
  · intro plain
    refine ⟨plain [] character text rfl, ?_⟩
    rintro front other back rfl
    have later := plain (character :: front) other back rfl
    rwa [lastOr_cons] at later
  · rintro ⟨here, plain⟩ front other back divided
    rcases List.cons_eq_append_iff.1 divided with ⟨rfl, same⟩ | ⟨front, rfl, later⟩
    · cases same
      exact here
    · rw [lastOr_cons]
      exact plain front other back later

/-- Behind a plain text, the search for a cluster goes on as if the text were not there. -/
theorem firstHit?_of_isPlain
    {before : Option Char}
    {text after : List Char}
    (plain : IsPlain before text after)
    (closed : Bool) :
    clusterExpr.firstHit? before closed (text ++ after) =
      (clusterExpr.firstHit? (lastOr before text) (closed && text.isEmpty) after).map
        fun (hit, tail) => (hit.behind text, tail) := by
  apply Expr.firstHit?_append_of_unmatched
  rintro passed character rest rfl
  have apart := plain passed character rest rfl
  rw [matchLength?_clusterExpr, if_pos (unitsOf_eq_nil apart)]

/-- The hits of the runs of a division. -/
def hitsOf (first : List Char) : List Part → List Hit
  | [] => []
  | part :: parts => ⟨first, part.run⟩ :: hitsOf part.text parts

/-- The text behind the last run. -/
def tailOf (first : List Char) : List Part → List Char
  | [] => first
  | part :: parts => tailOf part.text parts

theorem IsRead.isPlain
    {before : Option Char}
    {first : List Char}
    {parts : List Part}
    (read : IsRead before first parts) :
    IsPlain before first (parts.flatMap fun part => part.run ++ part.text) := by
  cases parts with
  | nil => exact read
  | cons part parts =>
      rw [List.flatMap_cons, List.append_assoc]
      exact read.1

/-- The text behind a run does not begin with a delimiting character. -/
theorem IsRead.not_isDelimiting
    {before : Option Char}
    {first : List Char}
    {parts : List Part}
    (read : IsRead before first parts)
    (apart : parts ≠ [] → first ≠ [])
    {character : Char}
    {tail : List Char}
    (divided : Division.whole ⟨first, parts⟩ = character :: tail) :
    ¬ IsDelimiting before character tail.head? := by
  cases first with
  | nil =>
      have none : parts = [] := not_not.1 fun some => apart some rfl
      subst none
      cases divided
  | cons other text =>
      rcases List.cons.inj divided with ⟨rfl, rfl⟩
      exact (isPlain_cons_iff.1 read.isPlain).1

/-- The hits of clusters in a text that is read are its runs. -/
theorem hitsFrom_of_isRead
    {before : Option Char}
    {first : List Char}
    {parts : List Part}
    (read : IsRead before first parts)
    (closed : Bool) :
    clusterExpr.hitsFrom before closed (Division.whole ⟨first, parts⟩) =
      (hitsOf first parts, tailOf first parts) := by
  induction parts generalizing before first closed with
  | nil =>
      have none (closed : Bool) :
          clusterExpr.firstHit? (lastOr before first) closed [] = none := by
        simp [Expr.firstHit?, matchLength?_clusterExpr, unitsOf]
      have missing := firstHit?_of_isPlain read closed
      rw [List.append_nil, none] at missing
      rw [Division.whole_nil, Expr.hitsFrom_of_none missing]
      rfl
  | cons part parts ih =>
      rcases read with ⟨plain, apart, behind⟩
      have units :
          unitsOf (part.run ++ Division.whole ⟨part.text, parts⟩) = part.lost ++ [part.kept] := by
        apply unitsOf_textOf_append _ (lastOr before first)
        intro character tail divided
        rw [← Part.run, ← lastOr_append]
        exact behind.not_isDelimiting apart divided
      have matched :
          clusterExpr.matchLength? (lastOr before first)
              (part.run ++ Division.whole ⟨part.text, parts⟩) =
            some part.run.length := by
        rw [matchLength?_clusterExpr, units, if_neg (by simp), Part.run]
      have found := firstHit?_of_isPlain plain closed
      rw [Expr.firstHit?_of_matched part.run_ne_nil matched] at found
      rw [Division.whole_cons, Expr.hitsFrom_of_some found]
      simp only [Hit.passed, Hit.behind, List.append_nil, ih behind]
      rfl

theorem IsRead.cons
    {before : Option Char}
    {character : Char}
    {first : List Char}
    {parts : List Part}
    (plain : ¬ IsDelimiting before character (Division.whole ⟨first, parts⟩).head?)
    (read : IsRead (some character) first parts) :
    IsRead before (character :: first) parts := by
  cases parts with
  | nil =>
      rw [Division.whole_nil, ← List.append_nil first] at plain
      exact isPlain_cons_iff.2 ⟨plain, read⟩
  | cons part parts =>
      rw [Division.whole_cons] at plain
      refine ⟨isPlain_cons_iff.2 ⟨plain, read.1⟩, read.2.1, ?_⟩
      rw [List.cons_append, lastOr_cons]
      exact read.2.2

theorem IsRead.behind_run
    {before : Option Char}
    {lost : List Delimiter}
    {kept : Delimiter}
    {first : List Char}
    {parts : List Part}
    (plain :
      ∀ character tail,
        Division.whole ⟨first, parts⟩ = character :: tail →
          ¬ IsDelimiting (lastOr before (textOf (lost ++ [kept]))) character tail.head?)
    (read : IsRead (lastOr before (textOf (lost ++ [kept]))) first parts) :
    IsRead before [] (⟨lost, kept, first⟩ :: parts) := by
  refine ⟨isPlain_nil _ _, ?_, read⟩
  rintro more rfl
  cases parts with
  | nil => exact more rfl
  | cons next parts =>
      rcases List.exists_cons_of_ne_nil next.run_ne_nil with ⟨character, run, starts⟩
      have begins : textOf (next.lost ++ [next.kept]) = [] ++ character :: run := starts
      rw [Division.whole_cons, List.nil_append, starts] at plain
      exact plain character _ rfl (isDelimiting_of_textOf_eq begins _ _)

/-- Every text can be read from the left to the right. -/
theorem exists_isRead
    (before : Option Char)
    (text : List Char)
    (apart : before = some '(' → text.head? ≠ some '{') :
    ∃ first parts, Division.whole ⟨first, parts⟩ = text ∧ IsRead before first parts := by
  induction length : text.length using Nat.strongRecOn generalizing before text with
  | ind size ih =>
      rcases List.eq_nil_or_concat' (unitsOf text) with unread | ⟨lost, kept, read⟩
      · cases text with
        | nil => exact ⟨[], [], rfl, isPlain_nil before []⟩
        | cons character rest =>
            have plain : ¬ IsDelimiting before character rest.head? := by
              apply not_isDelimiting_of_unitsOf_eq_nil unread
              rintro opened rfl
              exact apart opened rfl
            have shorter : rest.length < size := length ▸ Nat.lt_succ_self _
            have restApart : some character = some '(' → rest.head? ≠ some '{' := by
              rintro ⟨⟩
              exact absurd (.inl rfl) plain
            rcases ih _ shorter (some character) rest restApart rfl with
              ⟨first, parts, rfl, restRead⟩
            exact ⟨character :: first, parts, rfl, restRead.cons plain⟩
      · have nonempty : lost ++ [kept] ≠ [] := by
          simp
        rcases exists_of_unitsOf_eq read nonempty before with ⟨rest, rfl, plain⟩
        have shorter : rest.length < size := by
          have positive := List.length_pos_iff.2 (textOf_ne_nil nonempty)
          rw [← length, List.length_append]
          omega
        have restApart :
            lastOr before (textOf (lost ++ [kept])) = some '(' → rest.head? ≠ some '{' := by
          intro opened braced
          rcases List.head?_eq_some_iff.1 braced with ⟨tail, rfl⟩
          exact plain '{' tail rfl (.inr (.inr (.inl ⟨rfl, opened⟩)))
        rcases ih _ shorter _ rest restApart rfl with ⟨first, parts, rfl, restRead⟩
        exact ⟨[], ⟨lost, kept, first⟩ :: parts, Division.whole_cons _ _ _,
          restRead.behind_run plain⟩

theorem Part.eq_of_run_eq
    {part other : Part}
    (same : part.run = other.run) :
    part.lost = other.lost ∧ part.kept = other.kept := by
  have units := congrArg unitsOf same
  rw [run, run, unitsOf_textOf, unitsOf_textOf] at units
  rcases List.append_inj' units rfl with ⟨lost, kept⟩
  exact ⟨lost, (List.cons.inj kept).1⟩

/-- A division is given by its runs and texts. -/
theorem eq_of_hitsOf_eq
    {first otherFirst : List Char}
    {parts otherParts : List Part}
    (hits : hitsOf first parts = hitsOf otherFirst otherParts)
    (tail : tailOf first parts = tailOf otherFirst otherParts) :
    first = otherFirst ∧ parts = otherParts := by
  induction parts generalizing first otherFirst otherParts with
  | nil =>
      cases otherParts with
      | nil => exact ⟨tail, rfl⟩
      | cons other otherParts => cases hits
  | cons part parts ih =>
      cases otherParts with
      | nil => cases hits
      | cons other otherParts =>
          rcases List.cons.inj hits with ⟨here, later⟩
          rcases Hit.mk.inj here with ⟨rfl, run⟩
          rcases ih later tail with ⟨text, rfl⟩
          rcases Part.eq_of_run_eq run with ⟨lost, kept⟩
          rw [Part.ext lost kept text]
          exact ⟨rfl, rfl⟩

/-- A text can be read in one way only. -/
theorem IsRead.unique
    {first otherFirst : List Char}
    {parts otherParts : List Part}
    {before : Option Char}
    (read : IsRead before first parts)
    (other : IsRead before otherFirst otherParts)
    (whole : Division.whole ⟨first, parts⟩ = Division.whole ⟨otherFirst, otherParts⟩) :
    first = otherFirst ∧ parts = otherParts := by
  have hits := hitsFrom_of_isRead read false
  rw [whole, hitsFrom_of_isRead other false, Prod.mk.injEq] at hits
  exact eq_of_hitsOf_eq hits.1.symm hits.2.symm

theorem flatMap_hitsOf
    (first : List Char)
    (parts : List Part) :
    (hitsOf first parts).flatMap (fun hit => hit.skipped :: lastUnit hit.matched) ++
        [tailOf first parts] =
      Division.pieces ⟨first, parts⟩ := by
  induction parts generalizing first with
  | nil => rfl
  | cons part parts ih =>
      simp only [hitsOf, tailOf, List.flatMap_cons, Part.run, lastUnit_textOf,
        List.append_assoc, ih]
      rfl

/-- A text that is read is cut into its texts and the last units of its runs. -/
theorem IsRead.cutChunk
    {first : List Char}
    {parts : List Part}
    (read : IsRead none first parts) :
    cutChunk (Division.whole ⟨first, parts⟩) = Division.pieces ⟨first, parts⟩ := by
  rw [Block.cutChunk, Expr.hitsIn, hitsFrom_of_isRead read]
  exact flatMap_hitsOf first parts

theorem IsRun.ne_nil
    {run : List Char}
    (isRun : IsRun run) :
    run ≠ [] := by
  rcases isRun with ⟨units, nonempty, rfl⟩
  exact textOf_ne_nil nonempty

/-- A run can take in the brace behind its last parenthesis. -/
theorem IsRun.append_brace
    {run : List Char}
    (isRun : IsRun run)
    (opened : run.getLast? = some '(') :
    IsRun (run ++ ['{']) := by
  rcases isRun with ⟨units, nonempty, rfl⟩
  rcases (List.eq_nil_or_concat' units).resolve_left nonempty with ⟨earlier, last, rfl⟩
  cases last with
  | openingBrace | closingBrace | closing => simp [Delimiter.text] at opened
  | opening => exact ⟨earlier ++ [.openingBrace], by simp, by simp [Delimiter.text]⟩

/-- A run can take in the brace in front of its first parenthesis. -/
theorem IsRun.brace_cons
    {run : List Char}
    (isRun : IsRun run)
    (closed : run.head? = some ')') :
    IsRun ('}' :: run) := by
  rcases isRun with ⟨units, nonempty, rfl⟩
  cases units with
  | nil => exact absurd rfl nonempty
  | cons first later =>
      cases first with
      | openingBrace | closingBrace | opening => simp [Delimiter.text] at closed
      | closing => exact ⟨.closingBrace :: later, by simp, rfl⟩

/-- A run is maximal when no delimiting character touches it. -/
theorem isMaximalRun_textOf
    {front back : List Char}
    {units : List Delimiter}
    (nonempty : units ≠ [])
    (left :
      ∀ earlier character,
        front = earlier ++ [character] →
          ¬ IsDelimiting (lastOr none earlier) character (textOf units ++ back).head?)
    (right :
      ∀ character later,
        back = character :: later →
          ¬ IsDelimiting (lastOr none (front ++ textOf units)) character later.head?) :
    IsMaximalRun front (textOf units) back := by
  refine ⟨⟨units, nonempty, rfl⟩, ?_⟩
  rintro more further ⟨earlier, rfl⟩ ⟨later, rfl⟩ ⟨others, -, whole⟩
  constructor
  · rcases List.eq_nil_or_concat' more with none | ⟨more, character, rfl⟩
    · exact none
    · have delimits : textOf others = more ++ character :: (textOf units ++ further) := by
        simp [← whole]
      have inside := isDelimiting_of_textOf_eq delimits (lastOr none earlier) later
      rw [← lastOr_append, List.append_assoc] at inside
      exact absurd inside (left (earlier ++ more) character (List.append_assoc _ _ _).symm)
  · cases further with
    | nil => rfl
    | cons character further =>
        have inside :=
          isDelimiting_of_textOf_eq whole.symm (lastOr none earlier) later
        rw [← lastOr_append, ← List.append_assoc] at inside
        exact absurd inside (right character (further ++ later) rfl)

/-- Between maximal runs, a text without parentheses is plain. -/
theorem isPlain_of_isMaximalRun
    {front text after : List Char}
    (parenless : IsParenless text)
    (left :
      front ≠ [] → ∃ earlier run, front = earlier ++ run ∧ IsMaximalRun earlier run (text ++ after))
    (right :
      after ≠ [] → ∃ run later, after = run ++ later ∧ IsMaximalRun (front ++ text) run later) :
    IsPlain (lastOr none front) text after := by
  rintro passed character back rfl
  simp only [IsParenless, List.mem_append, List.mem_cons, not_or] at parenless
  rintro (rfl | rfl | ⟨rfl, opened⟩ | ⟨rfl, closed⟩)
  · exact parenless.1.2.1 rfl
  · exact parenless.2.2.1 rfl
  · rcases getLast?_of_lastOr opened with inside | ⟨rfl, inFront⟩
    · exact parenless.1.1 (List.mem_of_getLast? inside)
    · rcases getLast?_of_lastOr inFront with last | ⟨-, ⟨⟩⟩
      rcases left (by rintro rfl; cases last) with ⟨earlier, run, rfl, isMaximal⟩
      rw [List.getLast?_append_of_ne_nil _ isMaximal.isRun.ne_nil] at last
      have longer :=
        isMaximal.maximal [] ['{'] List.nil_suffix ⟨back ++ after, rfl⟩
          (isMaximal.isRun.append_brace last)
      cases longer.2
  · cases back with
    | cons next back =>
        cases closed
        simp at parenless
    | nil =>
        rcases right (by rintro rfl; cases closed) with ⟨run, later, rfl, isMaximal⟩
        rw [List.nil_append, List.head?_append_of_ne_nil _ isMaximal.isRun.ne_nil] at closed
        have longer := isMaximal.maximal ['}'] [] ⟨front ++ passed, by simp⟩ List.nil_prefix
        rw [List.append_nil] at longer
        cases (longer (isMaximal.isRun.brace_cons closed)).1

theorem IsPlain.isParenless
    {before : Option Char}
    {text after : List Char}
    (plain : IsPlain before text after) :
    IsParenless text := by
  constructor
  · intro inside
    rcases List.append_of_mem inside with ⟨front, back, divided⟩
    exact plain front '(' back divided (.inl rfl)
  · intro inside
    rcases List.append_of_mem inside with ⟨front, back, divided⟩
    exact plain front ')' back divided (.inr (.inl rfl))

theorem IsDividedBehind.isRead
    {front first : List Char}
    {parts : List Part}
    (divided : IsDividedBehind front first parts)
    (left :
      front ≠ [] →
        ∃ earlier run,
          front = earlier ++ run ∧ IsMaximalRun earlier run (Division.whole ⟨first, parts⟩)) :
    IsRead (lastOr none front) first parts := by
  induction parts generalizing front first with
  | nil =>
      rw [Division.whole_nil, ← List.append_nil first] at left
      exact isPlain_of_isMaximalRun divided left fun some => absurd rfl some
  | cons part parts ih =>
      rcases divided with ⟨parenless, isMaximal, apart, behind⟩
      rw [Division.whole_cons] at left
      have plain := isPlain_of_isMaximalRun parenless left fun _ => ⟨part.run, _, rfl, isMaximal⟩
      have read := ih behind fun _ => ⟨front ++ first, part.run, rfl, isMaximal⟩
      rw [List.append_assoc, lastOr_append] at read
      exact ⟨plain, apart, read⟩

theorem IsRead.isDividedBehind
    {front first : List Char}
    {parts : List Part}
    (read : IsRead (lastOr none front) first parts)
    (apart : parts ≠ [] → first = [] → front = []) :
    IsDividedBehind front first parts := by
  induction parts generalizing front first with
  | nil => exact read.isPlain.isParenless
  | cons part parts ih =>
      rcases read with ⟨plain, partApart, behind⟩
      rw [← lastOr_append, ← List.append_assoc] at behind
      have later := ih behind fun more none => absurd none (partApart more)
      refine ⟨plain.isParenless, ?_, partApart, later⟩
      apply isMaximalRun_textOf (by simp)
      · intro earlier character last
        rcases List.eq_nil_or_concat' first with none | ⟨text, other, rfl⟩
        · rw [none, List.append_nil, apart (List.cons_ne_nil _ _) none] at last
          simp at last
        · rw [← List.append_assoc] at last
          rcases List.append_inj' last rfl with ⟨rfl, same⟩
          cases same
          rw [lastOr_append]
          exact plain text character [] rfl
      · intro character tail divided
        exact behind.not_isDelimiting partApart divided

theorem Division.divides_iff
    {division : Division}
    {text : List Char} :
    division.Divides text ↔
      division.whole = text ∧ IsRead none division.first division.parts := by
  constructor
  · rintro ⟨whole, divided⟩
    have read : IsRead (lastOr none []) division.first division.parts :=
      divided.isRead fun some => absurd rfl some
    exact ⟨whole, read⟩
  · rintro ⟨whole, read⟩
    have fromStart : IsRead (lastOr none []) division.first division.parts := read
    exact ⟨whole, fromStart.isDividedBehind fun _ _ => rfl⟩

/-- Every text has exactly one division, and is cut into its pieces. -/
theorem exists_divides
    (text : List Char) :
    ∃ division : Division,
      (∀ other : Division, other.Divides text ↔ other = division) ∧
        cutChunk text = division.pieces := by
  rcases exists_isRead none text (by rintro ⟨⟩) with ⟨first, parts, rfl, read⟩
  refine ⟨⟨first, parts⟩, fun other => ?_, read.cutChunk⟩
  rw [Division.divides_iff]
  constructor
  · rintro ⟨whole, otherRead⟩
    rcases otherRead.unique read whole with ⟨rfl, rfl⟩
    rfl
  · rintro rfl
    exact ⟨rfl, read⟩

end CallScript.Block
