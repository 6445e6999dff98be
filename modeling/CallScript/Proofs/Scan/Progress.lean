import CallScript.Proofs.Scan.Reference
import CallScript.Proofs.Text.Walk

/-!
# The loop of a scan

All that a scan has to keep between two rounds is its cursor, a distance in bytes from the start
of the source, and the tokens that are listed so far.  A round cuts the source at the cursor, asks
the rules in turn for the first of their successive matches that takes a character, keeps the
match that begins earliest, and moves the cursor behind it, or to the end if there is none.

The loop is given a number of rounds, so that it may be cut short, and it has no result at a cursor
inside a character.  Nothing is assumed of the rules: also an expression with empty matches that
are not found in the empty text, such as a word boundary, moves the cursor on.  The main
statement, `Scanner.loop?_eq_scan`, says that as many rounds as the source has characters are
enough, and what every round does on the way.
-/

namespace CallScript

open CallScript.Pattern
open CallScript.Text

namespace Grammar

/-- One rule more is asked, and its match displaces what was kept only if it begins earlier. -/
def keep (text : List Char) (best : Option (Rule × Hit)) (rule : Rule) : Option (Rule × Hit) :=
  match rule.expr.firstTaking? text with
  | none => best
  | some hit =>
      match best with
      | none => some (rule, hit)
      | some (_, least) => if hit.start < least.start then some (rule, hit) else best

/-- The match that is kept when all rules were asked in order, with its rule. -/
def earliest? (grammar : Grammar) (text : List Char) : Option (Rule × Hit) :=
  grammar.rules.foldl (keep text) none

/-- What is kept of the proposals of some rules. -/
inductive IsKept (text : List Char) (rules : List Rule) : Option (Rule × Hit) → Prop where
  /-- Nothing was proposed. -/
  | nothing (missing : ∀ proposal ∈ proposals ⟨rules⟩ text, proposal = none) :
      IsKept text rules none
  /-- The earliest proposal, with its rule. -/
  | chosen
      {index : Nat}
      {rule : Rule}
      {hit : Hit}
      (declared : rules[index]? = some rule)
      (earliest : IsEarliest (proposals ⟨rules⟩ text) index hit) :
      IsKept text rules (some (rule, hit))

theorem proposals_concat
    (rules : List Rule)
    (rule : Rule)
    (text : List Char) :
    proposals ⟨rules ++ [rule]⟩ text =
      proposals ⟨rules⟩ text ++ [rule.expr.firstTaking? text] := by
  simp [proposals]

/-- Asking one rule more keeps the earliest proposal. -/
theorem IsKept.concat
    {text : List Char}
    {rules : List Rule}
    {best : Option (Rule × Hit)}
    (kept : IsKept text rules best)
    (rule : Rule) :
    IsKept text (rules ++ [rule]) (keep text best rule) := by
  have atEnd : (rules ++ [rule])[(proposals ⟨rules⟩ text).length]? = some rule := by
    simp [proposals]
  have notAtEnd
      {index : Nat}
      {other : Rule}
      (declared : rules[index]? = some other) :
      (rules ++ [rule])[index]? = some other := by
    rw [List.getElem?_append_left (List.getElem?_eq_some_iff.1 declared).1]
    exact declared
  rw [keep]
  cases proposed : rule.expr.firstTaking? text with
  | none =>
      cases kept with
      | nothing missing =>
          apply IsKept.nothing
          intro proposal member
          rw [proposals_concat, proposed] at member
          rcases List.mem_append.1 member with before | last
          · exact missing proposal before
          · exact List.mem_singleton.1 last
      | chosen declared earliest =>
          apply IsKept.chosen (notAtEnd declared)
          rw [proposals_concat, proposed]
          apply earliest.concat
          intro last absent
          cases absent
  | some hit =>
      cases kept with
      | nothing missing =>
          apply IsKept.chosen atEnd
          rw [proposals_concat, proposed]
          apply IsEarliest.of_last
          intro other member
          cases missing _ member
      | @chosen index keptRule least declared earliest =>
          -- The old match stays also when the new one begins at the same place.
          by_cases earlier : hit.start < least.start
          · simp only [if_pos earlier]
            apply IsKept.chosen atEnd
            rw [proposals_concat, proposed]
            apply IsEarliest.of_last
            intro other member
            rcases List.getElem?_of_mem member with ⟨place, proposedThere⟩
            exact Nat.lt_of_lt_of_le earlier (earliest.earliest place other proposedThere)
          · simp only [if_neg earlier]
            apply IsKept.chosen (notAtEnd declared)
            rw [proposals_concat, proposed]
            apply earliest.concat
            rintro last ⟨rfl⟩
            exact Nat.le_of_not_lt earlier

/-- Asking all the rules that are left keeps the earliest proposal. -/
theorem IsKept.foldl
    {text : List Char}
    {asked : List Rule}
    {best : Option (Rule × Hit)}
    (kept : IsKept text asked best)
    (rules : List Rule) :
    IsKept text (asked ++ rules) (rules.foldl (keep text) best) := by
  induction rules generalizing asked best with
  | nil => simpa using kept
  | cons rule rules ih =>
      rw [List.append_cons]
      exact ih (kept.concat rule)

/-- The match that is kept when all rules were asked is the one that a scan finds next. -/
theorem earliest?_eq_nextFind?
    (grammar : Grammar)
    (text : List Char) :
    grammar.earliest? text =
      (nextFind? grammar.rules none text).map fun find =>
        (find.rule, ⟨find.skipped, find.matched⟩) := by
  have start : IsKept text [] none := .nothing fun proposal member => by cases member
  have kept : IsKept text grammar.rules (grammar.earliest? text) := start.foldl grammar.rules
  cases found : nextFind? grammar.rules none text with
  | none =>
      generalize grammar.earliest? text = best at kept
      cases kept with
      | nothing missing => rfl
      | chosen declared earliest =>
          have proposed := List.mem_of_getElem? earliest.proposed
          rw [proposals_eq_search?] at proposed
          rcases List.mem_map.1 proposed with ⟨rule, member, present⟩
          rw [search?_of_nextFind?_none found member] at present
          cases present
  | some find =>
      rcases nextFind?_isEarliest found with ⟨index, declared, earliest, -⟩
      rw [← proposals_eq_search?] at earliest
      generalize grammar.earliest? text = best at kept
      cases kept with
      | nothing missing => cases missing _ (List.mem_of_getElem? earliest.proposed)
      | chosen keptDeclared keptEarliest =>
          rcases keptEarliest.unique earliest with ⟨rfl, rfl⟩
          cases keptDeclared.symm.trans declared
          rfl

/-- The match that is found next takes a character. -/
theorem matched_ne_nil_of_nextFind?
    {rules : List Rule}
    {text : List Char}
    {find : Find}
    (found : nextFind? rules none text = some find) :
    find.matched ≠ [] := by
  rcases nextFind?_isEarliest found with ⟨index, declared, chosen, -⟩
  have proposed := chosen.proposed
  rw [List.getElem?_map, declared, Option.map_some, Option.some_inj,
    ← Expr.firstTaking?_eq_search?] at proposed
  exact Expr.matched_ne_nil_of_firstTaking? proposed

end Grammar

theorem ScanOptions.length_le_of_gapTokens
    {options : ScanOptions}
    {passed gap : List Char}
    {tokens : List Token}
    (listed : options.gapTokens passed gap = .ok tokens) :
    tokens.length ≤ gap.length := by
  cases gap with
  | nil =>
      cases listed
      exact Nat.le_refl _
  | cons character gap =>
      rw [gapTokens] at listed
      split at listed
      · cases listed
        exact Nat.zero_le _
      · split at listed
        · cases listed
        · cases listed
          exact Nat.succ_le_succ (Nat.zero_le _)

theorem ScanOptions.length_matchTokens_le
    (options : ScanOptions)
    (classifier : Classifier)
    (kind : String)
    {text : List Char}
    (nonempty : text ≠ []) :
    (options.matchTokens classifier kind text).length ≤ text.length := by
  have positive := List.length_pos_iff.2 nonempty
  rw [matchTokens]
  split
  · exact Nat.zero_le _
  · exact positive

namespace Scanner

/-- What the loop keeps between two rounds. -/
structure Progress where
  /-- The distance of the cursor from the start of the source in bytes. -/
  cursor : Nat
  /-- The tokens that are listed so far. -/
  tokens : List Token

/-- The progress before the first round. -/
def Progress.start : Progress :=
  ⟨0, []⟩

/-- The progress with the cursor directly behind a text. -/
def Progress.behind (passed : List Char) (tokens : List Token) : Progress :=
  ⟨(String.ofList passed).utf8ByteSize, tokens⟩

/--
One round: the text in front of the match that is kept is listed as a gap, then the match, and the
cursor moves behind it; without a match, all that is left is a gap.  There is no round at a cursor
inside a character.
-/
def round?
    (scanner : Scanner)
    (source : String)
    (now : Progress) : Option (Except Fault Progress) :=
  (beforeByte? source.toList now.cursor).map fun passed =>
    let rest := source.toList.drop passed.length
    match scanner.grammar.earliest? rest with
    | none =>
        (scanner.options.gapTokens passed rest).map fun gap =>
          ⟨now.cursor + (String.ofList rest).utf8ByteSize, now.tokens ++ gap⟩
    | some (rule, hit) =>
        (scanner.options.gapTokens passed hit.skipped).map fun gap =>
          ⟨now.cursor + (String.ofList hit.passed).utf8ByteSize,
            now.tokens ++ gap ++
              scanner.options.matchTokens scanner.classifier rule.kind hit.matched⟩

/--
The loop: rounds until one fails or the cursor is at the end.  There is no result if more rounds
than the given number are needed, or if the cursor comes to stand inside a character.
-/
def loop?
    (scanner : Scanner)
    (source : String) :
    (rounds : Nat) → (now : Progress) → Option (Except Fault (List Token))
  | 0, now => if now.cursor < source.utf8ByteSize then none else some (.ok now.tokens)
  | rounds + 1, now =>
      if now.cursor < source.utf8ByteSize then
        match scanner.round? source now with
        | none => none
        | some (.error fault) => some (.error fault)
        | some (.ok later) => scanner.loop? source rounds later
      else some (.ok now.tokens)

/-- Some progress that the loop has made after a number of rounds. -/
inductive Arrives (scanner : Scanner) (source : String) : Nat → Progress → Prop where
  /-- No round. -/
  | start : Arrives scanner source 0 .start
  /-- One more round, which begins in front of the end and does not fail. -/
  | round
      {rounds : Nat}
      {now later : Progress}
      (front : Arrives scanner source rounds now)
      (unfinished : now.cursor < source.utf8ByteSize)
      (done : scanner.round? source now = some (.ok later)) :
      Arrives scanner source (rounds + 1) later

section Rounds

variable
    {scanner : Scanner}
    {source : String}
    {passed rest : List Char}

/-- The cursor moves by the bytes of the text that it passes. -/
theorem Progress.behind_append
    (passed taken : List Char)
    (tokens : List Token) :
    Progress.behind (passed ++ taken) tokens =
      ⟨(String.ofList passed).utf8ByteSize + (String.ofList taken).utf8ByteSize, tokens⟩ := by
  rw [behind, String.ofList_append, String.utf8ByteSize_append]

/-- The cursor is in front of the end exactly when there is some text behind it. -/
theorem Progress.cursor_behind_lt_iff
    (divided : source.toList = passed ++ rest)
    (tokens : List Token) :
    (Progress.behind passed tokens).cursor < source.utf8ByteSize ↔ rest ≠ [] := by
  have bytes : source.utf8ByteSize =
      (String.ofList passed).utf8ByteSize + (String.ofList rest).utf8ByteSize := by
    apply utf8ByteSize_of_append
    rw [String.toList_ofList, divided]
  have empty : (String.ofList rest).utf8ByteSize = 0 ↔ rest = [] := by
    rw [String.utf8ByteSize_eq_zero_iff, String.ofList_eq_empty_iff]
  rw [bytes, ne_eq, ← empty]
  exact Nat.lt_add_right_iff_pos.trans Nat.pos_iff_ne_zero

/-- A round at a cursor behind some text, by what a scan finds next. -/
theorem round?_behind
    (scanner : Scanner)
    (divided : source.toList = passed ++ rest)
    (tokens : List Token) :
    scanner.round? source (.behind passed tokens) =
      some
        (match Grammar.nextFind? scanner.grammar.rules none rest with
        | none =>
            (scanner.options.gapTokens passed rest).map fun gap =>
              .behind (passed ++ rest) (tokens ++ gap)
        | some find =>
            (scanner.options.gapTokens passed find.skipped).map fun gap =>
              .behind (passed ++ (find.skipped ++ find.matched))
                (tokens ++
                  (gap ++
                    scanner.options.matchTokens scanner.classifier find.rule.kind
                      find.matched))) := by
  rw [round?, divided, Progress.behind, beforeByte?_utf8ByteSize, Option.map_some,
    List.drop_left]
  simp only [Grammar.earliest?_eq_nextFind?]
  cases Grammar.nextFind? scanner.grammar.rules none rest with
  | none => simp only [Option.map_none, Progress.behind_append]
  | some find =>
      simp only [Option.map_some, List.append_assoc, Progress.behind_append]
      rfl

/-- What a round behind some text does, compared with the scan from there. -/
inductive RoundBehind
    (scanner : Scanner)
    (source : String)
    (passed rest : List Char)
    (tokens : List Token) : Prop where
  /-- The round fails, and so does the scan. -/
  | fails
      {fault : Fault}
      (failed : scanner.round? source (.behind passed tokens) = some (.error fault))
      (scanned : scanner.scanFrom passed rest = .error fault)
  /-- The round takes at least one character and lists no more tokens than it takes characters. -/
  | advances
      {taken further : List Char}
      {listed : List Token}
      (taking : taken ≠ [])
      (divided : rest = taken ++ further)
      (few : listed.length ≤ taken.length)
      (done :
        scanner.round? source (.behind passed tokens) =
          some (.ok (.behind (passed ++ taken) (tokens ++ listed))))
      (scanned :
        scanner.scanFrom passed rest =
          (scanner.scanFrom (passed ++ taken) further).map (listed ++ ·))

theorem scanFrom_nil
    (scanner : Scanner)
    (passed : List Char) :
    scanner.scanFrom passed [] = .ok [] := by
  rw [scanFrom_eq]
  rfl

/-- Where some text is left, a round fails like the scan or takes a character. -/
theorem roundBehind
    (scanner : Scanner)
    (divided : source.toList = passed ++ rest)
    (nonempty : rest ≠ [])
    (tokens : List Token) :
    RoundBehind scanner source passed rest tokens := by
  have gone := scanner.round?_behind divided tokens
  have scanned := scanner.scanFrom_eq passed rest
  cases found : Grammar.nextFind? scanner.grammar.rules none rest with
  | none =>
      simp only [found] at gone scanned
      cases listed : scanner.options.gapTokens passed rest with
      | error fault =>
          rw [listed] at gone scanned
          exact .fails gone scanned
      | ok gap =>
          rw [listed] at gone scanned
          refine .advances nonempty (List.append_nil rest).symm ?_ gone ?_
          · exact ScanOptions.length_le_of_gapTokens listed
          · rw [scanned, scanFrom_nil]
            simp [Except.map]
  | some find =>
      simp only [found] at gone scanned
      rcases Grammar.nextFind?_isEarliest found with ⟨-, -, -, cut⟩
      have taking := Grammar.matched_ne_nil_of_nextFind? found
      cases listed : scanner.options.gapTokens passed find.skipped with
      | error fault =>
          rw [listed] at gone scanned
          exact .fails gone scanned
      | ok gap =>
          rw [listed] at gone scanned
          refine .advances (List.append_ne_nil_of_right_ne_nil _ taking) cut.symm ?_ gone ?_
          -- A round may list two tokens, but then neither the gap nor the match is empty.
          · have fewInGap := ScanOptions.length_le_of_gapTokens listed
            have fewInMatch :=
              scanner.options.length_matchTokens_le scanner.classifier find.rule.kind taking
            rw [List.length_append, List.length_append]
            exact Nat.add_le_add fewInGap fewInMatch
          · rw [scanned, ← List.append_assoc]
            cases scanner.scanFrom (passed ++ find.skipped ++ find.matched) find.rest with
            | error fault => rfl
            | ok later => rfl

theorem map_nil_append
    (scanned : Except Fault (List Token)) :
    scanned.map ([] ++ ·) = scanned := by
  cases scanned with
  | error fault => rfl
  | ok tokens => rfl

theorem map_append_map
    (front new : List Token)
    (scanned : Except Fault (List Token)) :
    (scanned.map (new ++ ·)).map (front ++ ·) = scanned.map (front ++ new ++ ·) := by
  cases scanned with
  | error fault => rfl
  | ok tokens => simp only [Except.map, List.append_assoc]

/-- At the end, the loop is left whatever the number of rounds. -/
theorem loop?_behind_all
    (scanner : Scanner)
    (rounds : Nat)
    (divided : source.toList = passed ++ [])
    (tokens : List Token) :
    scanner.loop? source rounds (.behind passed tokens) =
      some ((scanner.scanFrom passed []).map (tokens ++ ·)) := by
  have finished : ¬ (Progress.behind passed tokens).cursor < source.utf8ByteSize := by
    rw [Progress.cursor_behind_lt_iff divided]
    exact fun nonempty => nonempty rfl
  rw [scanFrom_nil, Except.map, List.append_nil]
  cases rounds with
  | zero => exact if_neg finished
  | succ rounds => exact if_neg finished

/-- As many rounds as there are characters behind the cursor are enough for the rest of the scan. -/
theorem loop?_behind
    (scanner : Scanner)
    {rounds : Nat}
    (divided : source.toList = passed ++ rest)
    (enough : rest.length ≤ rounds)
    (tokens : List Token) :
    scanner.loop? source rounds (.behind passed tokens) =
      some ((scanner.scanFrom passed rest).map (tokens ++ ·)) := by
  induction rounds generalizing passed rest tokens with
  | zero =>
      obtain rfl := List.eq_nil_of_length_eq_zero (Nat.le_zero.1 enough)
      exact scanner.loop?_behind_all 0 divided tokens
  | succ rounds ih =>
      by_cases nonempty : rest = []
      · subst nonempty
        exact scanner.loop?_behind_all (rounds + 1) divided tokens
      · rw [loop?, if_pos ((Progress.cursor_behind_lt_iff divided tokens).2 nonempty)]
        cases roundBehind scanner divided nonempty tokens with
        | fails failed scanned =>
            rw [failed, scanned]
            rfl
        | @advances taken further listed taking cut few done scanned =>
            -- The taken character pays for the round, so the rounds that are left are enough.
            have positive := List.length_pos_iff.2 taking
            rw [cut, List.length_append] at enough
            rw [cut, ← List.append_assoc] at divided
            rw [done, scanned, map_append_map]
            exact ih divided (by omega) _

/-- The invariant of the loop, by the text in front of its cursor and the text behind it. -/
structure StandsBehind
    (scanner : Scanner)
    (source : String)
    (rounds : Nat)
    (now : Progress)
    (passed rest : List Char) : Prop where
  /-- The cursor divides the source into the two texts. -/
  divided : source.toList = passed ++ rest
  /-- The cursor stands directly behind the first of them. -/
  behind : now = .behind passed now.tokens
  /-- There is a character in front of the cursor for every round. -/
  rounds_le : rounds ≤ passed.length
  /-- There is a character in front of the cursor for every token. -/
  tokens_le : now.tokens.length ≤ passed.length
  /-- The scan lists the tokens so far, and then those of the text behind the cursor. -/
  scanned : scanner.scan source = (scanner.scanFrom passed rest).map (now.tokens ++ ·)

section Standing

variable
    {rounds : Nat}
    {now : Progress}

theorem StandsBehind.source_eq
    (stands : StandsBehind scanner source rounds now passed rest) :
    source = String.ofList passed ++ String.ofList rest := by
  rw [← String.ofList_append, ← stands.divided, String.ofList_toList]

theorem StandsBehind.cursor_eq
    (stands : StandsBehind scanner source rounds now passed rest) :
    now.cursor = (String.ofList passed).utf8ByteSize :=
  congrArg Progress.cursor stands.behind

theorem StandsBehind.cursor_lt_iff
    (stands : StandsBehind scanner source rounds now passed rest) :
    now.cursor < source.utf8ByteSize ↔ rest ≠ [] := by
  rw [stands.behind]
  exact Progress.cursor_behind_lt_iff stands.divided now.tokens

/-- At the end the tokens so far are those of the scan. -/
theorem StandsBehind.scan_eq_ok
    (stands : StandsBehind scanner source rounds now passed rest)
    (finished : rest = []) :
    scanner.scan source = .ok now.tokens := by
  rw [stands.scanned, finished, scanFrom_nil, Except.map, List.append_nil]

/-- What a round does where the loop stands in front of some text. -/
theorem StandsBehind.round?_cases
    (stands : StandsBehind scanner source rounds now passed rest)
    (unfinished : rest ≠ []) :
    (∃ fault,
      scanner.round? source now = some (.error fault) ∧
        scanner.scan source = .error fault) ∨
      ∃ taken further listed,
        taken ≠ [] ∧
          rest = taken ++ further ∧
          listed.length ≤ taken.length ∧
          scanner.round? source now =
            some
              (.ok
                ⟨now.cursor + (String.ofList taken).utf8ByteSize, now.tokens ++ listed⟩) ∧
          scanner.scan source =
            (scanner.scanFrom (passed ++ taken) further).map (now.tokens ++ listed ++ ·) := by
  cases roundBehind scanner stands.divided unfinished now.tokens with
  | @fails fault failed scanned =>
      rw [← stands.behind] at failed
      refine .inl ⟨fault, failed, ?_⟩
      rw [stands.scanned, scanned]
      rfl
  | @advances taken further listed taking cut few done scanned =>
      rw [← stands.behind, Progress.behind_append, ← stands.cursor_eq] at done
      refine .inr ⟨taken, further, listed, taking, cut, few, done, ?_⟩
      rw [stands.scanned, scanned, map_append_map]

/-- A round that does not fail keeps the invariant. -/
theorem StandsBehind.round
    {later : Progress}
    (stands : StandsBehind scanner source rounds now passed rest)
    (unfinished : now.cursor < source.utf8ByteSize)
    (done : scanner.round? source now = some (.ok later)) :
    ∃ front back, StandsBehind scanner source (rounds + 1) later front back := by
  rcases stands.round?_cases (stands.cursor_lt_iff.1 unfinished) with
    ⟨fault, failed, -⟩ | ⟨taken, further, listed, taking, cut, few, advanced, scanned⟩
  · rw [failed] at done
    cases done
  · rw [advanced] at done
    cases done
    have positive := List.length_pos_iff.2 taking
    have roundsLe := stands.rounds_le
    have tokensLe := stands.tokens_le
    refine ⟨passed ++ taken, further, ?_, ?_, ?_, ?_, scanned⟩
    · rw [stands.divided, cut, List.append_assoc]
    · rw [Progress.behind_append, stands.cursor_eq]
    · rw [List.length_append]
      omega
    · rw [List.length_append, List.length_append]
      omega

/-- Wherever the loop arrives, it stands between two texts that make up the source. -/
theorem Arrives.exists_standsBehind
    (arrived : scanner.Arrives source rounds now) :
    ∃ passed rest, StandsBehind scanner source rounds now passed rest := by
  induction arrived with
  | start =>
      refine ⟨[], source.toList, rfl, rfl, Nat.le_refl _, Nat.le_refl _, ?_⟩
      exact (map_nil_append (scanner.scanFrom [] source.toList)).symm
  | round front unfinished done ih =>
      rcases ih with ⟨passed, rest, stands⟩
      exact stands.round unfinished done

/-- When the loop ends without a fault, its rounds have come to the end. -/
theorem Arrives.exists_last
    {allowed : Nat}
    {tokens : List Token}
    (arrived : scanner.Arrives source rounds now)
    (left : scanner.loop? source allowed now = some (.ok tokens)) :
    ∃ total last,
      scanner.Arrives source total last ∧
        source.utf8ByteSize ≤ last.cursor ∧ last.tokens = tokens := by
  induction allowed generalizing rounds now with
  | zero =>
      rw [loop?] at left
      split at left
      · cases left
      · rename_i finished
        cases left
        exact ⟨rounds, now, arrived, Nat.le_of_not_lt finished, rfl⟩
  | succ allowed ih =>
      rw [loop?] at left
      split at left
      · rename_i unfinished
        split at left
        · cases left
        · cases left
        · rename_i later done
          exact ih (arrived.round unfinished done) left
      · rename_i finished
        cases left
        exact ⟨rounds, now, arrived, Nat.le_of_not_lt finished, rfl⟩

/-- A loop that does not fail arrives at the end of the source, with all its tokens. -/
theorem exists_arrives_of_loop?
    {tokens : List Token}
    (ends : scanner.loop? source source.length .start = some (.ok tokens)) :
    tokens.length ≤ source.length ∧
      ∃ rounds,
        rounds ≤ source.length ∧
          scanner.Arrives source rounds ⟨source.utf8ByteSize, tokens⟩ := by
  rcases Arrives.start.exists_last ends with ⟨rounds, last, arrived, atEnd, rfl⟩
  rcases arrived.exists_standsBehind with ⟨passed, rest, stands⟩
  have finished : rest = [] :=
    Classical.not_not.1 fun unfinished =>
      Nat.not_lt_of_le atEnd (stands.cursor_lt_iff.2 unfinished)
  have whole : source = String.ofList passed := by
    rw [stands.source_eq, finished, String.ofList_nil, String.append_empty]
  have length : source.length = passed.length := by
    rw [whole, String.length_ofList]
  have cursor : last.cursor = source.utf8ByteSize := by
    rw [stands.cursor_eq, ← whole]
  refine ⟨length ▸ stands.tokens_le, rounds, length ▸ stands.rounds_le, ?_⟩
  rw [← cursor]
  exact arrived

end Standing

end Rounds

/--
The loop of a scan ends, with the result of the scan, in at most as many rounds as the source has
characters.  After every round the cursor stands between two characters of the source, or at one
of its ends, and there are at most as many rounds and tokens as characters in front of it.  A round
fails like the scan, or takes at least one character and lists at most one token for each.
-/
theorem loop?_eq_scan
    (scanner : Scanner)
    (source : String) :
    scanner.loop? source source.length .start = some (scanner.scan source) ∧
      (∀ rounds now,
        scanner.Arrives source rounds now →
          (⟨now.cursor⟩ : String.Pos.Raw).IsValid source ∧
            ∃ front back : String,
              source = front ++ back ∧
                now.cursor = front.utf8ByteSize ∧
                rounds ≤ front.length ∧
                now.tokens.length ≤ front.length ∧
                (back = "" → scanner.scan source = .ok now.tokens) ∧
                (back ≠ "" →
                  (∃ fault,
                    scanner.round? source now = some (.error fault) ∧
                      scanner.scan source = .error fault) ∨
                    ∃ (taken further : String) (listed : List Token),
                      back = taken ++ further ∧
                        0 < taken.length ∧
                        listed.length ≤ taken.length ∧
                        scanner.round? source now =
                          some
                            (.ok
                              ⟨now.cursor + taken.utf8ByteSize, now.tokens ++ listed⟩))) ∧
      ∀ tokens,
        scanner.scan source = .ok tokens →
          tokens.length ≤ source.length ∧
            ∃ rounds,
              rounds ≤ source.length ∧
                scanner.Arrives source rounds ⟨source.utf8ByteSize, tokens⟩ := by
  have ends : scanner.loop? source source.length .start = some (scanner.scan source) := by
    rw [scan, ← map_nil_append (scanner.scanFrom [] source.toList)]
    apply scanner.loop?_behind (List.nil_append source.toList).symm
    exact Nat.le_of_eq String.length_toList
  refine ⟨ends, ?_, ?_⟩
  · intro rounds now arrived
    rcases arrived.exists_standsBehind with ⟨passed, rest, stands⟩
    refine ⟨?_, String.ofList passed, String.ofList rest, stands.source_eq, stands.cursor_eq,
      ?_, ?_, ?_, ?_⟩
    · rw [String.Pos.Raw.isValid_iff_exists_append]
      exact ⟨_, _, stands.source_eq, congrArg String.Pos.Raw.mk stands.cursor_eq⟩
    · rw [String.length_ofList]
      exact stands.rounds_le
    · rw [String.length_ofList]
      exact stands.tokens_le
    · intro finished
      exact stands.scan_eq_ok (String.ofList_eq_empty_iff.1 finished)
    · intro unfinished
      rw [ne_eq, String.ofList_eq_empty_iff] at unfinished
      rcases stands.round?_cases unfinished with
        failed | ⟨taken, further, listed, taking, cut, few, done, -⟩
      · exact .inl failed
      · refine .inr ⟨String.ofList taken, String.ofList further, listed, ?_, ?_, ?_, done⟩
        · rw [cut, String.ofList_append]
        · rw [String.length_ofList]
          exact List.length_pos_iff.2 taking
        · rw [String.length_ofList]
          exact few
  · intro tokens scanned
    rw [scanned] at ends
    exact exists_arrives_of_loop? ends

/--
A word boundary enters a grammar, and its empty match at the start does not keep the loop there:
it comes to the end of four characters, which are five bytes.
-/
theorem loop?_eq_scan_boundary :
    let boundary : Rule := ⟨"BOUNDARY", "\\b", .edge (.word .unicode .boundary)⟩
    let word : Rule := ⟨"WORD", "[a-z]+", .repetition 1 none true (.chars (.range 'a' 'z'))⟩
    let options := { ScanOptions.standard with caseInsensitive := false }
    let scanner : Scanner := ⟨⟨[boundary, word]⟩, options, options.classifier⟩
    let tokens : List Token := [⟨"ab", "WORD"⟩, ⟨" é", "INVALID"⟩]
    Grammar.ofEntries .basic [("BOUNDARY", "\\b"), ("WORD", "[a-z]+")] = .ok scanner.grammar ∧
      boundary.expr.matchLength? none "ab é".toList = some 0 ∧
      scanner.loop? "ab é" 4 .start = some (.ok tokens) ∧
      ∃ rounds, rounds ≤ 4 ∧ scanner.Arrives "ab é" rounds ⟨5, tokens⟩ := by
  intro boundary word options scanner tokens
  have scanned : scanner.scan "ab é" = .ok tokens := by
    have evaluated : options.label (scanner.grammar.spans "ab é".toList) = tokens := by
      decide +kernel
    have lenient : options.strictStrings = false := rfl
    have listed := scanner.grammar.scan_eq_label lenient "ab é"
    rw [Grammar.scan_eq_scanFrom, evaluated] at listed
    exact listed
  have four : "ab é".length = 4 := by decide +kernel
  have five : "ab é".utf8ByteSize = 5 := by decide +kernel
  obtain ⟨ends, -, lists⟩ := loop?_eq_scan scanner "ab é"
  obtain ⟨-, rounds, few, arrived⟩ := lists tokens scanned
  rw [four, scanned] at ends
  rw [four] at few
  rw [five] at arrived
  exact ⟨rfl, by decide +kernel, ends, rounds, few, arrived⟩

end Scanner

end CallScript
