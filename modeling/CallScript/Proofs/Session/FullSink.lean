import CallScript.Proofs.Session.Effects

/-!
# Sessions with a full output

A session whose output takes a limited number of bytes is compared with the
same session on an output without a limit.  Both go through the same calls,
also behind calls that fail.  Their cores stay the same, and the limited output
holds the beginning of what the other one holds.  The main statement,
`Session.limited_of_unlimited`, also says which calls fail, and that those
which do not fail have the same outcome in both sessions.
-/

namespace CallScript

/-- A limited output holds as much as fits of what an unlimited one holds. -/
structure Sink.IsLimited (capacity : Nat) (limited unlimited : Sink) : Prop where
  limit : limited.capacity = some capacity
  noLimit : unlimited.capacity = none
  stored : limited.stored = unlimited.stored.take capacity

namespace Sink

variable
    {capacity : Nat}
    {limited unlimited : Sink}

theorem stored_write_of_noLimit
    {sink : Sink}
    (noLimit : sink.capacity = none)
    (bytes : List UInt8) :
    (sink.write bytes).stored = sink.stored ++ bytes := by
  simp [write, kept, noLimit]

theorem fits_of_noLimit
    {sink : Sink}
    (noLimit : sink.capacity = none)
    (bytes : List UInt8) :
    sink.fits bytes = true := by
  simp [fits, noLimit]

theorem IsLimited.write
    (related : IsLimited capacity limited unlimited)
    (bytes : List UInt8) :
    IsLimited capacity (limited.write bytes) (unlimited.write bytes) := by
  constructor
  · exact related.limit
  · exact related.noLimit
  · rw [stored_write_of_noLimit related.noLimit, List.take_append, ← related.stored]
    -- The room left is the same by either length, as the lengths differ beyond the limit only.
    have room :
        bytes.take (capacity - limited.stored.length) =
          bytes.take (capacity - unlimited.stored.length) := by
      rw [related.stored, List.length_take]
      congr 1
      omega
    simp only [Sink.write, kept, related.limit, room]

/-- Bytes do not fit exactly when one of them has its place behind the limit. -/
theorem IsLimited.fits_eq_false_iff
    (related : IsLimited capacity limited unlimited)
    (bytes : List UInt8) :
    limited.fits bytes = false ↔
      ∃ index < bytes.length, capacity ≤ unlimited.stored.length + index := by
  simp only [fits, related.limit, related.stored, List.length_take, decide_eq_false_iff_not]
  constructor
  · intro exceeding
    exact ⟨capacity - unlimited.stored.length, by omega, by omega⟩
  · rintro ⟨index, inside, behind⟩
    omega

end Sink

namespace Session

/--
A session with a limited output beside the same session with an unlimited one, on
inputs that can be read to their ends.
-/
structure IsLimited
    {State : Type}
    (capacity : Nat)
    (limited unlimited : Session State) : Prop where
  core : limited.core = unlimited.core
  output : Sink.IsLimited capacity limited.output unlimited.output
  readable : limited.inputFails = false
  unlimitedReadable : unlimited.inputFails = false

section Calls

variable
    {State : Type}
    (evaluator : Evaluator State)
    {capacity : Nat}
    {limited unlimited : Session State}

theorem IsLimited.fits_nil
    (related : IsLimited capacity limited unlimited) :
    limited.output.fits [] = true := by
  cases room : limited.output.fits [] with
  | true => rfl
  | false =>
      rcases (related.output.fits_eq_false_iff []).1 room with ⟨index, inside, -⟩
      cases inside

theorem isLimited_start
    (admission : Admission)
    (input : List UInt8)
    (capacity : Nat)
    (evaluation : State) :
    IsLimited capacity
      (start admission input (some capacity) evaluation)
      (start admission input none evaluation) := by
  exact ⟨rfl, ⟨rfl, rfl, by simp [start, Sink.empty]⟩, rfl, rfl⟩

theorem breaksOff_of_readable
    {session : Session State}
    (readable : session.inputFails = false) :
    breaksOff session.inputFails session.input = false := by
  rw [readable]
  rfl

theorem IsLimited.sameLine
    (related : IsLimited capacity limited unlimited)
    (call : Call) :
    call.builtin = .input →
      breaksOff limited.inputFails limited.input =
        breaksOff unlimited.inputFails unlimited.input := by
  intro _
  rw [breaksOff_of_readable related.readable, breaksOff_of_readable related.unlimitedReadable]

theorem IsLimited.perform
    (related : IsLimited capacity limited unlimited)
    (call : Call) :
    IsLimited capacity
      (limited.perform evaluator call).1
      (unlimited.perform evaluator call).1 := by
  constructor
  · cases written : call.text? with
    | none =>
        exact
          (perform_congr_of_silent evaluator call related.core (related.sameLine call) written).1
    | some text =>
        rw [core_perform_of_text evaluator call limited written,
          core_perform_of_text evaluator call unlimited written]
        exact related.core
  · rw [output_perform, output_perform]
    exact related.output.write call.bytes
  · rw [inputFails_perform, related.readable]
  · rw [inputFails_perform, related.unlimitedReadable]

/-- Calls keep the two sessions beside each other. -/
theorem IsLimited.after
    (related : IsLimited capacity limited unlimited)
    (calls : List Call) :
    IsLimited capacity
      (limited.after evaluator calls)
      (unlimited.after evaluator calls) := by
  induction calls generalizing limited unlimited with
  | nil => exact related
  | cons call calls ih => exact ih (related.perform evaluator call)

theorem perform_ok_of_noLimit
    (session : Session State)
    (call : Call)
    (noLimit : session.output.capacity = none)
    (readable : session.inputFails = false) :
    ∃ outcome, (session.perform evaluator call).2 = .ok outcome := by
  rcases perform_cases evaluator session call (Sink.fits_of_noLimit noLimit []) with
    ⟨-, full, -⟩ | ⟨-, ⟨-, -, broken⟩ | ⟨succeeds, -⟩⟩
  · rw [Sink.fits_of_noLimit noLimit] at full
    cases full
  · rw [breaksOff_of_readable readable] at broken
    cases broken
  · exact succeeds

/-- On an input that can be read to its end, a call that fails has read nothing. -/
theorem input_perform_of_error
    (session : Session State)
    (call : Call)
    (room : session.output.fits [] = true)
    (readable : session.inputFails = false)
    {failure : CallFailure}
    (failed : (session.perform evaluator call).2 = .error failure) :
    (session.perform evaluator call).1.input = session.input := by
  rcases perform_cases evaluator session call room with
    ⟨-, -, unread⟩ | ⟨-, ⟨-, -, broken⟩ | ⟨⟨outcome, succeeds⟩, -⟩⟩
  · exact unread
  · rw [breaksOff_of_readable readable] at broken
    cases broken
  · rw [succeeds] at failed
    cases failed

/-- A call that succeeds in both sessions has the same outcome in both. -/
theorem IsLimited.outcome_eq
    (related : IsLimited capacity limited unlimited)
    (call : Call)
    {outcome limitedOutcome : Outcome}
    (succeeds : (unlimited.perform evaluator call).2 = .ok outcome)
    (limitedSucceeds : (limited.perform evaluator call).2 = .ok limitedOutcome) :
    limitedOutcome = outcome := by
  -- Only a call that writes can fail in one session alone, and what it returns is fixed.
  cases written : call.text? with
  | none =>
      rw [(perform_congr_of_silent evaluator call related.core (related.sameLine call) written).2,
        succeeds] at limitedSucceeds
      cases limitedSucceeds
      rfl
  | some text =>
      rw [outcome_of_text evaluator unlimited call written succeeds,
        outcome_of_text evaluator limited call written limitedSucceeds]

end Calls

/--
Whatever calls two sessions have gone through, of which one has an output with
room for so many bytes and the other one has an output without a limit: their
variables are the same, and the limited output holds the first bytes of what
the unlimited one holds, as many as there is room for.

The next call adds bytes to the unlimited output and succeeds there.  It fails
in the limited session exactly when one of these bytes has its place behind the
limit, and it then reads nothing of the input.  When it does not fail, it has
the same outcome in both sessions.
-/
theorem limited_of_unlimited
    {State : Type}
    (evaluator : Evaluator State)
    (admission : Admission)
    (input : List UInt8)
    (evaluation : State)
    (capacity : Nat)
    (calls : List Call) :
    let limited := (start admission input (some capacity) evaluation).after evaluator calls
    let unlimited := (start admission input none evaluation).after evaluator calls
    limited.environment = unlimited.environment ∧
      limited.evaluation = unlimited.evaluation ∧
      limited.output.stored =
        unlimited.output.stored.take (min capacity unlimited.output.stored.length) ∧
      ∀ call : Call,
        ∃ written outcome,
          (unlimited.perform evaluator call).1.output.stored =
              unlimited.output.stored ++ written ∧
            (unlimited.perform evaluator call).2 = .ok outcome ∧
            ((∃ failure, (limited.perform evaluator call).2 = .error failure) ↔
              ∃ index < written.length, capacity ≤ unlimited.output.stored.length + index) ∧
            (∀ failure,
              (limited.perform evaluator call).2 = .error failure →
                (limited.perform evaluator call).1.input = limited.input) ∧
            ∀ limitedOutcome,
              (limited.perform evaluator call).2 = .ok limitedOutcome →
                limitedOutcome = outcome := by
  intro limited unlimited
  have related : IsLimited capacity limited unlimited :=
    (isLimited_start admission input capacity evaluation).after evaluator calls
  have cores := related.core
  simp only [core, Prod.mk.injEq] at cores
  refine ⟨cores.1, cores.2.1, ?_, ?_⟩
  · rw [related.output.stored]
    exact List.take_eq_take_min
  · intro call
    rcases unlimited.perform_ok_of_noLimit evaluator call related.output.noLimit
        related.unlimitedReadable with
      ⟨outcome, succeeds⟩
    refine ⟨call.bytes, outcome, ?_, succeeds, ?_, ?_, ?_⟩
    · rw [output_perform]
      exact Sink.stored_write_of_noLimit related.output.noLimit call.bytes
    · rw [perform_fails_iff evaluator limited call related.fits_nil,
        breaksOff_of_readable related.readable]
      simpa using related.output.fits_eq_false_iff call.bytes
    · intro failure
      exact input_perform_of_error evaluator limited call related.fits_nil related.readable
    · intro limitedOutcome limitedSucceeds
      exact related.outcome_eq evaluator call succeeds limitedSucceeds

end Session

end CallScript
