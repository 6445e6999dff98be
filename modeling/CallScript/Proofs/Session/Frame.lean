import CallScript.Proofs.Session.FullSink
import CallScript.Proofs.Text.ByteOrder

/-!
# What calls leave alone

Under the idle evaluator, on an output without a limit, a call changes little:
`set` and `function` may change the variables, `print`, `printf` and `input`
append to the output, and `input` passes over a line.  Everything else leaves
the whole session as it was.

What a session has consumed of its input is then determined by the number of
its `input` calls.  The lines of an input are listed by `inputLines`, whatever
bytes they hold; a call of `input` takes the first of those that are left.  The
main statement is `Session.perform_idle_frame`.
-/

namespace CallScript

/-! ## Lines -/

/--
The lines of an input.  Each of them ends with its line feed; what stands behind
the last line feed is a line as well, unless it is empty.
-/
def inputLines : List UInt8 → List (List UInt8)
  | [] => []
  | byte :: rest =>
      if byte = 10 then [byte] :: inputLines rest
      else
        match inputLines rest with
        | [] => [[byte]]
        | line :: lines => (byte :: line) :: lines

/-- The bytes in front are a line of an input that goes on with the bytes behind. -/
inductive IsLine : List UInt8 → List UInt8 → Prop where
  /-- The line goes up to the first line feed. -/
  | ended {text behind : List UInt8} :
      10 ∉ text → IsLine (text ++ [10]) behind
  /-- Without a line feed the line goes up to the end. -/
  | unended {text : List UInt8} :
      10 ∉ text → IsLine text []

theorem flatten_inputLines
    (input : List UInt8) :
    (inputLines input).flatten = input := by
  induction input with
  | nil => rfl
  | cons byte rest ih =>
      rw [inputLines]
      split
      · rw [List.flatten_cons, ih]
        rfl
      · split
        · rename_i none
          rw [none] at ih
          rw [← ih]
          rfl
        · rename_i line lines some
          rw [some] at ih
          rw [← ih]
          rfl

/-- Behind a line there are the other lines. -/
theorem inputLines_behindLine
    (input : List UInt8) :
    inputLines (Session.behindLine input) = (inputLines input).tail := by
  induction input with
  | nil => rfl
  | cons byte rest ih =>
      rw [Session.behindLine, inputLines]
      split
      · rfl
      · rw [ih]
        cases inputLines rest with
        | nil => rfl
        | cons line lines => rfl

theorem exists_line
    (input : List UInt8) :
    ∃ line,
      input = line ++ Session.behindLine input ∧ IsLine line (Session.behindLine input) := by
  induction input with
  | nil => exact ⟨[], rfl, .unended List.not_mem_nil⟩
  | cons byte rest ih =>
      rw [Session.behindLine]
      split
      · rename_i feed
        subst feed
        exact ⟨[10], rfl, @IsLine.ended [] _ List.not_mem_nil⟩
      · rename_i other
        have apart {text : List UInt8} (free : 10 ∉ text) : 10 ∉ byte :: text := by
          rw [List.mem_cons, not_or]
          exact ⟨Ne.symm other, free⟩
        rcases ih with ⟨line, divided, isLine⟩
        refine ⟨byte :: line, congrArg (byte :: ·) divided, ?_⟩
        generalize Session.behindLine rest = behind at isLine
        cases isLine with
        | ended free => exact .ended (apart free)
        | unended free => exact .unended (apart free)

/-- Each of the listed lines is a line in front of those that are listed behind it. -/
theorem isLine_of_inputLines
    {input line : List UInt8}
    {front back : List (List UInt8)}
    (divided : inputLines input = front ++ line :: back) :
    line ≠ [] ∧ IsLine line back.flatten := by
  induction front generalizing input with
  | cons first front ih =>
      have later : inputLines (Session.behindLine input) = front ++ line :: back := by
        rw [inputLines_behindLine, divided]
        rfl
      exact ih later
  | nil =>
      have others : inputLines (Session.behindLine input) = back := by
        rw [inputLines_behindLine, divided]
        rfl
      have behind : back.flatten = Session.behindLine input := by
        rw [← others, flatten_inputLines]
      rcases exists_line input with ⟨first, whole, isLine⟩
      have same : line = first := by
        have joined := congrArg List.flatten divided
        rw [flatten_inputLines, List.nil_append, List.flatten_cons, behind] at joined
        exact List.append_cancel_right (joined.symm.trans whole)
      constructor
      · rintro rfl
        -- The first line takes something, as the lines behind it are fewer.
        rw [← same, List.nil_append] at whole
        rw [← whole, divided] at others
        have longer := congrArg List.length others
        simp at longer
      · rw [same, behind]
        exact isLine

/-! ## Templates -/

/-- The text is the template with its first percent sign, if any, replaced by the insert. -/
inductive IsFilled (insert : List Char) : List Char → List Char → Prop where
  | filled {front back : List Char} :
      '%' ∉ front → IsFilled insert (front ++ '%' :: back) (front ++ insert ++ back)
  | unfilled {template : List Char} :
      '%' ∉ template → IsFilled insert template template

theorem isFilled_fillTemplate
    (insert template : List Char) :
    IsFilled insert template (fillTemplate insert template) := by
  induction template with
  | nil => exact .unfilled List.not_mem_nil
  | cons character rest ih =>
      rw [fillTemplate]
      split
      · rename_i sign
        subst sign
        exact @IsFilled.filled _ [] _ List.not_mem_nil
      · rename_i other
        have apart {text : List Char} (free : '%' ∉ text) : '%' ∉ character :: text := by
          rw [List.mem_cons, not_or]
          exact ⟨Ne.symm other, free⟩
        generalize fillTemplate insert rest = text at ih
        cases ih with
        | filled free => exact .filled (apart free)
        | unfilled free => exact .unfilled (apart free)

/-! ## Calls -/

/-- The call appends the bytes to the output. -/
def Call.Appends (call : Call) (appended : List UInt8) : Prop :=
  let first := argument call.args 0
  let second := argument call.args 1
  match call.builtin with
  | .print => appended = Text.bytes (shown first) ++ [10]
  | .printf =>
      ∃ rendered,
        IsFilled (shown second).toList (textOrEmpty first).toList rendered ∧
          appended = Text.bytes (String.ofList rendered) ++ [10]
  | .input => appended = first.elim [] fun prompt => Text.bytes prompt.display
  | _ => appended = []

theorem Call.appends_bytes
    (call : Call) :
    call.Appends call.bytes := by
  have line (text : String) : (text ++ "\n").toUTF8.toList = Text.bytes text ++ [10] := by
    rw [Text.toList_toUTF8, Text.bytes_append]
    rfl
  rcases call with ⟨builtin, args⟩
  cases builtin with
  | print => exact line _
  | printf => exact ⟨_, isFilled_fillTemplate _ _, line _⟩
  | input =>
      rw [Appends, bytes, text?]
      cases argument args 0 with
      | none => rfl
      | some prompt => exact Text.toList_toUTF8 _
  | _ => rfl

/-- The call asks for a line of the input. -/
def Call.asks (call : Call) : Bool :=
  call.builtin == .input

namespace Session

section Idle

variable
    (session : Session Unit)
    (call : Call)

/-- Apart from five built-ins, calls leave the whole session as it was. -/
theorem perform_idle_of_quiet
    (quiet : call.builtin ∉ [.set, .function, .print, .printf, .input]) :
    (session.perform .idle call).1 = session := by
  rcases call with ⟨builtin, args⟩
  cases builtin with
  | set | function | print | printf | input => simp at quiet
  | ifThen | whileLoop =>
      simp only [perform, Session.call]
      split
      · rfl
      · rfl
  | _ => rfl

theorem environment_perform_idle
    (writesNone : call.builtin ∉ [.set, .function]) :
    (session.perform .idle call).1.environment = session.environment := by
  by_cases quiet : call.builtin ∉ [.set, .function, .print, .printf, .input]
  · rw [perform_idle_of_quiet session call quiet]
  · cases written : call.text? with
    | some text => exact congrArg Prod.fst (core_perform_of_text .idle call session written)
    | none =>
        -- A call that writes no text although it may is an `input` without a prompt.
        rcases call with ⟨builtin, args⟩
        cases builtin with
        | input =>
            simp only [perform, Session.call, Option.map_eq_none_iff.1 written]
            rfl
        | print | printf => cases written
        | _ => simp at quiet writesNone

theorem input_perform_idle
    (noLimit : session.output.capacity = none) :
    (session.perform .idle call).1.input =
      if call.asks then behindLine session.input else session.input := by
  rcases call with ⟨builtin, args⟩
  cases builtin with
  | input =>
      rw [perform_input_of_fits .idle session (Sink.fits_of_noLimit noLimit _)]
      rfl
  | print | printf => rfl
  | set | function =>
      simp only [perform, Session.call]
      split
      · rfl
      · rfl
  | _ =>
      rw [perform_idle_of_quiet session _ (by simp)]
      rfl

/-- A call of `input` passes over the next line, and no other call reads anything. -/
theorem inputLines_perform_idle
    (noLimit : session.output.capacity = none) :
    inputLines (session.perform .idle call).1.input =
      (inputLines session.input).drop (if call.asks then 1 else 0) := by
  rw [input_perform_idle session call noLimit]
  split
  · rw [inputLines_behindLine, List.drop_one]
  · rw [List.drop_zero]

theorem noLimit_perform
    (noLimit : session.output.capacity = none) :
    (session.perform .idle call).1.output.capacity = none := by
  rw [output_perform]
  exact noLimit

theorem noLimit_after
    (noLimit : session.output.capacity = none)
    (calls : List Call) :
    (session.after .idle calls).output.capacity = none := by
  induction calls generalizing session with
  | nil => exact noLimit
  | cons call calls ih => exact ih _ (session.noLimit_perform call noLimit)

theorem inputLines_after_idle
    (noLimit : session.output.capacity = none)
    (calls : List Call) :
    inputLines (session.after .idle calls).input =
      (inputLines session.input).drop (calls.countP Call.asks) := by
  induction calls generalizing session with
  | nil => rfl
  | cons call calls ih =>
      rw [after_cons, ih _ (session.noLimit_perform call noLimit),
        inputLines_perform_idle session call noLimit, List.drop_drop, List.countP_cons,
        Nat.add_comm]

end Idle

/--
In every session that calls lead to under the idle evaluator, on an output
without a limit, the next call succeeds.  It changes the variables only if it is
`set` or `function`.  The bytes that it appends to the output are a text with a
line feed for `print` and `printf`, the prompt for `input`, and none for other
calls.  A call of `input` takes a line of the input, up to the next line feed or
up to the end, and no other call reads anything.  Apart from these five
built-ins a call leaves the whole session as it was.

The lines of the input make it up, and each of them is followed by the others.
The bytes that were consumed are as many first lines as there were calls of
`input`.
-/
theorem perform_idle_frame
    (admission : Admission)
    (input : List UInt8)
    (calls : List Call) :
    let reached := (start admission input none ()).after .idle calls
    let asked := calls.countP Call.asks
    (∀ call : Call,
        let next := (reached.perform .idle call).1
        (∃ outcome, (reached.perform .idle call).2 = .ok outcome) ∧
          (call.builtin ∉ [.set, .function] → next.environment = reached.environment) ∧
          (∃ appended,
            call.Appends appended ∧
              next.output.stored = reached.output.stored ++ appended) ∧
          (if call.builtin = .input then
            ∃ line, reached.input = line ++ next.input ∧ IsLine line next.input
          else next.input = reached.input) ∧
          (call.builtin ∉ [.set, .function, .print, .printf, .input] → next = reached)) ∧
      (inputLines input).flatten = input ∧
      (∀ front line back,
        inputLines input = front ++ line :: back → line ≠ [] ∧ IsLine line back.flatten) ∧
      reached.input = ((inputLines input).drop asked).flatten ∧
      input.length - reached.input.length = ((inputLines input).take asked).flatten.length := by
  intro reached asked
  have noLimit : reached.output.capacity = none := noLimit_after _ rfl calls
  have readable : reached.inputFails = false := inputFails_after .idle _ calls
  have left : reached.input = ((inputLines input).drop asked).flatten := by
    rw [← flatten_inputLines reached.input]
    exact congrArg List.flatten (inputLines_after_idle _ rfl calls)
  refine ⟨?_, flatten_inputLines input, fun _ _ _ => isLine_of_inputLines, left, ?_⟩
  · intro call next
    refine ⟨reached.perform_ok_of_noLimit .idle call noLimit readable,
      reached.environment_perform_idle call, ⟨call.bytes, call.appends_bytes, ?_⟩, ?_,
      reached.perform_idle_of_quiet call⟩
    · rw [output_perform]
      exact Sink.stored_write_of_noLimit noLimit call.bytes
    · have behind := reached.input_perform_idle call noLimit
      split
      · rename_i asks
        rw [Call.asks, asks, beq_self_eq_true, if_pos rfl] at behind
        rw [behind]
        exact exists_line reached.input
      · rename_i asksNot
        rw [Call.asks, beq_false_of_ne asksNot] at behind
        exact behind
  · have divided :
        ((inputLines input).take asked).flatten.length + reached.input.length = input.length := by
      rw [left, ← List.length_append, ← List.flatten_append, List.take_append_drop,
        flatten_inputLines]
    omega

/-- An input that is not text has two lines, and a third call finds nothing left. -/
theorem perform_idle_frame_invalidText :
    let calls : List Call :=
      [⟨.input, [some (.text ">")]⟩, ⟨.print, []⟩, ⟨.input, []⟩, ⟨.input, []⟩]
    let reached := (start .permissive [0xff, 10, 0xc3] none ()).after .idle calls
    3 - reached.input.length = 3 ∧
      (reached.perform .idle ⟨.concat, [none]⟩).1 = reached ∧
      (reached.perform .idle ⟨.printf, [none]⟩).1.environment = reached.environment := by
  intro calls reached
  obtain ⟨step, -, -, -, consumed⟩ := perform_idle_frame .permissive [0xff, 10, 0xc3] calls
  obtain ⟨-, -, -, -, unchanged⟩ := step ⟨.concat, [none]⟩
  obtain ⟨-, unbound, -⟩ := step ⟨.printf, [none]⟩
  exact ⟨consumed, unchanged (by decide), unbound (by decide)⟩

end Session

end CallScript
