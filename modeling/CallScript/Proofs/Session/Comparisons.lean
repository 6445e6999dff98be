import CallScript.Session.Call

/-!
# Comparisons

Six built-ins compare their first two operands.  Equality looks at the types of the
operands, and the four orderings at an order that the operands may have.  That order
has two sources.  Two texts are compared as texts, and by `order?_of_mixed` any
other two operands are compared by their ranks: the key of the number that an operand
stands for, which is missing when the operand is absent, a function, no numeral or not a
number.

Three operands are therefore all compared as texts, or all by their ranks, unless
exactly two of them are texts.  Then one pair is compared as texts and the others by
their ranks, and the orderings are not transitive any more.

The main statement, `Session.areCoherent_answer`, is about the calls themselves, in any
session and under any evaluator.
-/

namespace CallScript

/-- The built-ins that test the order of their operands. -/
def Builtin.orderings : List Builtin :=
  [.lessThan, .lessOrEqual, .greaterThan, .greaterOrEqual]

/-- The built-ins that compare their operands. -/
def Builtin.comparisons : List Builtin :=
  .equal :: .notEqual :: orderings

/-- The operand is a text. -/
def isText : Option Value → Bool
  | some (.text _) => true
  | _ => false

/-- Operands that have no order, whatever they are compared with. -/
inductive IsUnordered : Option Value → Prop where
  | absent : IsUnordered none
  | function (record : FunctionRecord) (identity : Nat) :
      IsUnordered (some (.function record identity))
  | nan {content : Binary64} :
      content.isNaN = true → IsUnordered (some (.number content))

/-- How the answers of the six comparisons depend on each other. -/
structure AreCoherent (answer : Builtin → Option Value → Option Value → Bool) : Prop where
  /-- Inequality is the negation of equality. -/
  notEqual_eq_not (left right : Option Value) :
    answer .notEqual left right = !answer .equal left right
  /-- Equality does not depend on the order of the operands. -/
  equal_comm (left right : Option Value) :
    answer .equal left right = answer .equal right left
  /-- An operand is less than those that are greater than it. -/
  lessThan_eq_greaterThan (left right : Option Value) :
    answer .lessThan left right = answer .greaterThan right left
  /-- The same without strictness. -/
  lessOrEqual_eq_greaterOrEqual (left right : Option Value) :
    answer .lessOrEqual left right = answer .greaterOrEqual right left
  /-- Operands have no order, or exactly one of three. -/
  trichotomy (left right : Option Value) :
    (∀ ordering ∈ Builtin.orderings, answer ordering left right = false) ∨
      [answer .lessThan left right, answer .greaterThan left right,
        answer .lessOrEqual left right && answer .greaterOrEqual left right].count true = 1
  /-- The left operand is less or equal in the first and in the third of these cases. -/
  lessOrEqual_eq_or (left right : Option Value) :
    answer .lessOrEqual left right =
      (answer .lessThan left right ||
        (answer .lessOrEqual left right && answer .greaterOrEqual left right))
  /-- Operands without an order are in none. -/
  ordering_eq_false (left right : Option Value) :
    IsUnordered left ∨ IsUnordered right →
      ∀ ordering ∈ Builtin.orderings, answer ordering left right = false
  /-- Between values of one type, equality is the third case of the order. -/
  equal_eq_and (left right : Value) :
    left.typeName = right.typeName →
      left.typeName ≠ "function" →
        answer .equal (some left) (some right) =
          (answer .lessOrEqual (some left) (some right) &&
            answer .greaterOrEqual (some left) (some right))
  /-- The strict order is transitive, unless exactly two of the operands are texts. -/
  lessThan_trans (first second third : Option Value) :
    [first, second, third].countP isText ≠ 2 →
      answer .lessThan first second = true →
        answer .lessThan second third = true → answer .lessThan first third = true
  /-- The same without strictness. -/
  lessOrEqual_trans (first second third : Option Value) :
    [first, second, third].countP isText ≠ 2 →
      answer .lessOrEqual first second = true →
        answer .lessOrEqual second third = true → answer .lessOrEqual first third = true

/-! ## Keys that may be missing -/

section CompareKeys

variable
    {α : Type}
    [Ord α]

/-- The order of two keys; there is none where a key is missing. -/
def compareKeys : Option α → Option α → Option Ordering
  | some left, some right => some (compare left right)
  | _, _ => none

@[simp]
theorem compareKeys_none_left
    (right : Option α) :
    compareKeys none right = none :=
  rfl

@[simp]
theorem compareKeys_none_right
    (left : Option α) :
    compareKeys left none = none := by
  cases left with
  | none => rfl
  | some left => rfl

theorem compareKeys_eq_some_iff
    {left right : Option α}
    {order : Ordering} :
    compareKeys left right = some order ↔
      ∃ first second, left = some first ∧ right = some second ∧ compare first second = order := by
  constructor
  · intro known
    cases left with
    | none => cases known
    | some first =>
        cases right with
        | none => cases known
        | some second => exact ⟨first, second, rfl, rfl, Option.some.inj known⟩
  · rintro ⟨first, second, rfl, rfl, known⟩
    exact congrArg some known

variable [Std.TransOrd α]

theorem compareKeys_swap
    (left right : Option α) :
    compareKeys right left = (compareKeys left right).map Ordering.swap := by
  cases left with
  | none => simp
  | some left =>
      cases right with
      | none => simp
      | some right => exact congrArg some Std.OrientedCmp.eq_swap

theorem compareKeys_lt_trans
    {first second third : Option α}
    (firstSecond : compareKeys first second = some .lt)
    (secondThird : compareKeys second third = some .lt) :
    compareKeys first third = some .lt := by
  obtain ⟨a, b, rfl, rfl, ab⟩ := compareKeys_eq_some_iff.1 firstSecond
  obtain ⟨_, c, same, rfl, bc⟩ := compareKeys_eq_some_iff.1 secondThird
  cases same
  exact compareKeys_eq_some_iff.2 ⟨a, c, rfl, rfl, Std.TransCmp.lt_trans ab bc⟩

theorem compareKeys_isLE_trans
    {first second third : Option α}
    (firstSecond : (compareKeys first second).any Ordering.isLE = true)
    (secondThird : (compareKeys second third).any Ordering.isLE = true) :
    (compareKeys first third).any Ordering.isLE = true := by
  obtain ⟨_, known, ab⟩ := (Option.any_eq_true _ _).1 firstSecond
  obtain ⟨_, knownNext, bc⟩ := (Option.any_eq_true _ _).1 secondThird
  obtain ⟨a, b, rfl, rfl, rfl⟩ := compareKeys_eq_some_iff.1 known
  obtain ⟨_, c, same, rfl, rfl⟩ := compareKeys_eq_some_iff.1 knownNext
  cases same
  exact Std.TransCmp.isLE_trans ab bc

end CompareKeys

/-! ## The order of operands -/

/-- The key of a number, which is missing when the number has no value. -/
def Binary64.key? (number : Binary64) : Option Int :=
  if number.isNaN then none else some number.key

theorem Binary64.compare?_eq_compareKeys
    (left right : Binary64) :
    left.compare? right = compareKeys left.key? right.key? := by
  rw [compare?, key?, key?]
  cases left.isNaN with
  | true => simp
  | false =>
      cases right.isNaN with
      | true => simp
      | false => simp [compareKeys]

/-- The key of the number that an operand stands for. -/
def rank? (operand : Option Value) : Option Int :=
  (operand.bind Value.number?).bind Binary64.key?

theorem IsUnordered.rank?_eq_none
    {operand : Option Value}
    (unordered : IsUnordered operand) :
    rank? operand = none := by
  cases unordered with
  | absent => rfl
  | function record identity => rfl
  | nan isNaN =>
      rw [rank?, Option.bind_some, Value.number?, Option.bind_some, Binary64.key?, if_pos isNaN]

theorem IsUnordered.isText_eq_false
    {operand : Option Value}
    (unordered : IsUnordered operand) :
    isText operand = false := by
  cases unordered with
  | absent => rfl
  | function record identity => rfl
  | nan isNaN => rfl

theorem exists_text
    {operand : Option Value}
    (text : isText operand = true) :
    ∃ content, operand = some (.text content) := by
  cases operand with
  | none => cases text
  | some value =>
      cases value with
      | text content => exact ⟨content, rfl⟩
      | number content => cases text
      | bool content => cases text
      | function record identity => cases text

/-- The order of two operands, if they have one. -/
def order? : Option Value → Option Value → Option Ordering
  | some left, some right => left.compare? right
  | _, _ => none

theorem areOrdered_eq_any
    (left right : Option Value)
    (test : Ordering → Bool) :
    areOrdered left right test = (order? left right).any test := by
  cases left with
  | none => rfl
  | some left =>
      cases right with
      | none => rfl
      | some right => rfl

theorem order?_texts
    (left right : String) :
    order? (some (.text left)) (some (.text right)) = compareKeys (some left) (some right) :=
  rfl

/-- Unless both of them are texts, two values are compared as numbers. -/
theorem Value.compare?_of_mixed
    {left right : Value}
    (mixed : (isText (some left) && isText (some right)) = false) :
    left.compare? right =
      left.number?.bind fun first => right.number?.bind fun second => first.compare? second := by
  rw [compare?]
  · rfl
  · rintro left right rfl rfl
    cases mixed

/-- Unless both of them are texts, two operands are compared by their ranks. -/
theorem order?_of_mixed
    {left right : Option Value}
    (mixed : (isText left && isText right) = false) :
    order? left right = compareKeys (rank? left) (rank? right) := by
  cases left with
  | none => rfl
  | some left =>
      cases right with
      | none => exact (compareKeys_none_right _).symm
      | some right =>
          rw [order?, Value.compare?_of_mixed mixed, rank?, rank?, Option.bind_some,
            Option.bind_some]
          cases left.number? with
          | none => rfl
          | some first =>
              cases right.number? with
              | none => exact (compareKeys_none_right _).symm
              | some second =>
                  rw [Option.bind_some, Option.bind_some, Binary64.compare?_eq_compareKeys,
                    Option.bind_some, Option.bind_some]

theorem order?_swap
    (left right : Option Value) :
    order? right left = (order? left right).map Ordering.swap := by
  cases mixed : isText left && isText right with
  | true =>
      obtain ⟨leftText, rightText⟩ := Bool.and_eq_true_iff.1 mixed
      obtain ⟨left, rfl⟩ := exists_text leftText
      obtain ⟨right, rfl⟩ := exists_text rightText
      rw [order?_texts, order?_texts, compareKeys_swap]
  | false =>
      rw [order?_of_mixed mixed, order?_of_mixed (Bool.and_comm _ _ ▸ mixed), compareKeys_swap]

theorem IsUnordered.order?_eq_none
    {left right : Option Value}
    (unordered : IsUnordered left ∨ IsUnordered right) :
    order? left right = none := by
  rcases unordered with unordered | unordered
  · rw [order?_of_mixed (by simp [unordered.isText_eq_false]), unordered.rank?_eq_none,
      compareKeys_none_left]
  · rw [order?_of_mixed (by simp [unordered.isText_eq_false]), unordered.rank?_eq_none,
      compareKeys_none_right]

/--
Three operands are compared by keys of one kind, unless exactly two of them are
texts: by their texts if all of them are, and by their ranks otherwise.
-/
theorem exists_keys
    {first second third : Option Value}
    (unmixed : [first, second, third].countP isText ≠ 2) :
    ∃ (α : Type) (_ : Ord α) (_ : Std.TransOrd α) (a b c : Option α),
      order? first second = compareKeys a b ∧
        order? second third = compareKeys b c ∧ order? first third = compareKeys a c := by
  by_cases texts : isText first = true ∧ isText second = true ∧ isText third = true
  · obtain ⟨first, rfl⟩ := exists_text texts.1
    obtain ⟨second, rfl⟩ := exists_text texts.2.1
    obtain ⟨third, rfl⟩ := exists_text texts.2.2
    exact
      ⟨String, inferInstance, inferInstance, some first, some second, some third,
        order?_texts _ _, order?_texts _ _, order?_texts _ _⟩
  · -- At most one is a text, so no two of them are.
    have mixed :
        (isText first && isText second) = false ∧
          (isText second && isText third) = false ∧ (isText first && isText third) = false := by
      simp only [List.countP_cons, List.countP_nil] at unmixed
      revert texts unmixed
      generalize isText first = a
      generalize isText second = b
      generalize isText third = c
      revert a b c
      decide
    exact
      ⟨Int, inferInstance, inferInstance, rank? first, rank? second, rank? third,
        order?_of_mixed mixed.1, order?_of_mixed mixed.2.1, order?_of_mixed mixed.2.2⟩

theorem order?_lt_trans
    {first second third : Option Value}
    (unmixed : [first, second, third].countP isText ≠ 2)
    (firstSecond : order? first second = some .lt)
    (secondThird : order? second third = some .lt) :
    order? first third = some .lt := by
  obtain ⟨α, _, _, a, b, c, ab, bc, ac⟩ := exists_keys unmixed
  rw [ab] at firstSecond
  rw [bc] at secondThird
  rw [ac]
  exact compareKeys_lt_trans firstSecond secondThird

theorem order?_isLE_trans
    {first second third : Option Value}
    (unmixed : [first, second, third].countP isText ≠ 2)
    (firstSecond : (order? first second).any Ordering.isLE = true)
    (secondThird : (order? second third).any Ordering.isLE = true) :
    (order? first third).any Ordering.isLE = true := by
  obtain ⟨α, _, _, a, b, c, ab, bc, ac⟩ := exists_keys unmixed
  rw [ab] at firstSecond
  rw [bc] at secondThird
  rw [ac]
  exact compareKeys_isLE_trans firstSecond secondThird

/-! ## Equality -/

theorem Binary64.equals_comm
    (left right : Binary64) :
    left.equals right = right.equals left := by
  rw [equals, equals, compare?_eq_compareKeys, compare?_eq_compareKeys,
    compareKeys_swap right.key?]
  cases compareKeys right.key? left.key? with
  | none => rfl
  | some order =>
      cases order with
      | lt => rfl
      | eq => rfl
      | gt => rfl

theorem Value.equals_comm
    (left right : Value) :
    left.equals right = right.equals left := by
  cases left with
  | text left =>
      cases right with
      | text right => exact Bool.beq_comm
      | number right => rfl
      | bool right => rfl
      | function record identity => rfl
  | number left =>
      cases right with
      | text right => rfl
      | number right => exact Binary64.equals_comm left right
      | bool right => rfl
      | function record identity => rfl
  | bool left =>
      cases right with
      | text right => rfl
      | number right => rfl
      | bool right => exact Bool.beq_comm
      | function record identity => rfl
  | function leftRecord left =>
      cases right with
      | text right => rfl
      | number right => rfl
      | bool right => rfl
      | function rightRecord right => exact Bool.beq_comm

theorem areEqual_comm
    (left right : Option Value) :
    areEqual left right = areEqual right left := by
  cases left with
  | none =>
      cases right with
      | none => rfl
      | some right => rfl
  | some left =>
      cases right with
      | none => rfl
      | some right => exact Value.equals_comm left right

/-- Values of one type that are no functions are equal when their order tells so. -/
theorem Value.equals_eq_compare?
    {left right : Value}
    (sameType : left.typeName = right.typeName)
    (noFunction : left.typeName ≠ "function") :
    left.equals right = (left.compare? right == some .eq) := by
  cases left with
  | text left =>
      cases right with
      | text right =>
          rw [Bool.eq_iff_iff, equals, beq_iff_eq, beq_iff_eq]
          exact (Option.some_inj.trans Std.LawfulEqOrd.compare_eq_iff_eq).symm
      | number right => simp [typeName] at sameType
      | bool right => simp [typeName] at sameType
      | function record identity => simp [typeName] at sameType
  | number left =>
      cases right with
      | text right => simp [typeName] at sameType
      | number right =>
          rw [compare?_of_mixed rfl, number?, number?, Option.bind_some, Option.bind_some, equals,
            Binary64.equals]
      | bool right => simp [typeName] at sameType
      | function record identity => simp [typeName] at sameType
  | bool left =>
      cases right with
      | text right => simp [typeName] at sameType
      | number right => simp [typeName] at sameType
      | bool right =>
          -- The keys of zero and one are different.
          revert left right
          decide +kernel
      | function record identity => simp [typeName] at sameType
  | function record identity => exact absurd rfl noFunction

/-! ## Calls -/

theorem any_lt_iff
    (order : Option Ordering) :
    order.any (· == .lt) = true ↔ order = some .lt := by
  cases order with
  | none => simp
  | some order => simp

theorem any_ne_gt_eq
    (order : Option Ordering) :
    order.any (· != .gt) = order.any Ordering.isLE := by
  rcases order with _ | _ | _ | _
  all_goals rfl

/-- The orders in which an ordering holds. -/
def Builtin.accepts : Builtin → Ordering → Bool
  | .lessThan, order => order == .lt
  | .lessOrEqual, order => order != .gt
  | .greaterThan, order => order == .gt
  | .greaterOrEqual, order => order != .lt
  | _, _ => false

namespace Session

variable
    {State : Type}
    (evaluator : Evaluator State)
    (session : Session State)

/-- The call of a built-in with two operands comes back with the truth value true. -/
def answer (builtin : Builtin) (left right : Option Value) : Bool :=
  (session.call evaluator builtin [left, right]).2 matches .ok (.value (.bool true))

theorem answer_of_call
    {builtin : Builtin}
    {left right : Option Value}
    {truth : Bool}
    (called :
      session.call evaluator builtin [left, right] = (session, .ok (.ofBool truth))) :
    session.answer evaluator builtin left right = truth := by
  rw [answer, called]
  cases truth with
  | false => rfl
  | true => rfl

theorem call_ordering
    {ordering : Builtin}
    (listed : ordering ∈ Builtin.orderings)
    (args : List (Option Value)) :
    session.call evaluator ordering args =
      (session,
        .ok (.ofBool ((order? (argument args 0) (argument args 1)).any ordering.accepts))) := by
  simp only [Builtin.orderings, List.mem_cons, List.not_mem_nil, or_false] at listed
  rcases listed with rfl | rfl | rfl | rfl
  all_goals
    simp only [call, areOrdered_eq_any]
    rfl

theorem answer_ordering
    {ordering : Builtin}
    (listed : ordering ∈ Builtin.orderings)
    (left right : Option Value) :
    session.answer evaluator ordering left right = (order? left right).any ordering.accepts :=
  answer_of_call evaluator session (call_ordering evaluator session listed [left, right])

theorem answer_equal
    (left right : Option Value) :
    session.answer evaluator .equal left right = areEqual left right :=
  answer_of_call evaluator session rfl

theorem answer_notEqual
    (left right : Option Value) :
    session.answer evaluator .notEqual left right = !areEqual left right :=
  answer_of_call evaluator session rfl

theorem answer_lessThan
    (left right : Option Value) :
    session.answer evaluator .lessThan left right = (order? left right).any (· == .lt) :=
  answer_ordering evaluator session (by decide) left right

theorem answer_lessOrEqual
    (left right : Option Value) :
    session.answer evaluator .lessOrEqual left right = (order? left right).any (· != .gt) :=
  answer_ordering evaluator session (by decide) left right

theorem answer_greaterThan
    (left right : Option Value) :
    session.answer evaluator .greaterThan left right = (order? left right).any (· == .gt) :=
  answer_ordering evaluator session (by decide) left right

theorem answer_greaterOrEqual
    (left right : Option Value) :
    session.answer evaluator .greaterOrEqual left right = (order? left right).any (· != .lt) :=
  answer_ordering evaluator session (by decide) left right

/-- A comparison answers with a truth value and changes nothing. -/
theorem call_comparison
    {comparison : Builtin}
    (listed : comparison ∈ Builtin.comparisons)
    (args : List (Option Value)) :
    session.call evaluator comparison args =
      (session,
        .ok
          (.ofBool (session.answer evaluator comparison (argument args 0) (argument args 1)))) := by
  rcases List.mem_cons.1 listed with rfl | listed
  · rw [answer_equal]
    rfl
  rcases List.mem_cons.1 listed with rfl | listed
  · rw [answer_notEqual]
    rfl
  · rw [answer_ordering evaluator session listed, call_ordering evaluator session listed]

theorem answer_trichotomy
    (left right : Option Value) :
    (∀ ordering ∈ Builtin.orderings, session.answer evaluator ordering left right = false) ∨
      [session.answer evaluator .lessThan left right,
        session.answer evaluator .greaterThan left right,
        session.answer evaluator .lessOrEqual left right &&
          session.answer evaluator .greaterOrEqual left right].count true = 1 := by
  rw [answer_lessThan, answer_lessOrEqual, answer_greaterThan, answer_greaterOrEqual]
  cases known : order? left right with
  | none =>
      refine .inl fun ordering listed => ?_
      rw [answer_ordering evaluator session listed, known]
      rfl
  | some order =>
      refine .inr ?_
      cases order with
      | lt => rfl
      | eq => rfl
      | gt => rfl

theorem answer_equal_eq_and
    {left right : Value}
    (sameType : left.typeName = right.typeName)
    (noFunction : left.typeName ≠ "function") :
    session.answer evaluator .equal (some left) (some right) =
      (session.answer evaluator .lessOrEqual (some left) (some right) &&
        session.answer evaluator .greaterOrEqual (some left) (some right)) := by
  rw [answer_equal, answer_lessOrEqual, answer_greaterOrEqual, areEqual, order?,
    Value.equals_eq_compare? sameType noFunction]
  rcases left.compare? right with _ | _ | _ | _
  all_goals rfl

/--
In any session and under any evaluator, a comparison leaves the session as it is and
answers with a truth value that its first two operands determine.  The answers of the
six comparisons are coherent.
-/
theorem areCoherent_answer :
    (∀ comparison ∈ Builtin.comparisons,
        ∀ args,
          session.call evaluator comparison args =
            (session,
              .ok
                (.ofBool
                  (session.answer evaluator comparison (argument args 0) (argument args 1))))) ∧
      AreCoherent (session.answer evaluator) := by
  refine ⟨fun _ listed => call_comparison evaluator session listed, ?_⟩
  constructor
  case notEqual_eq_not =>
    intro left right
    rw [answer_notEqual, answer_equal]
  case equal_comm =>
    intro left right
    rw [answer_equal, answer_equal, areEqual_comm]
  case lessThan_eq_greaterThan =>
    intro left right
    rw [answer_lessThan, answer_greaterThan, order?_swap left right]
    rcases order? left right with _ | _ | _ | _
    all_goals rfl
  case lessOrEqual_eq_greaterOrEqual =>
    intro left right
    rw [answer_lessOrEqual, answer_greaterOrEqual, order?_swap left right]
    rcases order? left right with _ | _ | _ | _
    all_goals rfl
  case trichotomy =>
    exact answer_trichotomy evaluator session
  case lessOrEqual_eq_or =>
    intro left right
    rw [answer_lessThan, answer_lessOrEqual, answer_greaterOrEqual]
    rcases order? left right with _ | _ | _ | _
    all_goals rfl
  case ordering_eq_false =>
    intro left right unordered ordering listed
    rw [answer_ordering evaluator session listed, IsUnordered.order?_eq_none unordered]
    rfl
  case equal_eq_and =>
    intro left right sameType noFunction
    exact answer_equal_eq_and evaluator session sameType noFunction
  case lessThan_trans =>
    intro first second third unmixed firstSecond secondThird
    rw [answer_lessThan, any_lt_iff] at firstSecond secondThird ⊢
    exact order?_lt_trans unmixed firstSecond secondThird
  case lessOrEqual_trans =>
    intro first second third unmixed firstSecond secondThird
    rw [answer_lessOrEqual, any_ne_gt_eq] at firstSecond secondThird ⊢
    exact order?_isLE_trans unmixed firstSecond secondThird

/--
A blank text and both zeros stand for zero, and a truth value stands for zero or one;
their types still tell them apart.  What is not a number has no order, not even with a
text.
-/
theorem areCoherent_answer_coerced :
    let session := Session.start .permissive [] none ()
    let answer := session.answer Evaluator.idle
    let blank := some (Value.text " \n")
    let minusZero := some (Value.number (.zero true))
    let yes := some (Value.bool true)
    answer .equal blank minusZero = false ∧
      answer .equal (some (.number (.zero false))) minusZero = true ∧
      answer .lessOrEqual blank minusZero = true ∧
      answer .lessOrEqual minusZero yes = true ∧
      answer .lessOrEqual blank yes = true ∧
      answer .greaterThan (some (.number .nan)) blank = false := by
  intro session answer blank minusZero yes
  obtain ⟨-, coherent⟩ := areCoherent_answer Evaluator.idle session
  have below : answer .lessOrEqual blank minusZero = true := by decide +kernel
  have above : answer .lessOrEqual minusZero yes = true := by decide +kernel
  have zeros : answer .equal (some (.number (.zero false))) minusZero = true :=
    (coherent.equal_eq_and (.number (.zero false)) (.number (.zero true)) rfl (by decide)).trans
      (by decide +kernel)
  refine ⟨by decide +kernel, zeros, below, above, ?_, ?_⟩
  · exact coherent.lessOrEqual_trans blank minusZero yes (by decide) below above
  · exact coherent.ordering_eq_false _ _ (.inl (.nan (by decide +kernel))) _ (by decide)

/-- With exactly two texts among the operands, the strict order is not transitive. -/
example :
    let answer := (Session.start .permissive [] none ()).answer Evaluator.idle
    let number := some (Value.number (.ofRatio false 19 2))
    answer .lessThan (some (.text "10")) (some (.text "9")) = true ∧
      answer .lessThan (some (.text "9")) number = true ∧
      answer .lessThan (some (.text "10")) number = false := by
  decide +kernel

end Session

end CallScript
