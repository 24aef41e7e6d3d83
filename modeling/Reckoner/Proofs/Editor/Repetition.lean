import Mathlib.Tactic
import Reckoner.Proofs.Editor.TakingBack

/-!
# Repeated input

An operator takes the place of the operator before it, and a number takes only one point. So of
operators that are entered one after the other the last one is left, and further points do nothing,
whatever the state they are entered in; after an error both begin with the initial state.
-/

namespace Reckoner.Editor

theorem Action.Checked.exists_operator {action : Action} (checked : action.Checked)
    (kind : action.kind = .operator) : ∃ op, action = .ofOperator op := by
  cases checked with
  | operator op => exact ⟨op, rfl⟩
  | _ => cases kind

namespace State

variable {s : State} {places : Places} {steps : List (Places × Action)}

/-! ## Typing after an error -/

/-- The state that typing goes on from: the initial one where an error is shown. -/
def resumed (s : State) : State := if s.errorState then initial else s

theorem resumed_of_running (running : s.errorState = false) : s.resumed = s := by
  rw [resumed, running, if_neg (by decide)]

theorem errorState_resumed (s : State) : s.resumed.errorState = false := by
  unfold resumed
  split
  · rfl
  · rename_i running
    rwa [Bool.not_eq_true] at running

theorem Reachable.resumed (reachable : s.Reachable) : s.resumed.Reachable := by
  unfold State.resumed
  split
  · exact .initial
  · exact reachable

theorem apply_of_typing {action : Action} (typing : action.isTyping = true) :
    s.apply places action = s.resumed.step places action := by
  unfold apply resumed
  split
  · cases action with
    | digit text | decimal | operator text => rfl
    | equals | clear | backspace => cases typing
  · rfl

theorem apply_operator (s : State) (places : Places) (op : Operator) :
    (s.apply places (.ofOperator op)).state = s.resumed.enterOperator [op.symbol] :=
  congrArg Outcome.state (apply_of_typing rfl)

theorem apply_decimal (s : State) (places : Places) :
    (s.apply places .decimal).state = s.resumed.enterDecimal :=
  congrArg Outcome.state (apply_of_typing rfl)

/-! ## One more of the same -/

theorem enterOperator_enterOperator (s : State) (op last : Operator) :
    (s.enterOperator [op.symbol]).enterOperator [last.symbol] =
      s.enterOperator [last.symbol] := by
  simp [enterOperator, Shape.endsInOperator_append]

/-- A number takes no second point. -/
theorem enterDecimal_of_pointed (number : s.lastWasOperator = false)
    (pointed : s.hasDecimal = true) : s.enterDecimal = s := by
  simp [enterDecimal, number, pointed]

theorem enterDecimal_enterDecimal (s : State) : s.enterDecimal.enterDecimal = s.enterDecimal := by
  by_cases operator : s.lastWasOperator = true
  · apply enterDecimal_of_pointed <;> simp [enterDecimal, operator]
  · by_cases free : (!s.hasDecimal && !endsInFraction s.buffer) = true
    · apply enterDecimal_of_pointed <;> simp [enterDecimal, operator, free]
    · -- The first point has already no effect.
      have same : s.enterDecimal = s := by
        rw [enterDecimal, if_neg operator, if_neg free]
      rw [same, same]

theorem errorState_enterDecimal (s : State) : s.enterDecimal.errorState = s.errorState := by
  unfold enterDecimal
  split
  · rfl
  · split <;> rfl

/-- Whether an action leaves nothing of one that came right before it. -/
def Overrides (last first : Action) : Prop :=
  ∀ (s : State) (places later : Places),
    ((s.apply places first).state.apply later last).state = (s.apply later last).state

theorem overrides_operator (op last : Operator) :
    Overrides (.ofOperator last) (.ofOperator op) := by
  intro s places later
  have running : (s.resumed.enterOperator [op.symbol]).errorState = false := errorState_resumed s
  rw [apply_operator, apply_operator, apply_operator, resumed_of_running running,
    enterOperator_enterOperator]

theorem overrides_decimal : Overrides .decimal .decimal := by
  intro s places later
  have running : s.resumed.enterDecimal.errorState = false := by
    rw [errorState_enterDecimal, errorState_resumed]
  rw [apply_decimal, apply_decimal, apply_decimal, resumed_of_running running,
    enterDecimal_enterDecimal]

/-- Nothing is left of actions before one that overrides all of them. -/
theorem run_of_overrides {last : Action}
    (overridden : ∀ step ∈ steps, Overrides last step.2) :
    s.run (steps ++ [(places, last)]) = (s.apply places last).state := by
  induction steps generalizing s with
  | nil => rfl
  | cons step steps ih =>
      obtain ⟨first, others⟩ := List.forall_mem_cons.mp overridden
      rw [List.cons_append, run_cons, ih others]
      exact first s step.1 places

/-- Of operators the last one is left. -/
theorem run_operators (operators : ∀ step ∈ steps, ∃ op, step.2 = .ofOperator op)
    (last : Operator) :
    s.run (steps ++ [(places, .ofOperator last)]) = (s.apply places (.ofOperator last)).state := by
  refine run_of_overrides fun step member => ?_
  obtain ⟨op, same⟩ := operators step member
  exact same ▸ overrides_operator op last

/-- Of points one counts, whatever the places. -/
theorem run_points (filled : steps ≠ []) (points : ∀ step ∈ steps, step.2 = .decimal)
    (places : Places) : s.run steps = (s.apply places .decimal).state := by
  cases steps using List.reverseRecOn with
  | nil => exact absurd rfl filled
  | append_singleton steps step =>
      obtain ⟨later, action⟩ := step
      obtain rfl : action = .decimal := points (later, action) (by simp)
      have alone : s.run (steps ++ [(later, .decimal)]) = (s.apply later .decimal).state := by
        refine run_of_overrides fun step member => ?_
        rw [points step (by simp [member])]
        exact overrides_decimal
      rw [alone, apply_decimal, apply_decimal]

/-! ## What repeated input comes to -/

/-- What a point adds to a buffer: a zero comes before it where no number has been begun, and
nothing is added to a number that has one. -/
def missingPoint (s : State) : List Char :=
  if s.lastWasOperator then ['0', '.'] else if endsInFraction s.buffer then [] else ['.']

section Reachable

variable (reachable : s.Reachable) (running : s.errorState = false)

include reachable running

theorem Reachable.enterOperator_eq (op : Operator) :
    s.enterOperator [op.symbol] =
      { buffer := stripOperators s.buffer ++ [op.symbol], lastWasOperator := true } := by
  have message := reachable.wellFormed.message.mpr running
  simp only [enterOperator, Shape.kept_eq_stripOperators reachable.wellFormed.shape, running,
    message]

theorem Reachable.enterDecimal_eq :
    s.enterDecimal = { buffer := s.buffer ++ s.missingPoint, hasDecimal := true } := by
  have message := reachable.wellFormed.message.mpr running
  have decimal := reachable.hasDecimal
  by_cases operator : s.lastWasOperator = true
  · simp [enterDecimal, missingPoint, operator, running, message]
  · have number : s.lastWasOperator = false := by simpa using operator
    cases pointed : endsInFraction s.buffer with
    | false => simp [enterDecimal, missingPoint, number, decimal, pointed, running, message]
    | true =>
        have whole := reachable.eq_mk running
        rw [number, pointed] at whole
        rw [enterDecimal_of_pointed number (decimal.trans pointed), missingPoint, if_neg operator,
          if_pos pointed, List.append_nil]
        exact whole

end Reachable

/-- In every state that can be reached, one that shows an error included, operators one after the
other lead where the last of them leads alone: behind what is left without operators at the end, or
behind the zero of the initial state after an error. Points one after the other lead where one of
them leads: behind an operator a number is begun with a zero, and only a number that has no point
takes one. -/
theorem repeated_input_collapses {s : State} (reachable : s.Reachable) :
    (∀ (steps : List (Places × Action)) (filled : steps ≠ []),
      (∀ step ∈ steps, step.2.Checked ∧ step.2.kind = .operator) →
        s.run steps = s.run [steps.getLast filled] ∧
        ∃ op, (steps.getLast filled).2 = .ofOperator op ∧
          s.run steps =
            { buffer := stripOperators s.resumed.buffer ++ [op.symbol], lastWasOperator := true }) ∧
    ∀ steps : List (Places × Action), steps ≠ [] → (∀ step ∈ steps, step.2 = .decimal) →
      (∀ places : Places, s.run steps = s.run [(places, .decimal)]) ∧
      s.run steps =
        { buffer := s.resumed.buffer ++ s.resumed.missingPoint, hasDecimal := true } := by
  have running := errorState_resumed s
  constructor
  · intro steps filled operators
    have named : ∀ step ∈ steps, ∃ op, step.2 = .ofOperator op := fun step member =>
      (operators step member).1.exists_operator (operators step member).2
    cases steps using List.reverseRecOn with
    | nil => exact absurd rfl filled
    | append_singleton steps step =>
        obtain ⟨places, action⟩ := step
        obtain ⟨op, rfl⟩ : ∃ op, action = .ofOperator op := named (places, action) (by simp)
        have front : ∀ step ∈ steps, ∃ op, step.2 = .ofOperator op := fun step member =>
          named step (by simp [member])
        rw [List.getLast_concat, run_operators front op]
        refine ⟨rfl, op, rfl, ?_⟩
        rw [apply_operator, reachable.resumed.enterOperator_eq running]
  · intro steps filled points
    refine ⟨run_points filled points, ?_⟩
    rw [run_points filled points .standard, apply_decimal,
      reachable.resumed.enterDecimal_eq running]

/-- Operators after an error, and points behind the zero that an equals left of an operator. -/
theorem repeated_input_collapses_divided :
    let divided := (seed .standard "6/0".toList).state
    let press (op : Operator) := (Places.standard, Action.ofOperator op)
    let operators := [Operator.add, .mul, .sub].map press
    let points := List.replicate 3 (Places.standard, Action.decimal)
    divided.Reachable ∧ divided.errorState = true ∧
      (∀ step ∈ operators, step.2.Checked ∧ step.2.kind = .operator) ∧
      divided.run operators = divided.run [press .sub] ∧
      divided.run operators = { buffer := "0-".toList, lastWasOperator := true } ∧
      leftoverZero.Reachable ∧ (∀ step ∈ points, step.2 = .decimal) ∧
      leftoverZero.run points = leftoverZero.run [(.standard, .decimal)] ∧
      leftoverZero.run points = { buffer := "00.".toList, hasDecimal := true } := by
  intro divided press operators points
  have shown : divided.errorState = true := by decide +kernel
  have reachable : divided.Reachable := Reachable.initial.seed .standard "6/0".toList
  have entered : ∀ step ∈ operators, step.2.Checked ∧ step.2.kind = .operator :=
    List.forall_mem_map.mpr fun op _ => ⟨.operator op, rfl⟩
  have pointed : ∀ step ∈ points, step.2 = .decimal := fun step member => by
    rw [List.eq_of_mem_replicate member]
  obtain ⟨last, op, same, left⟩ :=
    (repeated_input_collapses reachable).1 operators (by simp [operators]) entered
  obtain rfl : op = .sub := by
    cases op with
    | sub => rfl
    | _ => cases same
  obtain ⟨one, number⟩ :=
    (repeated_input_collapses reachable_leftoverZero).2 points (by simp [points]) pointed
  rw [resumed, if_pos shown] at left
  exact ⟨reachable, shown, entered, last, left, reachable_leftoverZero, pointed, one .standard,
    number⟩

end State

end Reckoner.Editor
