import Mathlib.Tactic
import Reckoner.Editor.Session
import Reckoner.Proofs.Editor.Invariant

/-!
# What the display tells

Checked actions, first expressions and resets lead from the initial state to the states that can be
reached. There the flags can be read off the buffer, with one exception: an equals that finds
nothing but an operator shows a zero and still counts an operator as entered last. So two states
that show the same buffer go on alike, except that a point puts a further zero behind that one.
-/

namespace Reckoner.Editor

namespace State

/-- The states that checked actions, first expressions and resets lead to, at any places. -/
inductive Reachable : State → Prop where
  | initial : Reachable .initial
  | apply {s : State} {action : Action} : Reachable s → (places : Places) → action.Checked →
      Reachable (s.apply places action).state
  | seed {s : State} : Reachable s → (places : Places) → (text : List Char) →
      Reachable (State.seed places text).state
  | resetIfError {s : State} : Reachable s → (places : Places) →
      Reachable (Session.resetIfError { places, state := s }).session.state

/-- A reset is a clear where an error is shown. -/
theorem resetIfError_state (places : Places) (s : State) :
    (Session.resetIfError { places, state := s }).session.state =
      if s.errorState then (s.apply places .clear).state else s := by
  unfold Session.resetIfError
  split <;> rfl

/-- What holds at first, and after every checked action and every first expression, holds of all
states that can be reached. -/
theorem Reachable.induct {P : State → Prop} (initial : P .initial)
    (apply : ∀ s places action, P s → Action.Checked action → P (State.apply places s action).state)
    (seed : ∀ places text, P (State.seed places text).state) {s : State} (reachable : s.Reachable) :
    P s := by
  induction reachable with
  | initial => exact initial
  | apply _ places checked ih => exact apply _ places _ ih checked
  | seed _ places text => exact seed places text
  | resetIfError _ places ih =>
      rw [resetIfError_state]
      split
      · exact apply _ places _ ih .clear
      · exact ih

theorem Reachable.wellFormed {s : State} (reachable : s.Reachable) : s.WellFormed :=
  reachable.induct wellFormed_initial (fun _ places _ wellFormed => wellFormed.apply places)
    wellFormed_seed

/-! ## The flag for an operator -/

/-- Whether an operator that counts as entered last is there, or a lone zero is. -/
def ShowsOperator (s : State) : Prop :=
  s.lastWasOperator = true → endsInOperator s.buffer = true ∨ s.buffer = ['0']

namespace ShowsOperator

variable {s : State}

/-- A state in which no operator was entered last. -/
theorem of_number (number : s.lastWasOperator = false) : s.ShowsOperator := by
  intro operator
  rw [number] at operator
  cases operator

theorem initial : State.initial.ShowsOperator := of_number rfl

theorem enterDigit (s : State) (text : List Char) : (s.enterDigit text).ShowsOperator := by
  apply of_number
  unfold State.enterDigit
  split <;> rfl

theorem enterDecimal (shows : s.ShowsOperator) : s.enterDecimal.ShowsOperator := by
  unfold State.enterDecimal
  split
  · exact of_number rfl
  · rename_i number
    split
    · exact of_number (by simpa using number)
    · exact shows

theorem enterOperator (s : State) (op : Operator) :
    (s.enterOperator [op.symbol]).ShowsOperator := by
  intro _
  exact .inl (Shape.endsInOperator_append _ op)

theorem evaluate (shows : s.ShowsOperator) (places : Places) (text : List Char) :
    (s.evaluate places text).state.ShowsOperator := by
  unfold State.evaluate
  split
  · exact of_number rfl
  · exact shows

theorem equals (shows : s.ShowsOperator) (places : Places) :
    (s.equals places).state.ShowsOperator := by
  unfold State.equals
  split
  · intro _
    exact .inr rfl
  · exact shows.evaluate places _

theorem backspace (s : State) : s.backspace.ShowsOperator := by
  unfold State.backspace
  split
  · exact initial
  · intro operator
    exact .inl operator

theorem step (shows : s.ShowsOperator) (places : Places) {action : Action}
    (checked : action.Checked) : (s.step places action).state.ShowsOperator := by
  cases checked with
  | digit _ => exact enterDigit s _
  | decimal => exact shows.enterDecimal
  | operator op => exact enterOperator s op
  | equals => exact shows.equals places
  | clear => exact initial
  | backspace => exact backspace s

theorem apply (shows : s.ShowsOperator) (places : Places) {action : Action}
    (checked : action.Checked) : (s.apply places action).state.ShowsOperator := by
  unfold State.apply
  split
  · split
    · exact shows
    · exact initial
    · exact initial
    · exact initial.step places checked
  · exact shows.step places checked

theorem seed (places : Places) (text : List Char) :
    (State.seed places text).state.ShowsOperator := by
  unfold State.seed
  split
  · exact initial
  · split
    · exact initial.evaluate places text
    · exact of_number rfl

end ShowsOperator

theorem Reachable.showsOperator {s : State} (reachable : s.Reachable) : s.ShowsOperator :=
  reachable.induct .initial (fun _ places _ shows => shows.apply places) .seed

namespace Reachable

variable {s t : State}

theorem hasDecimal (reachable : s.Reachable) : s.hasDecimal = endsInFraction s.buffer := by
  rw [Bool.eq_iff_iff, reachable.wellFormed.decimal, endsInFraction, List.contains_iff_mem]

/-- An operator was entered last exactly if one is at the end, unless a lone zero is shown. -/
theorem lastWasOperator (reachable : s.Reachable) :
    s.lastWasOperator = endsInOperator s.buffer ∨ s.buffer = ['0'] := by
  by_cases operator : s.lastWasOperator = true
  · rcases reachable.showsOperator operator with ends | zero
    · exact .inl (operator.trans ends.symm)
    · exact .inr zero
  · have ends := mt reachable.wellFormed.operator operator
    rw [Bool.not_eq_true] at operator ends
    exact .inl (operator.trans ends.symm)

/-- Where no error is shown, a state is its buffer and the flag for an operator. -/
theorem eq_mk (reachable : s.Reachable) (running : s.errorState = false) :
    s = { buffer := s.buffer
          lastWasOperator := s.lastWasOperator
          hasDecimal := endsInFraction s.buffer } := by
  have message := reachable.wellFormed.message.mpr running
  rw [← reachable.hasDecimal, ← running, ← message]

end Reachable

/-! ## Going on alike -/

/-- The displays after each of the actions. -/
def displays (places : Places) (s : State) : List Action → List (Option String)
  | [] => []
  | action :: actions =>
    let next := (s.apply places action).state
    next.display :: next.displays places actions

/-- Whether states go on alike: they are the same, or show the same error. -/
def Alike (s t : State) : Prop :=
  s = t ∨ s.errorState = true ∧ t.errorState = true ∧ s.message = t.message

namespace Alike

variable {s t : State}

theorem display (alike : s.Alike t) : s.display = t.display := by
  rcases alike with rfl | ⟨error, error', message⟩
  · rfl
  · rw [State.display, State.display, if_pos error, if_pos error', message]

/-- An error is left behind by every action but backspace, which does nothing. -/
theorem apply (alike : s.Alike t) (places : Places) (action : Action) :
    (s.apply places action).state.Alike (t.apply places action).state := by
  rcases alike with rfl | ⟨error, error', message⟩
  · exact .inl rfl
  · unfold State.apply
    rw [if_pos error, if_pos error']
    split
    · exact .inr ⟨error, error', message⟩
    all_goals exact .inl rfl

/-- States that are alike show the same after every action of a run. -/
theorem displays (alike : s.Alike t) (places : Places) (actions : List Action) :
    s.displays places actions = t.displays places actions := by
  induction actions generalizing s t with
  | nil => rfl
  | cons action actions ih =>
      have next := alike.apply places action
      rw [State.displays, State.displays, next.display, ih next]

/-- A text is evaluated alike whatever the state. -/
theorem evaluate (s t : State) (places : Places) (text : List Char) :
    (s.evaluate places text).state.Alike (t.evaluate places text).state := by
  unfold State.evaluate
  cases calculate .standard places text with
  | ok result => exact .inl rfl
  | error e => exact .inr ⟨rfl, rfl, rfl⟩

/-- Over a lone zero the flag for an operator matters to the point only. -/
theorem apply_zero (places : Places) {action : Action} (other : action ≠ .decimal)
    (operator : Bool) :
    (State.apply places { lastWasOperator := operator } action).state.Alike
      (initial.apply places action).state := by
  cases action with
  | digit text => exact .inl rfl
  | decimal => exact absurd rfl other
  | operator text => exact .inl rfl
  | equals => exact evaluate _ _ places ['0']
  | clear => exact .inl rfl
  | backspace => exact .inl rfl

end Alike

/-- Two states that can be reached and show the same buffer have the same flags, but where the
buffer is a lone zero they may differ in whether an operator was entered last. They show the same
after each of any actions, unless they differ in that and the first action is a point. -/
theorem displays_eq_of_buffer_eq {s t : State} (hs : s.Reachable) (ht : t.Reachable)
    (running : s.errorState = false) (running' : t.errorState = false)
    (buffer : s.buffer = t.buffer) :
    s.hasDecimal = t.hasDecimal ∧
    (s.lastWasOperator = t.lastWasOperator ∨ s.buffer = ['0']) ∧
    ∀ (places : Places) (actions : List Action),
      s.lastWasOperator = t.lastWasOperator ∨ actions.head? ≠ some .decimal →
        s.displays places actions = t.displays places actions := by
  have operator : s.lastWasOperator = t.lastWasOperator ∨ s.buffer = ['0'] := by
    rcases hs.lastWasOperator with same | zero
    · rcases ht.lastWasOperator with same' | zero
      · exact .inl (by rw [same, same', buffer])
      · exact .inr (buffer.trans zero)
    · exact .inr zero
  refine ⟨by rw [hs.hasDecimal, ht.hasDecimal, buffer], operator, fun places actions first => ?_⟩
  by_cases same : s.lastWasOperator = t.lastWasOperator
  · rw [hs.eq_mk running, ht.eq_mk running', buffer, same]
  · have zero := operator.resolve_left same
    have noPoint : endsInFraction ['0'] = false := by decide
    rw [hs.eq_mk running, ht.eq_mk running', ← buffer, zero, noPoint]
    cases actions with
    | nil => rfl
    | cons action actions =>
        have other : action ≠ .decimal := by simpa using first.resolve_left same
        have left := Alike.apply_zero places other s.lastWasOperator
        have right := Alike.apply_zero places other t.lastWasOperator
        rw [State.displays, State.displays, left.display, right.display,
          left.displays, right.displays]

/-- The zero that an equals leaves of a lone operator. -/
def leftoverZero : State := { lastWasOperator := true }

/-- A minus is left of a negative result, and equals makes a zero of it. -/
theorem reachable_leftoverZero : leftoverZero.Reachable := by
  have reached : ((((seed (.whole 10) "-5".toList).state.apply (.whole 10) .backspace).state).apply
      (.whole 10) .equals).state = leftoverZero := by
    decide +kernel
  have seeded := Reachable.initial.seed (.whole 10) "-5".toList
  rw [← reached]
  exact (seeded.apply (.whole 10) .backspace).apply (.whole 10) .equals

theorem displays_eq_of_buffer_eq_digit :
    leftoverZero.Reachable ∧ initial.Reachable ∧ leftoverZero.buffer = initial.buffer ∧
      leftoverZero.lastWasOperator ≠ initial.lastWasOperator ∧
      leftoverZero.displays (.whole 10) [.digit ['7'], .decimal] =
        initial.displays (.whole 10) [.digit ['7'], .decimal] := by
  have alike :=
    (displays_eq_of_buffer_eq reachable_leftoverZero .initial rfl rfl rfl).2.2 (.whole 10)
      [.digit ['7'], .decimal] (.inr (by decide))
  exact ⟨reachable_leftoverZero, .initial, rfl, by decide, alike⟩

/-- Both zeros are shown alike, but a point is added to them in different ways. -/
theorem displays_ne_of_leftoverZero :
    leftoverZero.Reachable ∧ initial.Reachable ∧
      leftoverZero.errorState = false ∧ initial.errorState = false ∧
      leftoverZero.buffer = initial.buffer ∧ Action.Checked .decimal ∧
      leftoverZero.displays (.whole 10) [.decimal] = [some "00."] ∧
      initial.displays (.whole 10) [.decimal] = [some "0."] :=
  ⟨reachable_leftoverZero, .initial, rfl, rfl, rfl, .decimal, by decide, by decide⟩

end State

end Reckoner.Editor
