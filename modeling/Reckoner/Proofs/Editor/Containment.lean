import Mathlib.Tactic
import Reckoner.Proofs.Editor.Working

/-!
# What an error leaves behind

An equals that fails changes nothing but what is shown. Of what was there before an error nothing
comes back after it: backspaces leave the error as it is, and the first other action starts from the
initial state, so that errors with different buffers, flags and messages go on alike.
-/

namespace Reckoner.Editor.State

/-- The state after actions, each with the number of places that results keep then. -/
def run (s : State) (steps : List (Places × Action)) : State :=
  steps.foldl (fun s step => (s.apply step.1 step.2).state) s

/-- What counts of actions after an error: those from the first one on that is no backspace, and
that one itself only where it is neither a clear nor an equals. -/
def afterError : List (Places × Action) → List (Places × Action)
  | (_, .backspace) :: steps => afterError steps
  | (_, .clear) :: steps | (_, .equals) :: steps => steps
  | steps => steps

variable {s : State}

@[simp] theorem run_nil (s : State) : s.run [] = s := rfl

@[simp] theorem run_cons (s : State) (places : Places) (action : Action)
    (steps : List (Places × Action)) :
    s.run ((places, action) :: steps) = (s.apply places action).state.run steps := rfl

theorem run_concat (s : State) (steps : List (Places × Action)) (places : Places)
    (action : Action) :
    s.run (steps ++ [(places, action)]) = ((s.run steps).apply places action).state :=
  List.foldl_append

theorem apply_backspace_of_error (error : s.errorState = true) (places : Places) :
    (s.apply places .backspace).state = s := by
  rw [apply, if_pos error]

/-- An action other than backspace starts from the initial state, where clear and equals stop. -/
theorem apply_of_error (error : s.errorState = true) (places : Places) {action : Action}
    (other : action ≠ .backspace) (steps : List (Places × Action)) :
    (s.apply places action).state.run steps =
      initial.run (afterError ((places, action) :: steps)) := by
  unfold apply
  rw [if_pos error]
  cases action with
  | backspace => exact absurd rfl other
  | clear => rfl
  | equals => rfl
  | digit text => rfl
  | decimal => rfl
  | operator text => rfl

theorem run_backspaces (error : s.errorState = true) {steps : List (Places × Action)}
    (backspaces : ∀ step ∈ steps, step.2 = .backspace) : s.run steps = s := by
  induction steps with
  | nil => rfl
  | cons step steps ih =>
      obtain ⟨places, action⟩ := step
      obtain rfl : action = .backspace := backspaces _ (.head _)
      rw [run_cons, apply_backspace_of_error error]
      exact ih fun step member => backspaces step (.tail _ member)

/-- After an error the states are those of what counts, from the initial state. -/
theorem run_of_error (error : s.errorState = true) {steps : List (Places × Action)}
    (other : ∃ step ∈ steps, step.2 ≠ .backspace) :
    s.run steps = initial.run (afterError steps) := by
  induction steps with
  | nil => simp at other
  | cons step steps ih =>
      obtain ⟨places, action⟩ := step
      rw [run_cons]
      by_cases back : action = .backspace
      · subst back
        rw [apply_backspace_of_error error, afterError]
        apply ih
        simpa using other
      · exact apply_of_error error places back steps

/-- An equals that fails keeps the buffer and both flags, and only shows the message of its error.
In a state that shows an error backspaces change nothing, and actions among which there is another
one lead where what counts of them leads from the initial state. So two errors, whatever they were
shown over, come to the same state by the same actions. -/
theorem errors_are_contained :
    (∀ (s : State) (places : Places), (s.apply places .equals).state.errorState = true →
      ∃ e, calculate .standard places (stripOperators s.buffer) = .error e ∧
        (s.apply places .equals).state =
          { s with errorState := true, message := some (codeDisplay e.code) }) ∧
    ∀ s : State, s.errorState = true → ∀ steps : List (Places × Action),
      ((∀ step ∈ steps, step.2 = .backspace) → s.run steps = s) ∧
      ((∃ step ∈ steps, step.2 ≠ .backspace) →
        s.run steps = initial.run (afterError steps) ∧
        ∀ t : State, t.errorState = true → t.run steps = s.run steps) := by
  constructor
  · intro s places failed
    obtain ⟨-, e, stopped, outcome⟩ := apply_equals_error failed
    exact ⟨e, stopped, congrArg Outcome.state outcome⟩
  · intro s error steps
    refine ⟨run_backspaces error, fun other => ⟨run_of_error error other, fun t error' => ?_⟩⟩
    rw [run_of_error error other, run_of_error error' other]

/-- A division by zero of which a zero is taken back, and a digit that starts afresh. -/
theorem errors_are_contained_divided :
    let divided : State := { buffer := "6/0+".toList, lastWasOperator := true }
    let shown := (divided.apply .standard .equals).state
    let steps :=
      [(Places.standard, Action.backspace), (.standard, .equals), (.standard, .digit ['7'])]
    shown.errorState = true ∧
      (∃ message, shown = { divided with errorState := true, message := some message }) ∧
      (∃ step ∈ steps, step.2 ≠ .backspace) ∧
      shown.run steps = initial.run [(.standard, .digit ['7'])] := by
  intro divided shown steps
  have error : shown.errorState = true := by decide +kernel
  have other : ∃ step ∈ steps, step.2 ≠ .backspace :=
    ⟨(.standard, .equals), .tail _ (.head _), by simp⟩
  obtain ⟨e, -, kept⟩ := errors_are_contained.1 divided .standard error
  exact ⟨error, ⟨_, kept⟩, other, ((errors_are_contained.2 shown error steps).2 other).1⟩

end Reckoner.Editor.State
