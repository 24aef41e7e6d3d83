import Mathlib.Data.List.ReduceOption
import Mathlib.Tactic
import Reckoner.Editor.Script
import Reckoner.Proofs.Decimal.Nearest

/-!
# Resets that come late

An error is cleared by a timer, and the timer may run out just before or just after an action. Both
orders lead to the same state: what an action does in the initial state is what it does after an
error. A reset that comes when no error is shown any more does nothing, so it may come anywhere else
in a script.
-/

namespace Reckoner.Editor

/-! ## A reset and an action -/

/-- A lone zero is its own result, at any places. -/
theorem calculate_zero {places : ℤ} (most : places ≤ 999999) :
    calculate .standard (.whole places) ['0'] = .ok ['0'] := by
  have evaluated : evaluate .standard ['0'] = .ok (.finite ⟨false, 0, 0⟩) := by decide +kernel
  have small : (Number.mk false 0 0).magnitude < 10 ^ 999999 := by
    rw [Number.magnitude_eq_zero_iff.mpr rfl]
    positivity
  have rounded := Number.roundTo_of_small most small fun _ => by decide +kernel
  have nothing : ((Number.mk false 0 0).atPlaces places).coefficient = 0 :=
    Number.roundedAt_zero rfl _
  rw [calculate, if_neg (by decide), evaluated]
  show Number.roundTo .standard places ⟨false, 0, 0⟩ = _
  rw [rounded, Number.canonical, if_pos nothing]

namespace State

/-- Equals has nothing to do in the initial state. -/
theorem equals_initial {places : ℤ} (most : places ≤ 999999) :
    (initial.equals (.whole places)).state = initial := by
  show (initial.evaluate (.whole places) ['0']).state = initial
  rw [evaluate, calculate_zero most]
  rfl

/-- After an error an action leads where it leads from the initial state, up to a reset. -/
theorem apply_initial {s : State} (error : s.errorState = true) {places : ℤ}
    (most : places ≤ 999999) (action : Action) :
    (initial.apply (.whole places) action).state =
      if (s.apply (.whole places) action).state.errorState then initial
      else (s.apply (.whole places) action).state := by
  unfold apply
  rw [if_pos error, if_neg (show ¬initial.errorState = true by decide)]
  cases action with
  | digit text => rfl
  | decimal => rfl
  | operator text => rfl
  | equals => exact equals_initial most
  | clear => rfl
  | backspace => exact (if_pos error).symm

end State

namespace Session

variable {session : Session}

/-- A reset leaves the initial state in place of an error, and every other state as it is. -/
theorem resetIfError_session (session : Session) :
    session.resetIfError.session =
      { session with state := if session.state.errorState then .initial else session.state } := by
  unfold resetIfError
  cases error : session.state.errorState with
  | true => simp [apply, State.apply, error]
  | false => rfl

theorem resetIfError_of_running (running : session.state.errorState = false) :
    session.resetIfError = { session, display := none, notes := [] } := by
  rw [resetIfError, running, if_neg (by decide)]

/-- The timer may run out before an action or after it. -/
theorem apply_resetIfError {places : ℤ} (whole : session.places = .whole places)
    (most : places ≤ 999999) (error : session.state.errorState = true) (action : Action) :
    (session.resetIfError.session.apply action).session =
      (session.apply action).session.resetIfError.session := by
  obtain ⟨_, s⟩ := session
  subst whole
  have reset : s.errorState = true := error
  rw [resetIfError_session, resetIfError_session]
  simp only [reset, if_true]
  show Session.mk (.whole places) (State.initial.apply (.whole places) action).state = _
  rw [State.apply_initial reset most action]
  rfl

end Session

/-! ## Resets in a script -/

namespace Desk

/-- The desk after a command; a fault leaves it as it was. -/
def after (desk : Desk) (command : Command) : Desk :=
  match desk.run command with
  | .ok reply => reply.desk
  | .error _ => desk

/-- A script in which some steps are not commands but resets by the timer. -/
def withResets (steps : List (Option Command)) : List Command :=
  steps.map (·.getD .resetIfError)

/-- What is answered to the commands of a script with resets, and the desk after each of them. -/
def answers (desk : Desk) (steps : List (Option Command)) : List (Except Fault DeskReply × Desk) :=
  ((desk.runAll (withResets steps)).zip steps).filterMap fun (answer, step) =>
    step.map fun _ => answer

/-- Whether the resets in a script come only where no error is shown. -/
def ComeLate (desk : Desk) : List (Option Command) → Prop
  | [] => True
  | none :: steps =>
    desk.draft.state.errorState = false ∧ (desk.after .resetIfError).ComeLate steps
  | some command :: steps => (desk.after command).ComeLate steps

variable {desk : Desk}

theorem answers_command (desk : Desk) (command : Command) (steps : List (Option Command)) :
    desk.answers (some command :: steps) =
      (desk.run command, desk.after command) :: (desk.after command).answers steps := rfl

theorem answers_reset (desk : Desk) (steps : List (Option Command)) :
    desk.answers (none :: steps) = (desk.after .resetIfError).answers steps := rfl

theorem after_resetIfError (running : desk.draft.state.errorState = false) :
    desk.after .resetIfError = desk := by
  simp [after, run, running]

/-- Resets that come late are not noticed. -/
theorem ComeLate.unnoticed {steps : List (Option Command)} (late : desk.ComeLate steps) :
    desk.answers steps = desk.runAll steps.reduceOption ∧
      (withResets steps).foldl after desk = steps.reduceOption.foldl after desk := by
  induction steps generalizing desk with
  | nil => exact ⟨rfl, rfl⟩
  | cons step steps ih =>
      cases step with
      | none =>
          obtain ⟨running, late⟩ := late
          have same := after_resetIfError running
          rw [same] at late
          obtain ⟨answered, left⟩ := ih late
          rw [List.reduceOption_cons_of_none, answers_reset, same]
          refine ⟨answered, ?_⟩
          show (withResets steps).foldl after (desk.after .resetIfError) = _
          rw [same, left]
      | some command =>
          obtain ⟨answered, left⟩ := ih late
          rw [List.reduceOption_cons_of_some, answers_command, answered]
          exact ⟨rfl, left⟩

end Desk

/-- Where an error is shown, a reset and then an action lead to the same session as the action and
then a reset. Where none is shown, a reset does nothing and shows nothing. So resets that come there
only, however many, change none of the answers to the commands of a script, none of the states after
them, and not the desk that is left. -/
theorem resets_do_not_race :
    (∀ (session : Session) (places : ℤ) (action : Action), session.places = .whole places →
      places ≤ 999999 → session.state.errorState = true →
        (session.resetIfError.session.apply action).session =
          (session.apply action).session.resetIfError.session) ∧
    (∀ session : Session, session.state.errorState = false →
      session.resetIfError = { session, display := none, notes := [] }) ∧
    ∀ (desk : Desk) (steps : List (Option Command)), desk.ComeLate steps →
      desk.answers steps = desk.runAll steps.reduceOption ∧
        (Desk.withResets steps).foldl Desk.after desk = steps.reduceOption.foldl Desk.after desk :=
  ⟨fun _ _ action whole most error => Session.apply_resetIfError whole most error action,
    fun _ => Session.resetIfError_of_running, fun _ _ => Desk.ComeLate.unnoticed⟩

/-- An error that is reset before or after an equals, and resets that come after a digit has already
taken the place of an error. -/
theorem resets_do_not_race_equals :
    let divided : Session := { state := State.initial.failed .zeroDivisor }
    let steps :=
      [some (Command.seed "6/0".toList), some (.request (.ofAction (.digit ['7']))), none, none]
    divided.state.errorState = true ∧
      (divided.resetIfError.session.apply .equals).session =
        (divided.apply .equals).session.resetIfError.session ∧
      Desk.ComeLate {} steps ∧
      Desk.answers {} steps = Desk.runAll {} steps.reduceOption := by
  intro divided steps
  have late : Desk.ComeLate {} steps := ⟨by decide +kernel, by decide +kernel, trivial⟩
  obtain ⟨first, -, later⟩ := resets_do_not_race
  exact ⟨rfl, first divided 10 .equals rfl (by decide) rfl, late, (later {} steps late).1⟩

end Reckoner.Editor
