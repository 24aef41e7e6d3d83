import Mathlib.Tactic
import Reckoner.Proofs.Editor.Working
import Reckoner.Proofs.Expression.Reports
import Reckoner.Proofs.Window.Reset

/-!
# The delay of a pending reset

An unsafe first expression is shown for a delay of its own, every other error for the common one.
But a backspace, which an error ignores, is answered all the same, and showing the answer starts the
timer anew with the common delay. So the delay is that of the error on show as long as no backspace
was asked for last.
-/

namespace Reckoner

open Editor Settings
open Json (Value)

/-! ## Which error a message tells -/

/-- What is shown for an unsafe first expression. -/
def unsafeMessage : String := codeDisplay CalculationError.unsafeInput.code

theorem codeDisplay_eq_unsafeMessage {e : CalculationError} :
    codeDisplay e.code = unsafeMessage ↔ e = .unsafeInput := by
  constructor
  · intro same
    cases e with
    | unsafeInput => rfl
    | arithmetic signal => cases signal <;> exact absurd same (by decide)
    | strayCharacter _ | strayToken _ =>
        exact absurd same (show codeDisplay "3011" ≠ unsafeMessage by decide)
    | unknownOperator _ => exact absurd same (show codeDisplay "3004" ≠ unsafeMessage by decide)
    | places _ => exact absurd same (show codeDisplay "9999" ≠ unsafeMessage by decide)
    | _ => exact absurd same (by decide)
  · rintro rfl
    rfl

/-- A calculation does not ask whether its text is safe. -/
theorem calculate_ne_unsafeInput (places : Places) (cs : List Char) :
    calculate .standard places cs ≠ .error .unsafeInput := by
  intro failed
  rcases calculate_error_cases failed with same | unread | ⟨v, -, unshown⟩
  · cases same
  · rcases evaluate_error unread with unread | same | ⟨same, -⟩
    · rcases parse_error (by decide) unread with reading | ⟨same, -⟩
      · cases reading
      · cases same
    · cases same
    · cases same
  · rcases kind_cases_of_rounded unshown with kind | kind <;> cases kind

namespace Editor.State

variable {s : State} {places : Places}

theorem message_failed_of_calculate {text : List Char} {e : CalculationError}
    (stopped : calculate .standard places text = .error e) :
    (s.failed e).message ≠ some unsafeMessage := by
  intro same
  rw [codeDisplay_eq_unsafeMessage.mp (Option.some.inj same)] at stopped
  exact calculate_ne_unsafeInput places text stopped

/-- The error that an action other than backspace leaves is not that of an unsafe text. -/
theorem message_apply_ne {action : Action} (other : action ≠ .backspace)
    (error : (s.apply places action).state.errorState = true) :
    (s.apply places action).state.message ≠ some unsafeMessage := by
  by_cases shown : s.errorState = true
  · -- Every action but backspace starts from the initial state, and no error comes of it.
    unfold apply at error ⊢
    rw [if_pos shown] at error ⊢
    cases action with
    | backspace => exact absurd rfl other
    | digit text => cases error
    | decimal => cases error
    | operator text => cases error
    | equals => cases error
    | clear => cases error
  · cases action with
    | equals =>
        obtain ⟨-, e, stopped, outcome⟩ := apply_equals_error error
        rw [outcome]
        exact message_failed_of_calculate stopped
    | _ =>
        exfalso
        apply shown
        unfold apply at error
        rw [if_neg shown] at error
        revert error
        simp only [step, enterDigit, enterDecimal, enterOperator, backspace, initial]
        repeat' split
        all_goals simp

/-- The message of a first expression tells whether its text was safe. -/
theorem seed_error {text : List Char} (error : (seed places text).state.errorState = true) :
    (seed places text).state.message = some unsafeMessage ↔ isSafe text = false := by
  unfold seed at error ⊢
  split at error
  · cases error
  · rename_i filled
    rw [if_neg filled]
    cases safe : isSafe text with
    | false => simp [failed, unsafeMessage]
    | true =>
        rw [safe, if_pos rfl] at error
        rw [if_pos rfl]
        unfold evaluate at error ⊢
        split at error
        · cases error
        · rename_i e stopped
          simp only [message_failed_of_calculate stopped, Bool.true_eq_false]

end Editor.State

namespace Window

/-! ## What was asked last -/

/-- What events ask the editor, in order. -/
def queries (w : Window) : List Event → List Query
  | [] => []
  | event :: events => (w.query? event).toList ++ (w.react event).window.queries events

theorem queries_append (w : Window) (before after : List Event) :
    w.queries (before ++ after) = w.queries before ++ (w.run before).queries after := by
  induction before generalizing w with
  | nil => rfl
  | cons event before ih =>
      rw [List.cons_append, queries, queries, ih, run_cons, List.append_assoc]

theorem queries_concat (w : Window) (events : List Event) (event : Event) :
    w.queries (events ++ [event]) =
      w.queries events ++ ((w.run events).query? event).toList := by
  rw [queries_append]
  simp [queries]

/-- Whether a query takes back. -/
def Query.isBackspace : Query → Bool
  | .act .backspace => true
  | _ => false

/-- The delay of an error, by its message and by what was asked last. -/
def delayKey (message : Option String) (last? : Option Query) : Value :=
  if message = some unsafeMessage ∧ last?.any Query.isBackspace = false then unsafeDelayKey
  else errorDelayKey

/-! ## The interval in the error state -/

/-- Whether the reset timer of a window that shows an error has the delay of that error, `last?`
being what was asked last. The delays are whole numbers. -/
structure Dated (error unsafeInput : ℕ) (last? : Option Query) (w : Window) : Prop where
  errorDelay : w.settings.get errorDelayKey = .int error
  unsafeDelay : w.settings.get unsafeDelayKey = .int unsafeInput
  interval : w.session.state.errorState = true →
    w.resetTimer.interval = w.settings.get (delayKey w.session.state.message last?)

variable {w w' : Window} {error unsafeInput : ℕ} {last? : Option Query}

theorem get_delayKey (settings : Settings) (message : Option String) (last? : Option Query) :
    settings.get (delayKey message last?) =
      if message = some unsafeMessage ∧ last?.any Query.isBackspace = false then
        settings.get unsafeDelayKey
      else settings.get errorDelayKey := by
  unfold delayKey
  split <;> rfl

theorem Dated.agrees (dated : w.Dated error unsafeInput last?) (agrees : w'.Agrees w) :
    w'.Dated error unsafeInput last? where
  errorDelay := by rw [agrees.errorDelay, dated.errorDelay]
  unsafeDelay := by rw [agrees.unsafeDelay, dated.unsafeDelay]
  interval := by
    intro shown
    rw [agrees.session] at shown ⊢
    rw [agrees.resetTimer, dated.interval shown, get_delayKey, get_delayKey, agrees.errorDelay,
      agrees.unsafeDelay]

/-- An error that is answered with starts the timer with the delay given, or with the one set. -/
theorem interval_showReply (w : Window) {reply : Reply} {delay : Value} {n : ℕ}
    (shown : reply.session.state.errorState = true)
    (starts : delay = .null ∧ w.settings.get errorDelayKey = .int n ∨ delay = .int n) :
    (w.showReply reply delay).window.resetTimer.interval = .int n := by
  rcases starts with ⟨rfl, set⟩ | rfl
  · simp [showReply, shown, set, startReset]
  · simp [showReply, shown, startReset]

/-- The answer to a query is shown for its own delay. -/
theorem Dated.answer (dated : w.Dated error unsafeInput last?) (query : Query) :
    (w.showReply (query.reply w.session) (query.delay w.settings)).window.Dated error unsafeInput
      (some query) where
  errorDelay := dated.errorDelay
  unsafeDelay := dated.unsafeDelay
  interval := by
    intro shown
    change (query.reply w.session).session.state.errorState = true at shown
    show _ = w.settings.get (delayKey (query.reply w.session).session.state.message (some query))
    rw [get_delayKey, dated.errorDelay, dated.unsafeDelay]
    cases query with
    | act action =>
        have interval : (w.showReply (w.session.apply action) .null).window.resetTimer.interval =
            .int error := interval_showReply w shown (.inl ⟨rfl, dated.errorDelay⟩)
        refine interval.trans (if_neg ?_).symm
        rintro ⟨message, other⟩
        refine State.message_apply_ne ?_ shown message
        rintro rfl
        cases other
    | seed text =>
        have message : ((Query.seed text).reply w.session).session.state.message =
            some unsafeMessage ↔ isSafe text = false := State.seed_error shown
        cases safe : isSafe text with
        | true =>
            have delay : (Query.seed text).delay w.settings = .int error := by
              rw [Query.delay, safe, if_pos rfl, dated.errorDelay]
            refine (interval_showReply w shown (.inr delay)).trans (if_neg ?_).symm
            rintro ⟨same, -⟩
            rw [message.mp same] at safe
            cases safe
        | false =>
            have delay : (Query.seed text).delay w.settings = .int unsafeInput := by
              rw [Query.delay, safe, if_neg (by decide), dated.unsafeDelay]
            have unnoticed : (some (Query.seed text)).any Query.isBackspace = false := rfl
            exact (interval_showReply w shown (.inr delay)).trans
              (if_pos ⟨message.mpr safe, unnoticed⟩).symm

/-- A reset leaves no error whose delay would matter. -/
theorem Dated.clearError (errorDelay : w.settings.get errorDelayKey = .int error)
    (unsafeDelay : w.settings.get unsafeDelayKey = .int unsafeInput) :
    w.clearError.window.Dated error unsafeInput last? where
  errorDelay := errorDelay
  unsafeDelay := unsafeDelay
  interval := by
    intro shown
    change w.session.resetIfError.session.state.errorState = true at shown
    rw [Session.resetIfError_session] at shown
    change (if w.session.state.errorState then State.initial
      else w.session.state).errorState = true at shown
    split at shown
    · cases shown
    · contradiction

theorem Dated.react (dated : w.Dated error unsafeInput last?) (event : Event) :
    (w.react event).window.Dated error unsafeInput ((w.query? event).or last?) := by
  have other (timer : event ≠ .timeout) (late : event ≠ .lateTimeout) :
      (w.react event).window.Dated error unsafeInput ((w.query? event).or last?) := by
    have answers := answers_react w timer late
    cases asked : w.query? event with
    | none =>
        rw [asked] at answers
        exact dated.agrees answers
    | some query =>
        rw [asked] at answers
        obtain ⟨before, agrees, same⟩ := answers
        rw [same, ← agrees.session]
        have delay : query.delay w.settings = query.delay before.settings := by
          cases query with
          | act action => rfl
          | seed text =>
              simp only [Query.delay]
              split
              · exact agrees.errorDelay.symm
              · exact agrees.unsafeDelay.symm
        rw [delay]
        exact (dated.agrees agrees).answer query
  cases event with
  | timeout =>
      unfold Window.react
      split
      · rename_i idle
        rw [query?, if_pos idle]
        exact dated
      · exact Dated.clearError dated.errorDelay dated.unsafeDelay
  | lateTimeout => exact Dated.clearError dated.errorDelay dated.unsafeDelay
  | press _ | release _ | tick | key _ _ | copy | label _ | seed _ =>
      exact other Event.noConfusion Event.noConfusion

theorem Dated.run (dated : w.Dated error unsafeInput none) (events : List Event) :
    (w.run events).Dated error unsafeInput (w.queries events).getLast? := by
  induction events using List.reverseRecOn with
  | nil => exact dated
  | append_singleton events event ih =>
      have step := ih.react event
      rw [run_append, queries_concat, List.getLast?_append]
      cases asked : (w.run events).query? event with
      | none =>
          rw [asked] at step
          exact step
      | some query =>
          rw [asked] at step
          exact step

/-- Where a window shows an error after any events, the reset timer has the delay of an unsafe first
expression if the message is the one of such an expression and no backspace was asked for last, and
the common delay otherwise. So the delay is not that of the error on show in one case only, where
the two delays differ: the error of an unsafe first expression, and a backspace asked for last. -/
theorem interval_of_error {store : Store} {w : Window} (opened : openFrom store = .ok w)
    {error unsafeInput : ℕ} (errorDelay : w.settings.get errorDelayKey = .int error)
    (unsafeDelay : w.settings.get unsafeDelayKey = .int unsafeInput) (events : List Event) :
    let last := w.run events
    last.session.state.errorState = true →
      last.resetTimer.interval =
        if last.session.state.message = some unsafeMessage ∧
          (w.queries events).getLast?.any Query.isBackspace = false then .int unsafeInput
        else .int error := by
  intro last shown
  have first : w.Dated error unsafeInput none := by
    refine ⟨errorDelay, unsafeDelay, ?_⟩
    unfold openFrom at opened
    split at opened
    · cases opened
    · cases opened
      intro impossible
      cases impossible
  have dated : last.Dated error unsafeInput (w.queries events).getLast? := first.run events
  rw [dated.interval shown, get_delayKey, dated.errorDelay, dated.unsafeDelay]

/-- The error of an unsafe first expression, after keys that mean nothing. -/
theorem interval_of_error_unnoticed :
    let w := ofSettings standard .absent
    let events := [Event.seed "2^3".toList, .key "Key_F1" [], .copy]
    openFrom .absent = .ok w ∧ w.settings.get errorDelayKey = .int 2000 ∧
      w.settings.get unsafeDelayKey = .int 3000 ∧
      (w.run events).session.state.errorState = true ∧
      (w.run events).resetTimer.interval = .int 3000 := by
  intro w events
  have shown : (w.run events).session.state.errorState = true := by decide +kernel
  have opened : openFrom .absent = .ok w := rfl
  have errorDelay : w.settings.get errorDelayKey = .int (2000 : ℕ) := rfl
  have unsafeDelay : w.settings.get unsafeDelayKey = .int (3000 : ℕ) := rfl
  have interval := interval_of_error opened errorDelay unsafeDelay events shown
  refine ⟨opened, errorDelay, unsafeDelay, shown, ?_⟩
  rw [interval, if_pos]
  · rfl
  · decide +kernel

/-- After a backspace, which an error ignores, the error of an unsafe first expression is cleared
after the common delay. -/
theorem interval_of_unsafe_backspace :
    let w := ofSettings standard .absent
    let events := [Event.seed "2^3".toList, .key "Key_Backspace" []]
    openFrom .absent = .ok w ∧ (w.run events).session.state.errorState = true ∧
      (w.run events).session.state.message = some unsafeMessage ∧
      (w.run events).resetTimer.interval = w.settings.get errorDelayKey ∧
      (w.run events).resetTimer.interval ≠ w.settings.get unsafeDelayKey := by
  intro w events
  have interval : (w.run events).resetTimer.interval = .int 2000 := rfl
  refine ⟨rfl, by decide +kernel, by decide +kernel, interval, ?_⟩
  rw [interval]
  intro same
  have unequal : (2000 : ℤ) ≠ 3000 := by decide
  exact unequal (Value.int.inj same)

end Window

end Reckoner
