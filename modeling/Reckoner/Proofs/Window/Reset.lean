import Mathlib.Tactic
import Reckoner.Proofs.Editor.LateReset
import Reckoner.Proofs.Window.React

/-!
# The display and the reset timer

What a window shows is what its session shows. While an error is shown the reset timer is active, so
that the error is cleared after a delay. While the timer is active an error is shown, but for a
reset that came late: it clears the error and leaves the timer, until the next answer is shown.
-/

namespace Reckoner

open Editor Settings
open Json (Value)

/-- Whether a value is a delay that a timer takes. -/
def Settings.IsDelay (value : Value) : Prop := ∃ n : ℕ, n < 2 ^ 31 ∧ value = .int n

/-- Whether errors are cleared after delays that a timer takes. -/
structure Settings.HasDelays (settings : Settings) : Prop where
  error : IsDelay (settings.get errorDelayKey)
  unsafeInput : IsDelay (settings.get unsafeDelayKey)

theorem Editor.State.WellFormed.exists_display {s : State} (wellFormed : s.WellFormed) :
    ∃ text, s.display = some text := by
  unfold State.display
  split
  · rename_i error
    apply Option.ne_none_iff_exists'.mp
    intro none
    rw [wellFormed.message.mp none] at error
    cases error
  · exact ⟨_, rfl⟩

/-- What a reset shows, or else what was shown before, is what the session shows then. -/
theorem Editor.Session.resetIfError_display (session : Session) :
    session.resetIfError.display.or session.display = session.resetIfError.session.display := by
  unfold resetIfError
  split
  · rename_i error
    simp only [apply, State.apply, if_pos error]
    rfl
  · rfl

namespace Window

/-! ## What is asked -/

/-- Whether the action that is asked for, if any, is a checked one. -/
def Query.Checked : Query → Prop
  | .act action => action.Checked
  | .seed _ => True

theorem checked_of_map_act {action? : Option Action} {query : Query}
    (checked : ∀ action, action? = some action → action.Checked)
    (found : action?.map Query.act = some query) : query.Checked := by
  obtain ⟨action, known, rfl⟩ := Option.map_eq_some_iff.mp found
  exact checked action known

theorem checked_of_query? {w : Window} {event : Event} {query : Query}
    (found : w.query? event = some query) : query.Checked := by
  have button (label : List Char) (found : (buttonAction? label).map Query.act = some query) :
      query.Checked := checked_of_map_act (fun _ => Action.checked_of_button) found
  unfold query? at found
  split at found
  · cases found
  · cases event with
    | release label =>
        simp only at found
        split at found
        · split at found
          · cases found
          · exact button _ found
        · exact button _ found
        · cases found
    | tick =>
        obtain ⟨label, -, found⟩ := Option.bind_eq_some_iff.mp found
        exact button _ found
    | key name text => exact checked_of_map_act (fun _ => Action.checked_of_key) found
    | label text => exact button _ found
    | seed text =>
        cases found
        trivial
    | press _ | timeout | lateTimeout | copy => cases found

/-- The answer to a checked query is a well-formed state, and what that state shows. -/
theorem Query.Checked.reply {query : Query} (checked : query.Checked) {session : Session}
    (wellFormed : session.state.WellFormed) :
    (query.reply session).session.state.WellFormed ∧
      (query.reply session).display = (query.reply session).session.display := by
  cases query with
  | act action => exact ⟨wellFormed.apply session.places checked, rfl⟩
  | seed text => exact ⟨State.wellFormed_seed session.places text, rfl⟩

/-! ## The invariant -/

/-- What holds of a window after any events. A reset came late since the last answer was shown if
`late` holds. -/
structure InStep (late : Prop) (w : Window) : Prop where
  wellFormed : w.session.state.WellFormed
  shown : w.display = w.session.display
  delays : w.settings.HasDelays
  pending : w.session.state.errorState = true →
    w.resetTimer.active = true ∧ IsDelay w.resetTimer.interval
  due : w.resetTimer.active = true → w.session.state.errorState = true ∨ late

variable {w w' : Window} {late : Prop}

theorem InStep.mono {later : Prop} (inStep : w.InStep late) (implied : late → later) :
    w.InStep later :=
  { inStep with due := fun active => (inStep.due active).imp_right implied }

theorem InStep.agrees (inStep : w.InStep late) (agrees : w'.Agrees w) : w'.InStep late where
  wellFormed := agrees.session ▸ inStep.wellFormed
  shown := by rw [agrees.display, agrees.session, inStep.shown]
  delays := ⟨agrees.errorDelay ▸ inStep.delays.error,
    agrees.unsafeDelay ▸ inStep.delays.unsafeInput⟩
  pending := by
    rw [agrees.session, agrees.resetTimer]
    exact inStep.pending
  due := by
    rw [agrees.session, agrees.resetTimer]
    exact inStep.due

theorem inStep_ofSettings {settings : Settings} (delays : settings.HasDelays) (store : Store) :
    (ofSettings settings store).InStep False where
  wellFormed := State.wellFormed_initial
  shown := rfl
  delays := delays
  pending := by
    intro error
    cases error
  due := by
    intro active
    cases active

/-! ## Answers and resets -/

theorem startReset_of_isDelay {timer : Timer Value} {delay : Value} (isDelay : IsDelay delay) :
    startReset timer delay = .startWith delay := by
  obtain ⟨n, -, rfl⟩ := isDelay
  rfl

/-- An answer that is shown brings display and timer in step, also after a late reset. -/
theorem InStep.showReply (inStep : w.InStep late) {reply : Reply} {delay : Value}
    (wellFormed : reply.session.state.WellFormed)
    (shown : reply.display = reply.session.display)
    (isDelay : delay = .null ∨ IsDelay delay) : (w.showReply reply delay).window.InStep False := by
  -- The delay that the timer starts with, whether it is given or set.
  have started : ∃ delay', IsDelay delay' ∧ (w.showReply reply delay).window.resetTimer =
      if reply.session.state.errorState then .startWith delay' else w.resetTimer.stop := by
    rcases isDelay with rfl | isDelay
    · refine ⟨_, inStep.delays.error, ?_⟩
      rw [← startReset_of_isDelay inStep.delays.error]
      rfl
    · refine ⟨delay, isDelay, ?_⟩
      obtain ⟨n, -, rfl⟩ := isDelay
      rfl
  obtain ⟨delay', isDelay', timer⟩ := started
  refine ⟨wellFormed, shown, inStep.delays, ?_, ?_⟩
  · intro error
    change reply.session.state.errorState = true at error
    rw [timer, if_pos error]
    exact ⟨rfl, isDelay'⟩
  · intro active
    by_cases error : reply.session.state.errorState = true
    · exact .inl error
    · rw [timer, if_neg error] at active
      cases active

/-- A reset leaves no error, and what it shows is what its session shows. -/
theorem InStep.clearError (wellFormed : w.session.state.WellFormed)
    (shown : w.display = w.session.display) (delays : w.settings.HasDelays)
    (due : w.resetTimer.active = true → late) : w.clearError.window.InStep late := by
  have reset := congrArg Session.state (Session.resetIfError_session w.session)
  have running : w.clearError.window.session.state.errorState = false := by
    show w.session.resetIfError.session.state.errorState = false
    rw [reset]
    split
    · rfl
    · rename_i running
      exact Bool.eq_false_iff.mpr running
  refine ⟨?_, ?_, delays, ?_, fun active => .inr (due active)⟩
  · show w.session.resetIfError.session.state.WellFormed
    rw [reset]
    split
    · exact State.wellFormed_initial
    · exact wellFormed
  · show w.session.resetIfError.display.or w.display = _
    rw [shown]
    exact w.session.resetIfError_display
  · intro error
    rw [running] at error
    cases error

theorem InStep.answers (inStep : w.InStep late) {query? : Option Query}
    (checked : ∀ query, query? = some query → query.Checked) (answers : w.Answers query? w') :
    w'.InStep (query? = none ∧ late) := by
  cases query? with
  | none => exact (inStep.agrees answers).mono fun holds => ⟨rfl, holds⟩
  | some query =>
      obtain ⟨before, agrees, rfl⟩ := answers
      obtain ⟨wellFormed, shown⟩ := (checked query rfl).reply inStep.wellFormed
      have isDelay : query.delay w.settings = .null ∨ IsDelay (query.delay w.settings) := by
        cases query with
        | act action => exact .inl rfl
        | seed text =>
            simp only [Query.delay]
            split
            · exact .inr inStep.delays.error
            · exact .inr inStep.delays.unsafeInput
      exact ((inStep.agrees agrees).showReply wellFormed shown isDelay).mono False.elim

/-! ## Steps and runs -/

theorem InStep.react (inStep : w.InStep late) (event : Event) :
    (w.react event).window.InStep
      (w.query? event = none ∧ (late ∨ event = .lateTimeout)) := by
  have other (timer : event ≠ .timeout) (early : event ≠ .lateTimeout) :
      (w.react event).window.InStep
        (w.query? event = none ∧ (late ∨ event = .lateTimeout)) :=
    (inStep.answers (fun _ => checked_of_query?) (answers_react w timer early)).mono
      fun ⟨silent, holds⟩ => ⟨silent, .inl holds⟩
  cases event with
  | timeout =>
      unfold Window.react
      split
      · rename_i idle
        exact inStep.mono fun holds => ⟨if_pos idle, .inl holds⟩
      · -- The timer stops as it runs out, so it needs no excuse for being active.
        exact InStep.clearError inStep.wellFormed inStep.shown inStep.delays Bool.noConfusion
  | lateTimeout =>
      exact InStep.clearError inStep.wellFormed inStep.shown inStep.delays
        fun _ => ⟨rfl, .inr rfl⟩
  | press _ | release _ | tick | key _ _ | copy | label _ | seed _ =>
      exact other Event.noConfusion Event.noConfusion

/-- Whether a reset came late among events, and nothing was asked of the editor since. -/
def LateSince (w : Window) (events : List Event) : Prop :=
  ∃ before after, events = before ++ .lateTimeout :: after ∧
    (w.run (before ++ [.lateTimeout])).IsSilent after

theorem lateSince_lateTimeout (w : Window) (events : List Event) :
    w.LateSince (events ++ [.lateTimeout]) :=
  ⟨events, [], rfl, trivial⟩

theorem LateSince.concat {events : List Event} (since : w.LateSince events) {event : Event}
    (silent : (w.run events).query? event = none) : w.LateSince (events ++ [event]) := by
  obtain ⟨before, after, rfl, quiet⟩ := since
  refine ⟨before, after ++ [event], by simp, isSilent_append.mpr ⟨quiet, ?_, trivial⟩⟩
  rw [← run_append, List.append_assoc]
  exact silent

theorem InStep.run (inStep : w.InStep False) (events : List Event) :
    (w.run events).InStep (w.LateSince events) := by
  induction events using List.reverseRecOn with
  | nil => exact inStep.mono False.elim
  | append_singleton events event ih =>
      rw [run_append]
      apply (ih.react event).mono
      rintro ⟨silent, since | rfl⟩
      · exact since.concat silent
      · exact lateSince_lateTimeout w events

/-- After any events in a window whose delays a timer takes, the display shows what the session
shows, and that is a text. Where it is an error, the reset timer is active. Where the timer is
active, an error is shown, or a reset came late and no answer was shown since. -/
theorem display_and_reset_in_step {store : Store} {w : Window} (opened : openFrom store = .ok w)
    (delays : w.settings.HasDelays) (events : List Event) :
    let last := w.run events
    last.display = last.session.display ∧ (∃ text, last.display = some text) ∧
      (last.session.state.errorState = true →
        last.resetTimer.active = true ∧ IsDelay last.resetTimer.interval) ∧
      (last.resetTimer.active = true →
        last.session.state.errorState = true ∨ w.LateSince events) := by
  intro last
  have first : w.InStep False := by
    unfold openFrom at opened
    split at opened
    · cases opened
    · injection opened with same
      subst same
      exact inStep_ofSettings delays store
  have inStep : last.InStep (w.LateSince events) := first.run events
  refine ⟨inStep.shown, ?_, inStep.pending, inStep.due⟩
  rw [inStep.shown]
  exact inStep.wellFormed.exists_display

/-- A first expression divides by zero, and its error is cleared by a reset that comes late: the
timer stays active, as it was. -/
theorem display_and_reset_in_step_divided :
    let w := ofSettings standard .absent
    let events := [Event.seed "6/0".toList, .lateTimeout]
    openFrom .absent = .ok w ∧ w.settings.HasDelays ∧
      (w.run events).display = some "0" ∧ (w.run events).session.state.errorState = false ∧
      (w.run events).resetTimer.active = true ∧ w.LateSince events := by
  intro w events
  have opened : openFrom .absent = .ok w := rfl
  have delays : w.settings.HasDelays := ⟨⟨2000, by decide, rfl⟩, ⟨3000, by decide, rfl⟩⟩
  have running : (w.run events).session.state.errorState = false := by decide +kernel
  have active : (w.run events).resetTimer.active = true := by decide +kernel
  obtain ⟨shown, -, -, due⟩ := display_and_reset_in_step opened delays events
  refine ⟨opened, delays, ?_, running, active, ?_⟩
  · rw [shown]
    decide +kernel
  · rcases due active with error | since
    · rw [running] at error
      cases error
    · exact since

end Window

end Reckoner
