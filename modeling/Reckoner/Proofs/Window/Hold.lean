import Mathlib.Tactic
import Reckoner.Proofs.Window.React

/-!
# Buttons that are held down

The hold timer is active exactly while a button is held down, and its interval tells whether it has
ticked since. Whatever else happens meanwhile, a button that is held down acts once at every tick,
and once when it is released if there was none.
-/

namespace Reckoner

open Editor

/-- The action that was applied, by its kind and text, if a note tells of one. -/
def Editor.Note.applied? : Note → Option (ActionKind × List Char)
  | .applied kind text _ => some (kind, text)
  | _ => none

namespace Window

/-- The actions that a window applied, as they are noted. -/
def Reaction.applied (reaction : Reaction) : List (ActionKind × List Char) :=
  reaction.notes.filterMap Note.applied?

/-- The actions that those of the events applied for which `own` holds. -/
def appliedBy (own : Event → Bool) (w : Window) : List Event → List (ActionKind × List Char)
  | [] => []
  | event :: events =>
    (if own event then (w.react event).applied else []) ++
      (w.react event).window.appliedBy own events

namespace Event

/-- Whether an event is a tick of the hold timer. -/
def isTick : Event → Bool
  | .tick => true
  | _ => false

theorem eq_tick_of_isTick {event : Event} (tick : event.isTick = true) : event = .tick := by
  cases event with
  | tick => rfl
  | _ => cases tick

/-- Whether an event presses or releases a button that repeats while it is held down. -/
def handlesHeld : Event → Bool
  | .press button | .release button => role? button == some .held
  | _ => false

/-- Whether an event belongs to a button that is held down. -/
def isOf (held : Char) : Event → Bool
  | .press button | .release button => button == held
  | .tick => true
  | _ => false

end Event

/-- What a window knows of the button that is held down. -/
def grip (w : Window) : Timer ℕ × Bool × Option Char := (w.holdTimer, w.wasHeld, w.held)

variable {w : Window} {label : Char} {action : Action} {event : Event}

theorem grip_eq_iff {timer : Timer ℕ} {wasHeld : Bool} {held : Option Char} :
    w.grip = (timer, wasHeld, held) ↔
      w.holdTimer = timer ∧ w.wasHeld = wasHeld ∧ w.held = held := by
  simp [grip]

/-! ## Applying an action -/

theorem filterMap_readingNotes (text : List Char) :
    (readingNotes text).filterMap Note.applied? = [] := by
  unfold readingNotes
  repeat' split
  all_goals rfl

theorem filterMap_notes_evaluate (s : State) (places : Places) (text : List Char) :
    (s.evaluate places text).notes.filterMap Note.applied? = [] := by
  unfold State.evaluate
  split
  · exact filterMap_readingNotes text
  · simp [filterMap_readingNotes, Note.applied?]

theorem filterMap_notes_step (s : State) (places : Places) (action : Action) :
    (s.step places action).notes.filterMap Note.applied? = [] := by
  cases action with
  | equals =>
      show (s.equals places).notes.filterMap Note.applied? = []
      unfold State.equals
      split
      · rfl
      · exact filterMap_notes_evaluate s places _
  | _ => rfl

/-- A state notes what failed, but not that an action was applied. -/
theorem filterMap_notes_apply (s : State) (places : Places) (action : Action) :
    (s.apply places action).notes.filterMap Note.applied? = [] := by
  unfold State.apply
  split
  · split
    · rfl
    · rfl
    · rfl
    · exact filterMap_notes_step _ places _
  · exact filterMap_notes_step s places action

theorem applied_act (w : Window) (action : Action) :
    (w.act action).applied = [(action.kind, action.text?.getD [])] := by
  show ((w.session.state.apply w.session.places action).notes ++ [_]).filterMap _ = _
  rw [List.filterMap_append, filterMap_notes_apply]
  rfl

theorem appliedBy_append (own : Event → Bool) (w : Window) (before after : List Event) :
    w.appliedBy own (before ++ after) =
      w.appliedBy own before ++ (w.run before).appliedBy own after := by
  induction before generalizing w with
  | nil => rfl
  | cons event before ih =>
      rw [List.cons_append, appliedBy, appliedBy, ih, run_cons, List.append_assoc]

/-! ## Events that leave the hold timer -/

theorem grip_pushLabel (w : Window) (text : List Char) :
    (w.pushLabel text).window.grip = w.grip := by
  unfold pushLabel
  split <;> rfl

theorem grip_press_of_ne (w : Window) (other : role? label ≠ some .held) :
    (w.press label).grip = w.grip := by
  unfold press
  split
  · rename_i held
    exact absurd held other
  · rfl

theorem grip_release_of_ne (w : Window) (other : role? label ≠ some .held) :
    (w.release label).window.grip = w.grip := by
  unfold release
  split
  · rfl
  · rfl
  · rename_i held
    exact absurd held other
  · exact grip_pushLabel w _
  · rfl

theorem grip_typeKey (w : Window) (name : String) (text : List Char) :
    (w.typeKey name text).window.grip = w.grip := by
  unfold typeKey
  split <;> rfl

theorem grip_seed (w : Window) (text : List Char) : (w.seed text).window.grip = w.grip := by
  simp only [seed]
  split <;> rfl

/-- A tick and the buttons that are held down apart, no event has to do with the hold timer. -/
theorem grip_react (w : Window) (tick : event.isTick = false) (other : event.handlesHeld = false) :
    (w.react event).window.grip = w.grip := by
  unfold react
  split
  · rfl
  · cases event with
    | press label => exact grip_press_of_ne w (beq_eq_false_iff_ne.mp other)
    | release label => exact grip_release_of_ne w (beq_eq_false_iff_ne.mp other)
    | tick => cases tick
    | key name text => exact grip_typeKey w name text
    | label text => exact grip_pushLabel w text
    | seed text => exact grip_seed w text
    | timeout | lateTimeout | copy => rfl

/-! ## The hold timer in step -/

/-- What holds of the hold timer after any events. -/
structure HoldInStep (w : Window) : Prop where
  /-- The timer is active exactly while a button is held down. -/
  active : w.holdTimer.active = true ↔ w.held ≠ none
  /-- The interval of the active timer tells whether it has ticked. -/
  interval : w.holdTimer.active = true →
    w.holdTimer.interval = if w.wasHeld then repeatDelay else firstDelay

theorem HoldInStep.of_grip {w' : Window} (inStep : w.HoldInStep) (same : w'.grip = w.grip) :
    w'.HoldInStep := by
  obtain ⟨timer, wasHeld, held⟩ := grip_eq_iff.mp same
  exact ⟨by rw [timer, held]; exact inStep.active,
    by rw [timer, wasHeld]; exact inStep.interval⟩

theorem holdInStep_ofSettings (settings : Settings) (store : Settings.Store) :
    (ofSettings settings store).HoldInStep := by
  constructor
  · simp [ofSettings]
  · intro active
    cases active

/-- Releasing a button that is held down stops the timer, and then may act. -/
theorem grip_release (w : Window) (held : role? label = some .held) :
    (w.release label).window.grip = (w.holdTimer.stop, w.wasHeld, none) := by
  simp only [release, held]
  split
  · rfl
  · exact grip_pushLabel _ _

theorem HoldInStep.press (inStep : w.HoldInStep) (label : Char) : (w.press label).HoldInStep := by
  unfold Window.press
  split
  · exact ⟨by simp, fun _ => rfl⟩
  · exact inStep

theorem free_release (w : Window) (held : role? label = some .held) :
    (w.release label).window.holdTimer.active = false ∧ (w.release label).window.held = none := by
  obtain ⟨timer, -, free⟩ := grip_eq_iff.mp (grip_release w held)
  exact ⟨by rw [timer, Timer.active_stop], free⟩

theorem HoldInStep.release (held : role? label = some .held) :
    (w.release label).window.HoldInStep := by
  obtain ⟨idle, free⟩ := free_release w held
  constructor
  · simp [idle, free]
  · simp [idle]

/-- A tick brings the interval of the first delay to that of the others. -/
theorem grip_hold (inStep : w.HoldInStep) (active : w.holdTimer.active = true) :
    w.hold.window.grip = ({ active := true, interval := repeatDelay }, true, w.held) := by
  have interval : (if w.holdTimer.interval = firstDelay then repeatDelay
      else w.holdTimer.interval) = repeatDelay := by
    rw [inStep.interval active]
    cases w.wasHeld <;> rfl
  unfold hold
  cases held : w.held with
  | none => simp [grip, interval, active]
  | some label =>
      show (pushLabel _ _).window.grip = _
      rw [grip_pushLabel]
      simp [grip, interval, active]

theorem HoldInStep.hold (inStep : w.HoldInStep) (active : w.holdTimer.active = true) :
    w.hold.window.HoldInStep := by
  obtain ⟨timer, wasHeld, held⟩ := grip_eq_iff.mp (grip_hold inStep active)
  constructor
  · rw [timer, held, ← inStep.active]
    simp [active]
  · simp [timer, wasHeld]

theorem HoldInStep.react (inStep : w.HoldInStep) (event : Event) :
    (w.react event).window.HoldInStep := by
  cases event with
  | press label => exact inStep.press label
  | release label =>
      by_cases held : role? label = some .held
      · exact .release held
      · exact inStep.of_grip (grip_react w rfl (by simp [Event.handlesHeld, held]))
  | tick =>
      unfold Window.react
      split
      · exact inStep
      · rename_i busy
        exact inStep.hold (by simpa [Event.isIdle] using busy)
  | _ => exact inStep.of_grip (grip_react w rfl rfl)

theorem HoldInStep.run (inStep : w.HoldInStep) (events : List Event) :
    (w.run events).HoldInStep := by
  induction events generalizing w with
  | nil => exact inStep
  | cons event events ih => exact ih (inStep.react event)

/-! ## While a button is held down -/

/-- What holds while a button is held down, after `ticks` ticks. -/
structure Holding (label : Char) (ticks : ℕ) (w : Window) : Prop where
  inStep : w.HoldInStep
  held : w.held = some label
  wasHeld : w.wasHeld = decide (ticks ≠ 0)

/-- Whether a window applies an action at an event: the event does what the action does to a window
that agrees with this one. -/
def AppliesAt (w : Window) (event : Event) (action : Action) : Prop :=
  ∃ w' : Window, w'.Agrees w ∧ w.react event = w'.act action

theorem AppliesAt.applied (applies : w.AppliesAt event action) :
    (w.react event).applied = [(action.kind, action.text?.getD [])] := by
  obtain ⟨w', -, same⟩ := applies
  rw [same, applied_act]

theorem pushLabel_of_found (found : buttonAction? [label] = some action) :
    w.pushLabel [label] = w.act action := by
  rw [pushLabel, found]

/-- Every button that is held down has an action. -/
theorem exists_action_of_held (held : role? label = some .held) :
    ∃ action, buttonAction? [label] = some action := by
  unfold role? at held
  split at held
  · cases held
  · split at held
    · cases held
    · split at held
      · rename_i repeats
        rcases Bool.or_eq_true_iff.mp repeats with back | digit
        · obtain rfl : label = '⌫' := by simpa using back
          exact ⟨.backspace, by decide⟩
        · have digit : Text.isPlainDigit label = true := digit
          exact ⟨.digit [label], by simp [buttonAction?, commonAction?, Action.digit?, digit]⟩
      · split at held <;> cases held

theorem holding_press (inStep : w.HoldInStep) (held : role? label = some .held) :
    Holding label 0 (w.react (.press label)).window := by
  refine ⟨inStep.react _, ?_, ?_⟩
  · show (w.press label).held = _
    rw [press, held]
  · show (w.press label).wasHeld = _
    rw [press, held]
    rfl

variable {ticks : ℕ}

theorem Holding.active (holding : Holding label ticks w) : w.holdTimer.active = true :=
  holding.inStep.active.mpr (by simp [holding.held])

/-- The button that is held down acts at a tick. -/
theorem Holding.tick (holding : Holding label ticks w)
    (found : buttonAction? [label] = some action) : w.AppliesAt .tick action := by
  have same (w' : Window) : w'.pushLabel [label] = w'.act action := pushLabel_of_found found
  rw [AppliesAt, react_tick holding.active, hold]
  simp only [holding.held, same]
  refine ⟨_, ?_, rfl⟩
  exact ⟨rfl, rfl, rfl, rfl, rfl⟩

theorem Holding.react (holding : Holding label ticks w) (other : event.handlesHeld = false) :
    Holding label (ticks + if event.isTick then 1 else 0) (w.react event).window := by
  have same : (w.react event).window.held = some label ∧
      (w.react event).window.wasHeld = (w.wasHeld || event.isTick) := by
    cases tick : event.isTick with
    | false =>
        obtain ⟨-, wasHeld, held⟩ := grip_eq_iff.mp (grip_react w tick other)
        rw [wasHeld, held, holding.held, Bool.or_false]
        exact ⟨rfl, rfl⟩
    | true =>
        obtain rfl := Event.eq_tick_of_isTick tick
        obtain ⟨-, wasHeld, held⟩ := grip_eq_iff.mp (grip_hold holding.inStep holding.active)
        rw [react_tick holding.active, wasHeld, held, holding.held, Bool.or_true]
        exact ⟨rfl, rfl⟩
  refine ⟨holding.inStep.react event, same.1, ?_⟩
  rw [same.2, holding.wasHeld]
  cases event.isTick <;> simp

/-- While no such button is handled, only the ticks belong to the one that is held down. -/
theorem isOf_eq_isTick (held : role? label = some .held) (other : event.handlesHeld = false) :
    event.isOf label = event.isTick := by
  cases event with
  | press button | release button =>
      have different : button ≠ label := by
        rintro rfl
        simp [Event.handlesHeld, held] at other
      simpa [Event.isOf, Event.isTick] using different
  | _ => rfl

/-- What the button that is held down applies at an event. -/
theorem Holding.applied (holding : Holding label ticks w) (held : role? label = some .held)
    (found : buttonAction? [label] = some action) (other : event.handlesHeld = false) :
    (if event.isOf label then (w.react event).applied else []) =
      List.replicate (if event.isTick then 1 else 0) (action.kind, action.text?.getD []) := by
  rw [isOf_eq_isTick held other]
  cases tick : event.isTick with
  | false => rfl
  | true =>
      obtain rfl := Event.eq_tick_of_isTick tick
      exact (holding.tick found).applied

/-- The button that is held down acts once at every tick. -/
theorem Holding.run (holding : Holding label ticks w) (held : role? label = some .held)
    (found : buttonAction? [label] = some action) {events : List Event}
    (others : ∀ event ∈ events, event.handlesHeld = false) :
    Holding label (ticks + events.countP Event.isTick) (w.run events) ∧
      w.appliedBy (Event.isOf label) events =
        List.replicate (events.countP Event.isTick) (action.kind, action.text?.getD []) := by
  induction events generalizing w ticks with
  | nil => exact ⟨holding, rfl⟩
  | cons event events ih =>
      obtain ⟨other, others⟩ := List.forall_mem_cons.mp others
      obtain ⟨holding', applied⟩ := ih (holding.react other) others
      rw [run_cons, appliedBy, applied, holding.applied held found other,
        List.replicate_append_replicate, List.countP_cons, Nat.add_comm (events.countP _),
        ← Nat.add_assoc]
      exact ⟨holding', rfl⟩

/-- A button that was held down acts when it is released exactly if there was no tick. -/
theorem Holding.release (holding : Holding label ticks w) (held : role? label = some .held)
    (found : buttonAction? [label] = some action) :
    if ticks = 0 then w.AppliesAt (.release label) action
    else (w.react (.release label)).notes = [] ∧ (w.react (.release label)).window.Agrees w := by
  have released : w.react (.release label) = w.release label := rfl
  have same (w' : Window) : w'.pushLabel [label] = w'.act action := pushLabel_of_found found
  by_cases unticked : ticks = 0
  · have wasHeld : w.wasHeld = false := by simp [holding.wasHeld, unticked]
    rw [if_pos unticked, AppliesAt, released, Window.release]
    simp only [held, wasHeld, same]
    refine ⟨_, ?_, rfl⟩
    exact ⟨rfl, rfl, rfl, rfl, rfl⟩
  · have wasHeld : w.wasHeld = true := by simp [holding.wasHeld, unticked]
    rw [if_neg unticked, released, Window.release]
    simp only [held, wasHeld]
    exact ⟨rfl, rfl, rfl, rfl, rfl, rfl⟩

theorem Holding.applied_release (holding : Holding label ticks w) (held : role? label = some .held)
    (found : buttonAction? [label] = some action) :
    (w.react (.release label)).applied =
      List.replicate (if ticks = 0 then 1 else 0) (action.kind, action.text?.getD []) := by
  have release := holding.release held found
  split_ifs at release with unticked
  · rw [release.applied, if_pos unticked]
    rfl
  · rw [Reaction.applied, release.1, if_neg unticked]
    rfl

/-! ## From a press to a release -/

/-- A button that is pressed down does nothing yet. -/
theorem appliedBy_press (own : Event → Bool) (w : Window) (label : Char) (events : List Event) :
    w.appliedBy own (.press label :: events) =
      (w.react (.press label)).window.appliedBy own events := by
  show (if _ then [] else []) ++ _ = _
  rw [ite_self, List.nil_append]

theorem Holding.appliedBy_release (holding : Holding label ticks w)
    (held : role? label = some .held) (found : buttonAction? [label] = some action) :
    w.appliedBy (Event.isOf label) [.release label] =
      List.replicate (if ticks = 0 then 1 else 0) (action.kind, action.text?.getD []) := by
  have own : Event.isOf label (.release label) = true := beq_self_eq_true label
  rw [appliedBy, if_pos own, holding.applied_release held found]
  exact List.append_nil _

/-- From its press to its release a button acts as often as there are ticks, and at least once. -/
theorem HoldInStep.appliedBy (inStep : w.HoldInStep) (held : role? label = some .held)
    (found : buttonAction? [label] = some action) {meanwhile : List Event}
    (others : ∀ event ∈ meanwhile, event.handlesHeld = false) :
    w.appliedBy (Event.isOf label) (.press label :: meanwhile ++ [.release label]) =
      List.replicate (max 1 (meanwhile.countP Event.isTick))
        (action.kind, action.text?.getD []) := by
  obtain ⟨atLast, applied⟩ := (holding_press inStep held).run held found others
  have once (ticks : ℕ) : ticks + (if 0 + ticks = 0 then 1 else 0) = max 1 ticks := by
    split <;> omega
  rw [List.cons_append, appliedBy_press, appliedBy_append, applied,
    atLast.appliedBy_release held found, List.replicate_append_replicate, once]

theorem holdInStep_of_openFrom {store : Settings.Store} (opened : openFrom store = .ok w) :
    w.HoldInStep := by
  unfold openFrom at opened
  split at opened
  · cases opened
  · cases opened
    exact holdInStep_ofSettings _ _

/-- In every window that events can lead to, the hold timer is active exactly while a button is held
down, and its interval tells whether it has ticked since. Whatever else happens between a press of a
button that can be held down and its release, as long as no such button is handled, the button acts
once at every tick, and at its release exactly if there was none; so it acts as often as there are
ticks, and at least once. -/
theorem held_button_acts {store : Settings.Store} (opened : openFrom store = .ok w)
    (earlier : List Event) :
    let before := w.run earlier
    before.HoldInStep ∧
    ∀ label, role? label = some .held → ∃ action, buttonAction? [label] = some action ∧
      ∀ meanwhile : List Event, (∀ event ∈ meanwhile, event.handlesHeld = false) →
        let pressed := (before.react (.press label)).window
        let last := pressed.run meanwhile
        let released := last.react (.release label)
        let ticks := meanwhile.countP Event.isTick
        before.appliedBy (Event.isOf label) (.press label :: meanwhile ++ [.release label]) =
          List.replicate (max 1 ticks) (action.kind, action.text?.getD []) ∧
        (before.react (.press label)).notes = [] ∧
        (∀ sooner later, meanwhile = sooner ++ .tick :: later →
          (pressed.run sooner).AppliesAt .tick action) ∧
        (if ticks = 0 then last.AppliesAt (.release label) action
          else released.notes = [] ∧ released.window.Agrees last) ∧
        released.window.holdTimer.active = false ∧ released.window.held = none := by
  intro before
  have inStep : before.HoldInStep := (holdInStep_of_openFrom opened).run earlier
  refine ⟨inStep, fun label held => ?_⟩
  obtain ⟨action, found⟩ := exists_action_of_held held
  refine ⟨action, found, fun meanwhile others => ?_⟩
  intro pressed last released ticks
  have holding : Holding label 0 pressed := holding_press inStep held
  obtain ⟨atLast, -⟩ := holding.run held found others
  rw [Nat.zero_add] at atLast
  have free : released.window.holdTimer.active = false ∧ released.window.held = none :=
    free_release last held
  refine ⟨inStep.appliedBy held found others, rfl, ?_, atLast.release held found, free⟩
  rintro sooner later rfl
  have others (event : Event) (among : event ∈ sooner) : event.handlesHeld = false :=
    others event (List.mem_append_left _ among)
  exact (holding.run held found others).1.tick found

/-- The button of the seven is held down for two ticks, while another digit is typed, a sum is begun
and the theme is changed; then the one that takes back is pressed only shortly. -/
theorem held_button_acts_twice :
    let w := ofSettings Settings.standard .absent
    let meanwhile := [Event.tick, .key "Key_3" ['3'], .release '+', .release themeLabel, .tick]
    let last := w.run (.press '7' :: meanwhile ++ [.release '7'])
    openFrom .absent = .ok w ∧
      w.appliedBy (Event.isOf '7') (.press '7' :: meanwhile ++ [.release '7']) =
        [(.digit, ['7']), (.digit, ['7'])] ∧
      last.appliedBy (Event.isOf '⌫') [.press '⌫', .copy, .release '⌫'] = [(.backspace, [])] ∧
      last.holdTimer.active = false ∧ last.held = none := by
  intro w meanwhile last
  have opened : openFrom .absent = .ok w := rfl
  obtain ⟨-, held⟩ := held_button_acts opened []
  obtain ⟨-, held'⟩ := held_button_acts opened (.press '7' :: meanwhile ++ [.release '7'])
  obtain ⟨seven, found, acts⟩ := held '7' (by decide)
  obtain ⟨back, found', acts'⟩ := held' '⌫' (by decide)
  obtain rfl : seven = .digit ['7'] := by
    cases found
    rfl
  obtain rfl : back = .backspace := by
    cases found'
    rfl
  obtain ⟨applied, -, -, -, active, none⟩ := acts meanwhile (by decide)
  obtain ⟨applied', -⟩ := acts' [.copy] (by decide)
  exact ⟨opened, applied, applied', active, none⟩

end Window

end Reckoner
