import Mathlib.Tactic
import Reckoner.Proofs.Editor.Invariant
import Reckoner.Window.Basic

/-!
# What an event does to a window

Many events reach the editor: keys, buttons that are released or held down, labels, first
expressions. All of them ask it for an action or for a first expression, and its answer is shown in
one way. An event that asks nothing leaves alone what is shown and what is pending, unless it is
the reset after an error.
-/

namespace Reckoner.Window

open Editor Settings
open Json (Value)

/-! ## Asking the editor -/

/-- What the window asks the editor. -/
inductive Query where
  | act (action : Action)
  | seed (text : List Char)

namespace Query

/-- What the session answers to a query. -/
def reply (session : Session) : Query → Reply
  | .act action => session.apply action
  | .seed text => session.seed text

/-- The delay that is given with the answer; null leaves it to the settings. -/
def delay (settings : Settings) : Query → Value
  | .act _ => .null
  | .seed text => settings.get (if isSafe text then errorDelayKey else unsafeDelayKey)

end Query

/-- What an event asks the editor. The reset after an error is not asked for by an event. -/
def query? (w : Window) (event : Event) : Option Query :=
  if event.isIdle w then none
  else
    match event with
    | .release label =>
      match role? label with
      | some .held => if w.wasHeld then none else (buttonAction? [label]).map .act
      | some .plain => (buttonAction? [label]).map .act
      | _ => none
    | .tick => w.held.bind fun label => (buttonAction? [label]).map .act
    | .key name text => (keyAction? (keyName name text)).map .act
    | .label text => (buttonAction? text).map .act
    | .seed text => some (.seed text)
    | .press _ | .timeout | .lateTimeout | .copy => none

/-- The window after events. -/
def run (w : Window) (events : List Event) : Window :=
  events.foldl (fun w event => (w.react event).window) w

/-- Whether events ask the editor nothing. -/
def IsSilent (w : Window) : List Event → Prop
  | [] => True
  | event :: events => w.query? event = none ∧ (w.react event).window.IsSilent events

@[simp] theorem run_nil (w : Window) : w.run [] = w := rfl

@[simp] theorem run_cons (w : Window) (event : Event) (events : List Event) :
    w.run (event :: events) = (w.react event).window.run events := rfl

theorem run_append (w : Window) (before after : List Event) :
    w.run (before ++ after) = (w.run before).run after :=
  List.foldl_append

theorem isSilent_append {w : Window} {before after : List Event} :
    w.IsSilent (before ++ after) ↔ w.IsSilent before ∧ (w.run before).IsSilent after := by
  induction before generalizing w with
  | nil => simp [IsSilent]
  | cons event before ih => simp [IsSilent, ih, and_assoc]

/-! ## Keys that are not the theme -/

/-- Whether windows agree in what is shown, what is pending, and after how long errors are
cleared. -/
structure Agrees (w w' : Window) : Prop where
  session : w.session = w'.session
  display : w.display = w'.display
  resetTimer : w.resetTimer = w'.resetTimer
  errorDelay : w.settings.get errorDelayKey = w'.settings.get errorDelayKey
  unsafeDelay : w.settings.get unsafeDelayKey = w'.settings.get unsafeDelayKey

theorem Agrees.refl (w : Window) : w.Agrees w := ⟨rfl, rfl, rfl, rfl, rfl⟩

theorem get_put_dark (settings : Settings) (value : Value) {key : Value}
    (other : identity? darkKey ≠ identity? key) :
    (settings.put darkKey value).get key = settings.get key := by
  rw [Settings.get, get?_put, if_neg other, Settings.get]

theorem agrees_toggleTheme (w : Window) : w.toggleTheme.Agrees w where
  session := rfl
  display := rfl
  resetTimer := rfl
  errorDelay := get_put_dark _ _ (by decide)
  unsafeDelay := get_put_dark _ _ (by decide)

/-! ## The effect of an event -/

/-- Whether a window shows the answer to a query, or agrees with the one before where there is no
query. -/
def Answers (w : Window) (query? : Option Query) (next : Window) : Prop :=
  match query? with
  | some query =>
    ∃ w', Agrees w' w ∧
      next = (w'.showReply (query.reply w.session) (query.delay w.settings)).window
  | none => next.Agrees w

theorem answers_act {w w' : Window} (agrees : w'.Agrees w) (action : Action) :
    w.Answers (some (.act action)) (w'.act action).window :=
  ⟨w', agrees, by rw [act, agrees.session]; rfl⟩

theorem answers_pushLabel {w w' : Window} (agrees : w'.Agrees w) (label : List Char) :
    w.Answers ((buttonAction? label).map .act) (w'.pushLabel label).window := by
  unfold pushLabel
  cases buttonAction? label with
  | some action => exact answers_act agrees action
  | none => exact agrees

theorem agrees_press (w : Window) (label : Char) : (w.press label).Agrees w := by
  unfold press
  split <;> exact ⟨rfl, rfl, rfl, rfl, rfl⟩

theorem answers_release (w : Window) (label : Char) :
    w.Answers (w.query? (.release label)) (w.release label).window := by
  simp only [query?, Event.isIdle, Bool.false_eq_true, if_false, release]
  cases role? label with
  | none => exact .refl w
  | some role =>
      cases role with
      | copy => exact ⟨rfl, rfl, rfl, rfl, rfl⟩
      | theme => exact agrees_toggleTheme w
      | plain => exact answers_pushLabel (.refl w) [label]
      | held =>
          have agrees : Agrees { w with holdTimer := w.holdTimer.stop, held := none } w :=
            ⟨rfl, rfl, rfl, rfl, rfl⟩
          by_cases ticked : w.wasHeld = true
          · simp only [if_pos ticked]
            exact agrees
          · simp only [if_neg ticked]
            exact answers_pushLabel agrees [label]

theorem react_tick {w : Window} (active : w.holdTimer.active = true) : w.react .tick = w.hold := by
  rw [react, Event.isIdle, active]
  rfl

theorem answers_hold {w : Window} (active : w.holdTimer.active = true) :
    w.Answers (w.query? .tick) w.hold.window := by
  simp only [query?, Event.isIdle, active, Bool.not_true, Bool.false_eq_true, if_false, hold]
  -- nothing that a tick changes before the button acts is shown or pending
  have agrees (timer : Timer ℕ) (held : Option Char) :
      Agrees { w with wasHeld := true, holdTimer := timer, held } w :=
    ⟨rfl, rfl, rfl, rfl, rfl⟩
  cases w.held with
  | none => exact agrees _ none
  | some label => exact answers_pushLabel (agrees _ (some label)) [label]

theorem answers_typeKey (w : Window) (name : String) (text : List Char) :
    w.Answers ((keyAction? (keyName name text)).map .act) (w.typeKey name text).window := by
  unfold typeKey
  cases keyAction? (keyName name text) with
  | some action => exact answers_act (.refl w) action
  | none => exact ⟨rfl, rfl, rfl, rfl, rfl⟩

theorem answers_seed (w : Window) (text : List Char) :
    w.Answers (some (.seed text)) (w.seed text).window := by
  refine ⟨w, .refl w, ?_⟩
  simp only [seed, Query.delay]
  split <;> rfl

/-- Apart from the reset after an error, an event shows the answer to what it asks, or leaves alone
what is shown and what is pending. -/
theorem answers_react (w : Window) {event : Event} (timer : event ≠ .timeout)
    (late : event ≠ .lateTimeout) : w.Answers (w.query? event) (w.react event).window := by
  cases event with
  | press label => exact agrees_press w label
  | release label => exact answers_release w label
  | tick =>
      by_cases active : w.holdTimer.active = true
      · rw [react_tick active]
        exact answers_hold active
      · simp only [react, query?, Event.isIdle, active]
        exact .refl w
  | timeout => exact absurd rfl timer
  | lateTimeout => exact absurd rfl late
  | key name text => exact answers_typeKey w name text
  | copy => exact ⟨rfl, rfl, rfl, rfl, rfl⟩
  | label text => exact answers_pushLabel (.refl w) text
  | seed text => exact answers_seed w text

end Reckoner.Window
