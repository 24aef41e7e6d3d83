import Reckoner.Editor.Session
import Reckoner.Settings.Store
import Reckoner.Window.Look
import Reckoner.Window.Timer

/-!
# The window

The window turns buttons and keys into actions of the editor and shows what it answers. An error on
show is cleared after a delay: showing one starts the reset timer, and showing anything else stops
it. A button that is held down acts at every tick of the hold timer, and once when it is released
before the first tick. The theme is saved with the other settings.

When a timer runs out is left to the events; how a window is drawn is left out.
-/

namespace Reckoner

open Editor Settings
open Json (Value)

/-- A window: what is typed in it, its settings and their file, its timers and its look. -/
structure Window where
  session : Session
  settings : Settings
  store : Store
  display : Option String
  /-- Clears an error that is shown. -/
  resetTimer : Timer Value := { interval := .int 0 }
  /-- Repeats the button that is held down. -/
  holdTimer : Timer Nat := { interval := 0 }
  /-- The hold timer has ticked since a button was pressed. -/
  wasHeld : Bool := false
  held : Option Char := none
  dark : Bool
  /-- How many keys had no meaning. -/
  ignoredKeys : Nat := 0
  /-- What was copied last. -/
  clipboard : Option String := none

namespace Window

/-- The window after an event, and what is noted. -/
structure Reaction where
  window : Window
  notes : List Note := []

/-- What happens to a window. -/
inductive Event where
  | press (label : Char)
  | release (label : Char)
  | tick
  | timeout
  /-- The reset timer's work is done, though the timer does not run out. -/
  | lateTimeout
  /-- A key, by its name and the text it types. -/
  | key (name : String) (text : List Char)
  /-- The keys that copy. -/
  | copy
  /-- A label is given as if its button were released. -/
  | label (text : List Char)
  | seed (text : List Char)

/-- What the window is called. -/
def title : String := "Calculator"

/-- The window's width and height. -/
def size : Nat × Nat := (320, 460)

/-- After how many milliseconds a held button acts first. -/
def firstDelay : Nat := 500

/-- After how many milliseconds a held button acts again. -/
def repeatDelay : Nat := 100

/-- A window that is opened with settings from a store. -/
def ofSettings (settings : Settings) (store : Store) : Window :=
  let session : Session := { places := .ofValue (settings.get placesKey) }
  { session, settings, store, display := session.display, dark := (settings.get darkKey).isSet }

/-- Opens a window with the settings that are stored. -/
def openFrom (store : Store) : Except LoadError Window :=
  match store.load with
  | .error e => .error e
  | .ok settings => .ok (ofSettings settings store)

/-- Starts the reset timer with a delay; where that is null, with the interval that it has. -/
def startReset (timer : Timer Value) : Value → Timer Value
  | .null => timer.start
  | delay => .startWith delay

/-- Shows what the editor answered. In an error state the reset timer starts, with `delay` or, where
that is null, with the delay that is set; else it stops. -/
def showReply (w : Window) (reply : Reply) (delay : Value := .null) : Reaction :=
  let timer :=
    if reply.session.state.errorState then
      startReset w.resetTimer <| match delay with
        | .null => w.settings.get errorDelayKey
        | delay => delay
    else w.resetTimer.stop
  { window := { w with session := reply.session, display := reply.display, resetTimer := timer }
    notes := reply.notes }

/-- Applies an action. -/
def act (w : Window) (action : Action) : Reaction := w.showReply (w.session.apply action)

/-- Does what the label of a button stands for. -/
def pushLabel (w : Window) (label : List Char) : Reaction :=
  match buttonAction? label with
  | some action => w.act action
  | none => { window := w, notes := [.unmapped label] }

/-- Copies what is shown. -/
def copyDisplay (w : Window) : Window := { w with clipboard := w.display }

/-- Changes between dark and light, and saves the settings. -/
def toggleTheme (w : Window) : Window :=
  let dark := !(w.settings.get darkKey).isSet
  let settings := w.settings.put darkKey (.bool dark)
  { w with settings, dark, store := (Store.save settings w.store).1 }

/-- Presses the button with a label down. -/
def press (w : Window) (label : Char) : Window :=
  match role? label with
  | some .held =>
    { w with wasHeld := false, held := some label, holdTimer := .startWith firstDelay }
  | _ => w

/-- Releases the button with a label. -/
def release (w : Window) (label : Char) : Reaction :=
  match role? label with
  | some .copy => { window := w.copyDisplay }
  | some .theme => { window := w.toggleTheme }
  | some .held =>
    let w := { w with holdTimer := w.holdTimer.stop, held := none }
    if w.wasHeld then { window := w } else w.pushLabel [label]
  | some .plain => w.pushLabel [label]
  | none => { window := w }

/-- The hold timer has run out: the button that is held down acts. -/
def hold (w : Window) : Reaction :=
  let interval := if w.holdTimer.interval = firstDelay then repeatDelay else w.holdTimer.interval
  let w := { w with wasHeld := true, holdTimer := { w.holdTimer with interval } }
  match w.held with
  | some label => w.pushLabel [label]
  | none => { window := w }

/-- Clears an error that is still shown. -/
def clearError (w : Window) : Reaction :=
  let reply := w.session.resetIfError
  { window := { w with session := reply.session, display := reply.display.or w.display }
    notes := reply.notes }

/-- What a key is called: four keys by their names, every other one by the text it types. -/
def keyName (name : String) (text : List Char) : List Char :=
  match name with
  | "Key_Return" | "Key_Enter" => "Enter".toList
  | "Key_Escape" => "Escape".toList
  | "Key_Backspace" => "Backspace".toList
  | _ => text

/-- Does what a key stands for; one that stands for nothing is ignored. -/
def typeKey (w : Window) (name : String) (text : List Char) : Reaction :=
  match keyAction? (keyName name text) with
  | some action => w.act action
  | none => { window := { w with ignoredKeys := w.ignoredKeys + 1 } }

/-- Evaluates a first expression. The error of an unsafe one stays for a delay of its own. -/
def seed (w : Window) (text : List Char) : Reaction :=
  let reply := w.session.seed text
  if isSafe text then w.showReply reply (w.settings.get errorDelayKey)
  else
    let reaction := w.showReply reply (w.settings.get unsafeDelayKey)
    { reaction with notes := .unsafeSeed text :: reaction.notes }

/-- Whether an event comes from a timer that is not active, so that it does not happen. -/
def Event.isIdle (w : Window) : Event → Bool
  | .tick => !w.holdTimer.active
  | .timeout => !w.resetTimer.active
  | _ => false

/-- What an event does. A timer runs out only if it is active, and the reset timer stops then. -/
def react (w : Window) (event : Event) : Reaction :=
  if event.isIdle w then { window := w }
  else
    match event with
    | .press label => { window := w.press label }
    | .release label => w.release label
    | .tick => w.hold
    | .timeout => clearError { w with resetTimer := w.resetTimer.stop }
    | .lateTimeout => w.clearError
    | .key name text => w.typeKey name text
    | .copy => { window := w.copyDisplay }
    | .label text => w.pushLabel text
    | .seed text => w.seed text

end Window

end Reckoner
