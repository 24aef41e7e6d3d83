import Reckoner.Editor.Action
import Reckoner.Editor.State

/-!
# Sessions

A session applies actions one after the other, and notes each with the display it leads to.
-/

namespace Reckoner.Editor

/-- The state of the editor, and how many places results keep. -/
structure Session where
  places : Places := .standard
  state : State := .initial

/-- What a session answers: where it stands, what it shows, and what is noted. -/
structure Reply where
  session : Session
  /-- The display; `none` when nothing was done. -/
  display : Option String
  notes : List Note

namespace Session

/-- What is shown. -/
def display (session : Session) : Option String := session.state.display

/-- Applies an action, and notes it. -/
def apply (session : Session) (action : Action) : Reply :=
  let outcome := session.state.apply session.places action
  { session := { session with state := outcome.state }
    display := outcome.state.display
    notes := outcome.notes ++
      [.applied action.kind (action.text?.getD []) outcome.state.display] }

/-- Evaluates a first expression, and notes it. -/
def seed (session : Session) (text : List Char) : Reply :=
  let outcome := State.seed session.places text
  { session := { session with state := outcome.state }
    display := outcome.state.display
    notes := outcome.notes ++ [.seeded text outcome.state.display] }

/-- Clears an error that is still shown; otherwise does nothing. -/
def resetIfError (session : Session) : Reply :=
  if session.state.errorState then session.apply .clear
  else { session, display := none, notes := [] }

end Session

end Reckoner.Editor
