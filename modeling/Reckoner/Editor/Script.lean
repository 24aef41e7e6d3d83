import Reckoner.Editor.Draft
import Reckoner.Editor.Session

/-!
# Scripts

A script is a list of commands for a desk: a draft and the number of places that results keep. A
command that has a fault leaves the desk as it was.
-/

namespace Reckoner.Editor

open Json (Value)

/-- One line of a script. -/
inductive Command where
  /-- Enter the digit that a value is. -/
  | digit (value : Value)
  /-- Enter the operator that a value names. -/
  | operator (value : Value)
  /-- Do what is asked for, whatever it is. -/
  | request (request : Request)
  | key (value : Value)
  | button (value : Value)
  | seed (text : List Char)
  /-- Clear an error that is still shown. -/
  | resetIfError
  | resume (draft : Draft)
  | keep (places : Places)

/-- A draft, and how many places results keep. -/
structure Desk where
  places : Places := .standard
  draft : Draft := {}

/-- What a command answers. -/
inductive Shown where
  | display (text : Option String)
  /-- Nothing: a key or a button stands for nothing. -/
  | dropped

/-- What a command leads to: the desk after it, its answer and what is noted. -/
structure DeskReply where
  desk : Desk
  shown : Shown
  notes : List Note := []

/-- What a session answers, at a desk. -/
def DeskReply.ofReply (reply : Reply) : DeskReply :=
  { desk := { places := reply.session.places, draft := { state := reply.session.state } }
    shown := .display reply.display
    notes := reply.notes }

namespace Desk

/-- The session at a desk whose buffer is not lost. -/
def session (desk : Desk) : Session := { places := desk.places, state := desk.draft.state }

/-- Does what is asked for, and notes it. -/
def perform (desk : Desk) (request : Request) : Except Fault DeskReply :=
  match desk.draft.apply desk.places request with
  | .error fault => .error fault
  | .ok outcome =>
    let display := outcome.draft.display
    let applied := request.kind?.toList.map (Note.applied · (request.text.getD []) display)
    .ok
      { desk := { desk with draft := outcome.draft }
        shown := .display display
        notes := outcome.notes ++ applied }

/-- Does what a key or a button stands for. -/
def performMapped (desk : Desk) : Option Action → Except Fault DeskReply
  | none => .ok { desk, shown := .dropped }
  | some action => desk.perform (.ofAction action)

/-- Does what a command says. -/
def run (desk : Desk) : Command → Except Fault DeskReply
  | .digit value =>
    match Action.ofDigitValue value with
    | .error fault => .error fault
    | .ok action => desk.perform (.ofAction action)
  | .operator value =>
    match Action.ofOperatorValue value with
    | .error fault => .error fault
    | .ok action => desk.perform (.ofAction action)
  | .request request => desk.perform request
  | .key value =>
    match Action.ofMapped keyAction? value with
    | .error fault => .error fault
    | .ok action => desk.performMapped action
  | .button value =>
    match Action.ofMapped buttonAction? value with
    | .error fault => .error fault
    | .ok action => desk.performMapped action
  | .seed text => .ok (.ofReply (desk.session.seed text))
  | .resetIfError =>
    if desk.draft.state.errorState then .ok (.ofReply desk.session.resetIfError)
    else .ok { desk, shown := .display none }
  | .resume draft => .ok { desk := { desk with draft }, shown := .display draft.display }
  | .keep places =>
    .ok { desk := { desk with places }, shown := .display desk.draft.display }

/-- Runs the commands of a script in order, each on the desk that the last one left. Answers with
each command's reply or fault, and the desk after it. -/
def runAll (desk : Desk) : List Command → List (Except Fault DeskReply × Desk)
  | [] => []
  | command :: commands =>
    let reply := desk.run command
    let next := match reply with
      | .ok reply => reply.desk
      | .error _ => desk
    (reply, next) :: runAll next commands

/-- At a desk whose buffer has a character, an action does what it does in the session. -/
theorem perform_ofAction (places : Places) (s : State) (action : Action) (h : s.buffer ≠ []) :
    perform { places, draft := { state := s } } (.ofAction action) =
      .ok (.ofReply (Session.apply { places, state := s } action)) := by
  rw [perform, Draft.apply_ofAction places s action h]
  simp [DeskReply.ofReply, Session.apply, Draft.display, Draft.buffer?, State.display]

end Desk

end Reckoner.Editor
