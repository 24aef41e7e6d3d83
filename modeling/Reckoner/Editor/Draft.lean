import Reckoner.Editor.Request
import Reckoner.Editor.State

/-!
# Drafts

A draft is a state that takes requests. A request for a digit without a text loses the buffer, so a
draft is a state whose buffer may be lost. On a buffer that is not lost and has a character, a
request that is an action does what the action does.
-/

namespace Reckoner.Editor

/-- A state whose buffer may be lost. -/
structure Draft where
  state : State := .initial
  /-- The buffer is lost; what the state has in its place does not count. -/
  lost : Bool := false

/-- What a request leads to, and what is noted on the way. -/
structure DraftOutcome where
  draft : Draft
  notes : List Note := []

namespace Draft

/-- The buffer, unless it is lost. -/
def buffer? (d : Draft) : Option String :=
  if d.lost then none else some (String.ofList d.state.buffer)

/-- What is shown: the message of an error, or the buffer. -/
def display (d : Draft) : Option String :=
  if d.state.errorState then d.state.message else d.buffer?

/-- Where no error is shown, does with a lost buffer what a kind of action asks for. -/
def stepLost (s : State) (kind : ActionKind) (text : Option (List Char)) :
    Except Fault DraftOutcome :=
  match kind, text with
  | .digit, some text =>
    if s.lastWasOperator then .ok { draft := { state := s.enterDigit text } }
    else .error (.lostBuffer (.add "str"))
  | .digit, none =>
    if s.lastWasOperator then
      .ok { draft := { state := { s with lastWasOperator := false }, lost := true } }
    else .error (.lostBuffer (.add "NoneType"))
  | .decimal, _ =>
    if s.lastWasOperator then .error (.lostBuffer (.add "str"))
    else if s.hasDecimal then .ok { draft := { state := s, lost := true } }
    else .error (.lostBuffer .search)
  | .operator, _ => .error (.lostBuffer .last)
  | .equals, _ =>
    let report : Report :=
      { kind := .general, message := Fault.searchMessage, code := ErrorKind.general.code }
    .ok
      { draft :=
          { state := { s with errorState := true, message := some report.display }, lost := true }
        notes := [.failed report] }
  | .clear, _ => .ok { draft := {} }
  | .backspace, _ => .error (.lostBuffer .count)

/-- Where no error is shown, does with a buffer what a kind of action asks for. -/
def stepWhole (places : Places) (s : State) (kind : ActionKind) (text : Option (List Char)) :
    Except Fault DraftOutcome :=
  let perform (action : Action) : Except Fault DraftOutcome :=
    let outcome := s.step places action
    .ok { draft := { state := outcome.state }, notes := outcome.notes }
  match kind, text with
  | .digit, some text => perform (.digit text)
  | .digit, none =>
    if s.buffer = ['0'] || s.lastWasOperator then
      .ok { draft := { state := { s with lastWasOperator := false }, lost := true } }
    else .error .missingText
  | .decimal, _ => perform .decimal
  | .operator, text =>
    match s.buffer, text with
    | [], _ => .error .emptyBuffer
    | _, none => .error .missingText
    | _, some text => perform (.operator text)
  | .equals, _ => perform .equals
  | .clear, _ => perform .clear
  | .backspace, _ => perform .backspace

/-- Where no error is shown, does what a kind of action asks for. -/
def step (places : Places) (d : Draft) (kind : ActionKind) (text : Option (List Char)) :
    Except Fault DraftOutcome :=
  if d.lost then stepLost d.state kind text else stepWhole places d.state kind text

/-- Does what is asked for. Where an error is shown, backspace does nothing, and every other kind
starts from the initial state; clear and equals stop there. -/
def apply (places : Places) (d : Draft) (request : Request) : Except Fault DraftOutcome :=
  match request.kind? with
  | none => .error (.unknownKind request)
  | some kind =>
    if d.state.errorState then
      match kind with
      | .backspace => .ok { draft := d }
      | .clear | .equals => .ok { draft := {} }
      | _ => step places {} kind request.text
    else step places d kind request.text

/-- A whole buffer with a character takes an action as the state takes it. -/
theorem apply_ofAction (places : Places) (s : State) (action : Action) (h : s.buffer ≠ []) :
    apply places { state := s } (.ofAction action) =
      .ok
        { draft := { state := (s.apply places action).state }
          notes := (s.apply places action).notes } := by
  cases hs : s.errorState with
  | true =>
    cases action <;>
      simp [apply, Action.kind, Action.text?, State.apply, hs, step, stepWhole, State.initial]
  | false =>
    cases action <;>
      simp [apply, Action.kind, Action.text?, State.apply, hs, step, stepWhole]

end Draft

end Reckoner.Editor
