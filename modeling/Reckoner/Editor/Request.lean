import Reckoner.Editor.Action
import Reckoner.Editor.Note

/-!
# Requests

Requests come from outside and need not be actions: their kind may be any value, and the text of a
digit or an operator may be missing. What is wrong with a request, or with a value that should be an
action, is a fault.
-/

namespace Reckoner.Editor

open Json (CodePoints Value)

/-- What a request is about to do with a lost buffer. -/
inductive BufferUse where
  /-- Add a value of the named kind. -/
  | add (kindName : String)
  | search
  | last
  | count

/-- What is asked of the editor. -/
structure Request where
  kind : Value
  text : Option (List Char) := none

/-- What is wrong with a request or a value. -/
inductive Fault where
  /-- The value is no digit; this is its text. -/
  | notDigit (text : CodePoints)
  | notOperator (value : Value)
  /-- A value of this kind cannot be looked up. -/
  | unhashable (kindName : String)
  /-- A value of this kind has no characters to count. -/
  | uncounted (kindName : String)
  /-- A value of this kind cannot be looked for in a text. -/
  | notSought (kindName : String)
  /-- The kind of the request does not exist. -/
  | unknownKind (request : Request)
  | emptyBuffer
  | missingText
  | lostBuffer (use : BufferUse)

/-- The kinds of faults. -/
inductive FaultKind where
  /-- The kind of a value does not fit. -/
  | unfit
  /-- The kind fits, but the value does not. -/
  | unknown
  /-- There is nothing at a position. -/
  | outOfRange

namespace Fault

/-- The kind of a fault. -/
def kind : Fault → FaultKind
  | .notDigit _ | .notOperator _ | .unknownKind _ => .unknown
  | .emptyBuffer => .outOfRange
  | _ => .unfit

/-- What the search in a lost buffer says. -/
def searchMessage : String := "expected string or bytes-like object, got 'NoneType'"

/-- What is said of a fault. -/
def message : Fault → String
  | .notDigit text => "Not a digit: " ++ String.ofList text.quoted
  | .notOperator value => "Not an operator: " ++ String.ofList value.inspect
  | .unhashable kindName => "unhashable type: '" ++ kindName ++ "'"
  | .uncounted kindName => "object of type '" ++ kindName ++ "' has no len()"
  | .notSought kindName =>
    "'in <string>' requires string as left operand, not " ++ kindName
  | .unknownKind request =>
    "Unknown action: Action(kind=" ++ String.ofList request.kind.inspect ++ ", value=" ++
      String.ofList (Note.quotedOrNone request.text) ++ ")"
  | .emptyBuffer => "string index out of range"
  | .missingText => "can only concatenate str (not \"NoneType\") to str"
  | .lostBuffer (.add kindName) =>
    "unsupported operand type(s) for +: 'NoneType' and '" ++ kindName ++ "'"
  | .lostBuffer .search => searchMessage
  | .lostBuffer .last => "'NoneType' object is not subscriptable"
  | .lostBuffer .count => "object of type 'NoneType' has no len()"

end Fault

namespace Action

/-- The digit that a value is, by the text of the value. -/
def ofDigitValue (value : Value) : Except Fault Action :=
  match value.plain.chars?.bind digit? with
  | some action => .ok action
  | none => .error (.notDigit value.plain)

/-- The operator that a value names, by its symbol or its glyph. -/
def ofOperatorValue (value : Value) : Except Fault Action :=
  match value with
  | .text points =>
    match points.chars?.bind operator? with
    | some action => .ok action
    | none => .error (.notOperator value)
  | .list _ | .record _ => .error (.unhashable value.kindName)
  | _ => .error (.notOperator value)

/-- The action that a value stands for by a map of keys or buttons; a value that is not set stands
for nothing. -/
def ofMapped (map : List Char → Option Action) (value : Value) : Except Fault (Option Action) :=
  if value.isSet then
    match value with
    | .text points => .ok (points.chars?.bind map)
    | .list [_] | .record [_] => .error (.notSought value.kindName)
    | .list _ | .record _ => .error (.unhashable value.kindName)
    | _ => .error (.uncounted value.kindName)
  else .ok none

end Action

namespace Request

/-- The request for an action. -/
def ofAction (action : Action) : Request :=
  { kind := .text action.kind.name, text := action.text? }

/-- The kind of action that is asked for. -/
def kind? (request : Request) : Option ActionKind :=
  match request.kind with
  | .text points => points.string?.bind ActionKind.ofName?
  | _ => none

@[simp] theorem text_ofAction (action : Action) : (ofAction action).text = action.text? := rfl

/-- The request for an action asks for its kind. -/
@[simp] theorem kind?_ofAction (action : Action) : (ofAction action).kind? = some action.kind := by
  rw [kind?, ofAction]
  dsimp only
  rw [CodePoints.string?_ofString, Option.bind_some]
  cases action <;> rfl

end Request

end Reckoner.Editor
