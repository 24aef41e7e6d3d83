import Reckoner.Expression.Operator
import Reckoner.Json.Inspect
import Reckoner.Text.Digit

/-!
# Actions

One discrete intent of whoever types: a digit, the point, an operator, and the keys that evaluate,
clear and take back. Operators may be given by the glyphs on their buttons. Digits, the point and
operators are the same on keys and buttons; what is on neither map stands for nothing.
-/

namespace Reckoner

/-- The operator that a text names, by its symbol or by its glyph. -/
def Operator.ofGlyph? : List Char → Option Operator
  | ['−'] => some .sub
  | ['×'] => some .mul
  | ['÷'] => some .div
  | cs => Operator.ofText? cs

namespace Editor

/-- The kinds of actions. -/
inductive ActionKind where
  | digit
  | decimal
  | operator
  | equals
  | clear
  | backspace
deriving DecidableEq, Repr

/-- The name of a kind. -/
def ActionKind.name : ActionKind → String
  | .digit => "digit"
  | .decimal => "decimal"
  | .operator => "operator"
  | .equals => "equals"
  | .clear => "clear"
  | .backspace => "backspace"

/-- The kind with a name. -/
def ActionKind.ofName? : String → Option ActionKind
  | "digit" => some .digit
  | "decimal" => some .decimal
  | "operator" => some .operator
  | "equals" => some .equals
  | "clear" => some .clear
  | "backspace" => some .backspace
  | _ => none

/-- An action. The texts of digits and operators are put into the buffer as they are. -/
inductive Action where
  | digit (text : List Char)
  | decimal
  | operator (text : List Char)
  | equals
  | clear
  | backspace
deriving DecidableEq, Repr

namespace Action

/-- The kind of an action. -/
def kind : Action → ActionKind
  | .digit _ => .digit
  | .decimal => .decimal
  | .operator _ => .operator
  | .equals => .equals
  | .clear => .clear
  | .backspace => .backspace

/-- The text of an action, for digits and operators. -/
def text? : Action → Option (List Char)
  | .digit text | .operator text => some text
  | _ => none

/-- The action that enters an operator, by its symbol. -/
def ofOperator (op : Operator) : Action := .operator [op.symbol]

/-- The digit that a text is, if it is one ASCII digit. -/
def digit? : List Char → Option Action
  | [c] => if Text.isPlainDigit c then some (.digit [c]) else none
  | _ => none

/-- The action of the operator that a text names. -/
def operator? (cs : List Char) : Option Action := (Operator.ofGlyph? cs).map ofOperator

/-- An action that was checked when it was made: one ASCII digit, or the symbol of an operator. -/
inductive Checked : Action → Prop where
  | digit {c : Char} : Text.isPlainDigit c = true → Checked (.digit [c])
  | decimal : Checked .decimal
  | operator (op : Operator) : Checked (ofOperator op)
  | equals : Checked .equals
  | clear : Checked .clear
  | backspace : Checked .backspace

end Action

/-! ## Keys and buttons -/

/-- What keys and buttons have in common. -/
def commonAction? (cs : List Char) : Option Action :=
  (Action.digit? cs).or <| if cs = ['.'] then some .decimal else Action.operator? cs

/-- The action of a key, given by its name or by the text it types. -/
def keyAction? (cs : List Char) : Option Action :=
  (commonAction? cs).or <|
    match String.ofList cs with
    | "Enter" | "Return" | "=" => some .equals
    | "Escape" => some .clear
    | "Backspace" => some .backspace
    | _ => none

/-- The action of a button, given by its label. -/
def buttonAction? (cs : List Char) : Option Action :=
  (commonAction? cs).or <|
    match cs with
    | ['='] => some .equals
    | ['C'] => some .clear
    | ['⌫'] => some .backspace
    | _ => none

end Editor

end Reckoner
