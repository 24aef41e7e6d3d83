import Reckoner.Json.Lexeme
import Reckoner.Json.Value

/-!
# Reading JSON

Lexemes are read one at a time against a stack of the lists and records that are still open. A text
holds one value and nothing else. A name that comes twice in a record keeps its first place and its
last value, and a whole number may have at most 4300 digits.

Values may lie in each other to any depth; a limit on recursion is left out.
-/

namespace Reckoner.Json

/-- Why a text is not read to a value. -/
inductive ReadError where
  | malformed
  /-- A whole number has `digits` digits, more than are read. -/
  | longInteger (digits : Nat)
deriving DecidableEq, Repr

/-- The most digits that a whole number may have. -/
def digitLimit : Nat := 4300

/-- A list or record that is still open. -/
inductive Frame where
  /-- The items of a list, last first. -/
  | items (done : List Value)
  /-- The fields of a record. -/
  | fields (done : List (CodePoints × Value))
  /-- The fields of a record and the name whose value comes next. -/
  | entry (done : List (CodePoints × Value)) (key : CodePoints)

/-- What may come next. -/
inductive Reading where
  /-- A value; at the start of a list also its end. -/
  | awaitValue (stack : List Frame) (mayClose : Bool)
  /-- The name of a field; at the start of a record also its end. -/
  | awaitName (stack : List Frame) (done : List (CodePoints × Value)) (mayClose : Bool)
  /-- The colon after a name. -/
  | awaitColon (stack : List Frame) (done : List (CodePoints × Value)) (key : CodePoints)
  /-- A comma, or the end of what is open. -/
  | awaitMore (stack : List Frame)
  /-- Nothing: the value is complete. -/
  | whole (value : Value)

namespace Reading

/-- Hands a complete value to what is open. -/
def deliver (value : Value) : List Frame → Reading
  | [] => .whole value
  | .items done :: stack => .awaitMore (.items (value :: done) :: stack)
  | .entry done key :: stack => .awaitMore (.fields (putField done key value) :: stack)
  | .fields done :: stack => .awaitMore (.fields done :: stack)

/-- Reads a lexeme where a value may start. -/
def readValue (stack : List Frame) : Lexeme → Except ReadError Reading
  | .null => .ok (deliver .null stack)
  | .bool b => .ok (deliver (.bool b) stack)
  | .float x => .ok (deliver (.float x) stack)
  | .text points => .ok (deliver (.text points) stack)
  | .int negative digits =>
    if digitLimit < digits.length then .error (.longInteger digits.length)
    else
      let magnitude : Int := Numeral.ofChars Text.digitValue? digits
      .ok (deliver (.int (if negative then -magnitude else magnitude)) stack)
  | .openList => .ok (.awaitValue (.items [] :: stack) true)
  | .openRecord => .ok (.awaitName stack [] true)
  | _ => .error .malformed

/-- Reads a lexeme. -/
def step : Reading → Lexeme → Except ReadError Reading
  | .awaitValue (.items [] :: stack) true, .closeList => .ok (deliver (.list []) stack)
  | .awaitValue stack _, lexeme => readValue stack lexeme
  | .awaitName stack _ true, .closeRecord => .ok (deliver (.record []) stack)
  | .awaitName stack done _, .text name => .ok (.awaitColon stack done name)
  | .awaitColon stack done key, .colon => .ok (.awaitValue (.entry done key :: stack) false)
  | .awaitMore (.items done :: stack), .comma => .ok (.awaitValue (.items done :: stack) false)
  | .awaitMore (.items done :: stack), .closeList => .ok (deliver (.list done.reverse) stack)
  | .awaitMore (.fields done :: stack), .comma => .ok (.awaitName stack done false)
  | .awaitMore (.fields done :: stack), .closeRecord => .ok (deliver (.record done) stack)
  | _, _ => .error .malformed

/-- Reads lexemes in order, up to the first fault. -/
def run (reading : Reading) : List Lexeme → Except ReadError Value
  | [] =>
    match reading with
    | .whole value => .ok value
    | _ => .error .malformed
  | lexeme :: rest =>
    match reading.step lexeme with
    | .error e => .error e
    | .ok reading => reading.run rest

end Reading

/-- The value that a text spells. -/
def read (cs : List Char) : Except ReadError Value := (Reading.awaitValue [] false).run (lexemes cs)

end Reckoner.Json
