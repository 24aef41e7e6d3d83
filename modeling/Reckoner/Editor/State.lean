import Reckoner.Editor.Note
import Reckoner.Expression.Operator
import Reckoner.Text.Digit

/-!
# The editor's state

An expression is built up one action at a time. The state holds its text and two flags about the end
of it. After an error the text stays, but a message is shown in its place until an action other than
backspace starts afresh. Of the text, the operators at its end and the number after its last
operator matter.

Texts are made of characters here, as they are in expressions, labels, keys and the log: one that
holds half of a surrogate pair is left out. Only the settings can hold such texts.
-/

namespace Reckoner.Editor

/-! ## Buffers -/

/-- Drops the operators at the end. -/
def stripOperators (cs : List Char) : List Char :=
  (cs.reverse.dropWhile Operator.isSymbol).reverse

/-- What follows the last operator. -/
def lastNumber (cs : List Char) : List Char :=
  (cs.reverse.takeWhile fun c => !Operator.isSymbol c).reverse

/-- Whether the last character is an operator. -/
def endsInOperator (cs : List Char) : Bool := cs.getLast?.any Operator.isSymbol

/-- Whether the number after the last operator has a point. -/
def endsInFraction (cs : List Char) : Bool := (lastNumber cs).contains '.'

/-- Whether a text holds nothing but ASCII digits, points and operators. -/
def isSafe (cs : List Char) : Bool :=
  cs.all fun c => Text.isPlainDigit c || c == '.' || Operator.isSymbol c

/-! ## States -/

/-- What is typed, and what is shown. -/
structure State where
  buffer : List Char := ['0']
  /-- An operator was entered last. -/
  lastWasOperator : Bool := false
  /-- The number at the end of the buffer has a point. -/
  hasDecimal : Bool := false
  /-- The message is shown instead of the buffer. -/
  errorState : Bool := false
  message : Option String := none
deriving DecidableEq, Repr

/-- What an action leads to, and what is noted on the way. -/
structure Outcome where
  state : State
  notes : List Note := []

namespace State

/-- A lone zero. -/
def initial : State := {}

/-- What is shown: the message of an error, or the buffer. -/
def display (s : State) : Option String :=
  if s.errorState then s.message else some (String.ofList s.buffer)

/-- The state that shows a result. -/
def ofResult (result : List Char) : State :=
  { buffer := result, hasDecimal := result.contains '.' }

/-- The state that shows an error over the buffer. -/
def failed (s : State) (e : CalculationError) : State :=
  { s with errorState := true, message := some (codeDisplay e.code) }

/-- A digit takes the place of a lone zero and of what ends in an operator entered last; otherwise
it is added. -/
def enterDigit (s : State) (text : List Char) : State :=
  if s.buffer = ['0'] || s.lastWasOperator then { s with buffer := text, lastWasOperator := false }
  else { s with buffer := s.buffer ++ text, lastWasOperator := false }

/-- A point starts a new number after an operator, and is added to a number that has none. -/
def enterDecimal (s : State) : State :=
  if s.lastWasOperator then
    { s with buffer := s.buffer ++ ['0', '.'], lastWasOperator := false, hasDecimal := true }
  else if !s.hasDecimal && !endsInFraction s.buffer then
    { s with buffer := s.buffer ++ ['.'], hasDecimal := true }
  else s

/-- An operator takes the place of an operator at the end; otherwise it is added. -/
def enterOperator (s : State) (text : List Char) : State :=
  let kept := if endsInOperator s.buffer then s.buffer.dropLast else s.buffer
  { s with buffer := kept ++ text, lastWasOperator := true, hasDecimal := false }

/-- Evaluates `text`: the result starts a new buffer, an error leaves the old one. -/
def evaluate (places : Places) (s : State) (text : List Char) : Outcome :=
  match calculate .standard places text with
  | .ok result => { state := ofResult result, notes := readingNotes text }
  | .error e =>
    { state := s.failed e, notes := readingNotes text ++ [.failed (e.report (some text))] }

/-- Evaluates the buffer without the operators at its end. -/
def equals (places : Places) (s : State) : Outcome :=
  match stripOperators s.buffer with
  | [] => { state := { s with buffer := ['0'] } }
  | working => s.evaluate places working

/-- Takes back the last character; the last one of all leaves the initial state. -/
def backspace (s : State) : State :=
  if s.buffer.length ≤ 1 then initial
  else
    let buffer := s.buffer.dropLast
    { s with
      buffer
      hasDecimal := endsInFraction buffer
      lastWasOperator := endsInOperator buffer }

/-- Applies an action where no error is shown. -/
def step (places : Places) (s : State) : Action → Outcome
  | .digit text => { state := s.enterDigit text }
  | .decimal => { state := s.enterDecimal }
  | .operator text => { state := s.enterOperator text }
  | .equals => s.equals places
  | .clear => { state := initial }
  | .backspace => { state := s.backspace }

/-- Applies an action. Where an error is shown, backspace does nothing, and every other action
starts from the initial state; clear and equals stop there. -/
def apply (places : Places) (s : State) (action : Action) : Outcome :=
  if s.errorState then
    match action with
    | .backspace => { state := s }
    | .clear | .equals => { state := initial }
    | _ => initial.step places action
  else s.step places action

theorem apply_of_running {places : Places} {s : State} {action : Action}
    (running : s.errorState = false) : s.apply places action = s.step places action := by
  rw [apply.eq_def, running, if_neg (by decide)]

/-- The state that a first expression leads to. Unsafe text is not evaluated. -/
def seed (places : Places) (text : List Char) : Outcome :=
  if text = [] then { state := initial }
  else if isSafe text then initial.evaluate places text
  else
    let e := CalculationError.unsafeInput
    { state := initial.failed e, notes := [.failed (e.report (some text))] }

end State

end Reckoner.Editor
