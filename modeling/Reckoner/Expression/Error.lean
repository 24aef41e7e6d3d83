import Reckoner.Expression.Places
import Reckoner.Expression.Token

/-!
# Errors of calculations

Why an expression has no result. Each cause has a kind, a code of four digits and a wording; the
code decides what the display shows and what the log explains. Lemmas tell how a computation put
together from others came to its result or to its error.
-/

namespace Reckoner

/-- The kinds of errors, as they are reported. -/
inductive ErrorKind where
  | general
  | divisionByZero
  | invalidResult
  | invalidExpression
  | unsafeInput
deriving DecidableEq, Repr

namespace ErrorKind

/-- The code of a kind, unless a cause has one of its own. -/
def code : ErrorKind → String
  | .general => "9999"
  | .divisionByZero => "3003"
  | .invalidResult => "3026"
  | .invalidExpression => "3012"
  | .unsafeInput => "1001"

/-- The wording of a kind, unless a cause has one of its own. The general kind has none. -/
def wording? : ErrorKind → Option String
  | .general => none
  | .divisionByZero => some "Division by Zero"
  | .invalidResult => some "Result is not a finite number"
  | .invalidExpression => some "Invalid expression"
  | .unsafeInput => some "Disallowed characters in input"

end ErrorKind

/-- What a code means, for the log. -/
def codeDetail? : String → Option String
  | "1001" => some "Initial calculation contained disallowed characters"
  | "3003" => some "Division by Zero"
  | "3004" => some "Invalid Operator"
  | "3008" => some "More than one '.' in one number."
  | "3011" => some "Unexpected Token"
  | "3012" => some "Invalid expression"
  | "3026" => some "Result is not a finite number."
  | "3027" => some "Missing Number."
  | "9999" => some "Unexpected Error"
  | _ => none

/-- What a code means, where an unknown one counts as unexpected. -/
def codeDetail (code : String) : String := (codeDetail? code).getD "Unexpected Error"

/-- What the display shows in place of an expression: two kinds of error by name, every other as an
invalid expression. -/
def codeDisplay : String → String
  | "1001" => "Error: Unsafe input"
  | "3003" => "Error: Div by Zero"
  | _ => "Error: Invalid Exp"

/-- An error as it is reported: its kind, wording and code, and the text it arose from. -/
structure Report where
  kind : ErrorKind
  message : String
  code : String
  equation : Option (List Char) := none
deriving DecidableEq, Repr

/-- What the display shows for a report. -/
def Report.display (report : Report) : String := codeDisplay report.code

/-- Why an expression has no result. -/
inductive CalculationError where
  /-- The text divides by a literal zero. -/
  | zeroDivisor
  | divisionByZero
  | secondPoint
  /-- A point has no digit beside it. -/
  | lonePoint
  | strayCharacter (c : Char)
  /-- A token stands where it cannot. -/
  | strayToken (token : Token)
  | emptyExpression
  | missingNumber
  /-- A tree holds an operator that does not exist. -/
  | unknownOperator (name : String)
  /-- The value is infinite or not a number. -/
  | notFinite
  | arithmetic (signal : Signal)
  /-- The number of places cannot be kept. -/
  | places (fault : PlacesFault)
  /-- The text holds other characters than digits, points and operators. -/
  | unsafeInput
deriving DecidableEq, Repr

namespace CalculationError

/-- The kind of an error. -/
def kind : CalculationError → ErrorKind
  | .zeroDivisor | .divisionByZero | .arithmetic .divisionByZero => .divisionByZero
  | .notFinite | .arithmetic _ => .invalidResult
  | .places _ => .general
  | .unsafeInput => .unsafeInput
  | _ => .invalidExpression

/-- The code of an error: its own, or that of its kind. -/
def code : CalculationError → String
  | .secondPoint => "3008"
  | .lonePoint | .strayCharacter _ | .strayToken _ => "3011"
  | .emptyExpression | .missingNumber => "3027"
  | .unknownOperator _ => "3004"
  | e => e.kind.code

/-- The wording of an error. -/
def message : CalculationError → String
  | .zeroDivisor | .arithmetic .divisionByZero => "Division by Zero"
  | .divisionByZero => "Division by zero"
  | .secondPoint => "Double comma sign."
  | .lonePoint => "Lone decimal point."
  | .strayCharacter c => "Unexpected token: " ++ c.toString
  | .strayToken token => "Unexpected token: " ++ String.ofList token.text
  | .emptyExpression => "Empty expression."
  | .missingNumber => "Missing Number."
  | .unknownOperator name => "Unknown operator: " ++ name
  | .notFinite => "Result is not a finite number"
  | .arithmetic signal => "Arithmetic failure: " ++ signal.family ++ "(" ++ signal.message ++ ")"
  | .places fault => fault.message
  | .unsafeInput => "Disallowed characters in input"

/-- The report of an error that arose from a text. -/
def report (e : CalculationError) (equation : Option (List Char) := none) : Report :=
  { kind := e.kind, message := e.message, code := e.code, equation }

end CalculationError

/-! ## Results of computations that may fail -/

namespace Results

variable {ε α β : Type}

theorem bind_eq_ok_iff {first : Except ε α} {next : α → Except ε β} {b : β} :
    first.bind next = .ok b ↔ ∃ a, first = .ok a ∧ next a = .ok b := by
  cases first <;> simp [Except.bind]

theorem bind_eq_error_iff {first : Except ε α} {next : α → Except ε β} {e : ε} :
    first.bind next = .error e ↔ first = .error e ∨ ∃ a, first = .ok a ∧ next a = .error e := by
  cases first <;> simp [Except.bind]

theorem map_eq_ok_iff {first : Except ε α} {f : α → β} {b : β} :
    first.map f = .ok b ↔ ∃ a, first = .ok a ∧ f a = b := by
  cases first <;> simp [Except.map]

theorem map_eq_error_iff {first : Except ε α} {f : α → β} {e : ε} :
    first.map f = .error e ↔ first = .error e := by
  cases first <;> simp [Except.map]

theorem mapError_eq_ok_iff {ε' : Type} {first : Except ε α} {f : ε → ε'} {a : α} :
    first.mapError f = .ok a ↔ first = .ok a := by
  cases first with
  | error e => exact ⟨nofun, nofun⟩
  | ok b =>
    show Except.ok b = _ ↔ Except.ok b = _
    simp only [Except.ok.injEq]

theorem mapError_eq_error_iff {ε' : Type} {first : Except ε α} {f : ε → ε'} {e : ε'} :
    first.mapError f = .error e ↔ ∃ e', first = .error e' ∧ f e' = e := by
  cases first with
  | ok b => exact ⟨nofun, nofun⟩
  | error e' =>
    show Except.error (f e') = _ ↔ _
    simp only [Except.error.injEq, exists_eq_left']

end Results

end Reckoner
