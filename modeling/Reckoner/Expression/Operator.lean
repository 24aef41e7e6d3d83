import Reckoner.Decimal.Arithmetic

/-!
# Operators

The four operators, their symbols and their order of precedence.
-/

namespace Reckoner

/-- The operators of expressions. -/
inductive Operator where
  | add
  | sub
  | mul
  | div
deriving DecidableEq, Repr

namespace Operator

/-- The operators in their usual order. -/
def all : List Operator := [.add, .sub, .mul, .div]

/-- The character that stands for an operator. -/
def symbol : Operator → Char
  | .add => '+'
  | .sub => '-'
  | .mul => '*'
  | .div => '/'

/-- The operator that a character stands for. -/
def ofChar? : Char → Option Operator
  | '+' => some .add
  | '-' => some .sub
  | '*' => some .mul
  | '/' => some .div
  | _ => none

/-- Whether a character is the symbol of an operator. -/
def isSymbol (c : Char) : Bool := (ofChar? c).isSome

/-- The operator that a text of one character stands for. -/
def ofText? : List Char → Option Operator
  | [c] => ofChar? c
  | _ => none

/-- The place of the operator that a text spells, in the usual order. -/
def index? (cs : List Char) : Option Nat := (ofText? cs).bind fun op => all.findIdx? (· = op)

/-- Multiplication and division bind more tightly than addition and subtraction. -/
def isProduct : Operator → Bool
  | .mul | .div => true
  | .add | .sub => false

end Operator

end Reckoner
