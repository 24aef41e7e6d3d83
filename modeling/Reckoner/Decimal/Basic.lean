import Reckoner.Numeral

/-!
# Decimal numbers

A decimal number is a signed coefficient times a power of ten, an infinity, or not a number. Numbers
of one value may differ in coefficient and exponent: `2.50` keeps its zero. Results are fitted into
a context, which bounds the digits of a coefficient and the exponents.
-/

namespace Reckoner

/-- The finite decimal `(-1) ^ negative * coefficient * 10 ^ exponent`. -/
structure Number where
  negative : Bool
  coefficient : Nat
  exponent : Int
deriving DecidableEq, Repr, Inhabited

/-- A decimal. What is not a number may be signaling, and carries a payload. -/
inductive Decimal where
  | finite (x : Number)
  | infinity (negative : Bool)
  | nan (negative signaling : Bool) (payload : Nat)
deriving DecidableEq, Repr

/-- Why an operation has no result. -/
inductive Signal where
  | invalidOperation
  /-- A text is no decimal. -/
  | conversionSyntax
  /-- Zero divided by zero. -/
  | divisionUndefined
  | divisionByZero
  | overflow
deriving DecidableEq, Repr, Inhabited

/-- The condition as messages name it. -/
def Signal.condition : Signal → String
  | .invalidOperation => "InvalidOperation"
  | .conversionSyntax => "ConversionSyntax"
  | .divisionUndefined => "DivisionUndefined"
  | .divisionByZero => "DivisionByZero"
  | .overflow => "Overflow"

/-- The condition under which a signal is caught: the special ones are invalid operations. -/
def Signal.family : Signal → String
  | .conversionSyntax | .divisionUndefined => "InvalidOperation"
  | signal => signal.condition

/-- What is said of a signal: the list of its one condition. -/
def Signal.message (signal : Signal) : String := "[<class 'decimal." ++ signal.condition ++ "'>]"

/-- The bounds for results: at most `precision` digits, and magnitudes from `10 ^ (-emax)` to below
`10 ^ (emax + 1)`; smaller results lose digits. -/
structure Context where
  precision : Nat
  emax : Nat
deriving DecidableEq, Repr

namespace Context

/-- Fifty digits, exponents up to 999999. -/
def standard : Context := { precision := 50, emax := 999999 }

/-- The exponent below which no digit is kept. -/
def etiny (ctx : Context) : Int := 1 - ctx.precision - ctx.emax

end Context

namespace Number

/-- How many digits the coefficient has; one for zero. -/
def digitCount (x : Number) : Nat := Numeral.digitCount x.coefficient

/-- The exponent of the highest digit. -/
def adjusted (x : Number) : Int := x.exponent + x.digitCount - 1

/-- `± coefficient`, as an integer. -/
def signedCoefficient (x : Number) : Int :=
  if x.negative then -(x.coefficient : Int) else x.coefficient

/-- The number of a natural number. -/
def ofNat (n : Nat) : Number := { negative := false, coefficient := n, exponent := 0 }

/-- Rounds a coefficient by `drop` digits, half to even. A coefficient that is shorter than that is
less than half a unit. -/
def roundedBy (coefficient drop : Nat) : Nat :=
  if Numeral.digitCount coefficient < drop then 0 else roundQuotient coefficient (Nat.pow 10 drop)

/-- The exponent at which `x` is rounded: high enough for the precision, but never below the least
exponent. -/
def fitExponent (ctx : Context) (x : Number) : Int :=
  max x.exponent (max (x.adjusted - ctx.precision + 1) ctx.etiny)

/-- Rounds `x` into the context, half to even. A carry out of the highest digit raises the exponent;
a zero keeps its sign and takes the nearest exponent that there is. -/
def fit (ctx : Context) (x : Number) : Except Signal Number :=
  if x.coefficient = 0 then
    .ok { x with exponent := max ctx.etiny (min ctx.emax x.exponent) }
  else
    let exponent := x.fitExponent ctx
    let coefficient := roundedBy x.coefficient (exponent - x.exponent).toNat
    -- The power is looked at only for a digit too many, as a working precision can be very high.
    let carries := ctx.precision < Numeral.digitCount coefficient &&
      coefficient = Nat.pow 10 ctx.precision
    let y : Number :=
      if carries then
        { x with coefficient := Nat.pow 10 (ctx.precision - 1), exponent := exponent + 1 }
      else { x with coefficient, exponent }
    if ctx.emax < y.adjusted then .error .overflow else .ok y

end Number

/-- Whether a decimal is a zero of any sign and exponent. -/
def Decimal.isZero : Decimal → Bool
  | .finite x => x.coefficient == 0
  | _ => false

end Reckoner
