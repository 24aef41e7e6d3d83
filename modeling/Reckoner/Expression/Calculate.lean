import Reckoner.Decimal.Arithmetic
import Reckoner.Expression.Tree
import Reckoner.Text.Digit

/-!
# Calculating

A text is checked for literal zero divisors, parsed and evaluated; the value is rounded half to even
to a number of decimal places and written as its shortest positional numeral.

A text divides by a literal zero where a slash, and maybe blanks, come before ASCII zeros with at
most one point after the first of them, and neither a digit nor a point follows.
-/

namespace Reckoner

/-! ## Literal zero divisors -/

/-- Whether no digit and no point comes next. -/
def endsNumber : List Char → Bool
  | [] => true
  | c :: _ => !(Text.isDigit c || c == '.')

/-- Drops the zeros at the start. -/
def skipZeros (cs : List Char) : List Char := cs.dropWhile (· == '0')

/-- Whether a complete literal zero comes first. -/
def startsWithZero : List Char → Bool
  | '0' :: rest =>
    match skipZeros rest with
    | '.' :: rest => endsNumber (skipZeros rest)
    | rest => endsNumber rest
  | _ => false

/-- Whether a text divides by a literal zero. -/
def dividesByLiteralZero : List Char → Bool
  | [] => false
  | c :: rest =>
    (c == '/' && startsWithZero (rest.dropWhile Text.isBlank)) || dividesByLiteralZero rest

/-! ## Rounding -/

namespace Number

/-- The least working precision for rounding. -/
def roundingPrecision : Int := 128

/-- The most digits that a working precision may have. -/
def precisionLimit : Int := Nat.pow 10 18 - 1

/-- The most places for which the digits of a number are written out. -/
def placesLimit : Int := Nat.pow 10 11

/-- Rounds to `places` places, or to a whole number where that is negative, with the given working
precision. -/
def roundWith (ctx : Context) (precision : Nat) (places : Int) (x : Number) :
    Except CalculationError (List Char) :=
  let ctx := { ctx with precision }
  let unit := if places < 0 then .ok (ofNat 1) else powerOfTen ctx (-places)
  match unit with
  | .error signal => .error (.arithmetic signal)
  | .ok unit =>
    if x.coefficient ≠ 0 && placesLimit < places then .error (.places .outOfMemory)
    else
      match x.quantize ctx unit.exponent with
      | .error signal => .error (.arithmetic signal)
      | .ok y => .ok y.canonical

/-- The working precision that leaves room for every digit of `x` and for `places` places. -/
def precisionFor (x : Number) (places : Int) : Int :=
  max roundingPrecision (x.adjusted + max places 0 + 2)

/-- Rounds to a whole number of places. -/
def roundTo (ctx : Context) (places : Int) (x : Number) : Except CalculationError (List Char) :=
  let precision := x.precisionFor places
  if Nat.pow 2 63 ≤ precision then .error (.places .precisionWord)
  else if precisionLimit < precision then .error (.places .precisionRange)
  else x.roundWith ctx precision.toNat places

/-- Rounds to a number of places that is not whole: a negative one counts as negative, and every
other one is refused. What cannot be compared counts as negative too, but asks for no precision. -/
def roundToFraction (ctx : Context) (places : Float) (x : Number) :
    Except CalculationError (List Char) :=
  if places < 0 then x.roundTo ctx (-1)
  else if Float.ofInt x.adjusted + places + 2 > 128 then .error (.places .precisionNotWhole)
  else if places ≥ 0 then .error (.places .notWhole)
  else x.roundWith ctx roundingPrecision.toNat (-1)

end Number

/-! ## Results -/

/-- The text of a value, rounded to a number of places. -/
def Decimal.rounded (ctx : Context) (places : Places) :
    Decimal → Except CalculationError (List Char)
  | .finite x =>
    match places with
    | .whole n => x.roundTo ctx n
    | .fraction n => x.roundToFraction ctx n
    | .other kindName => .error (.places (.notANumber kindName))
  | _ => .error .notFinite

/-- The value of a text, before it is rounded and without the check for literal zero divisors. -/
def evaluate (ctx : Context) (cs : List Char) : Except CalculationError Decimal :=
  match parse ctx cs with
  | .error e => .error e
  | .ok tree => tree.evaluate ctx

/-- The result of an expression. -/
def calculate (ctx : Context) (places : Places) (cs : List Char) :
    Except CalculationError (List Char) :=
  if dividesByLiteralZero cs then .error .zeroDivisor
  else
    match evaluate ctx cs with
    | .error e => .error e
    | .ok value => value.rounded ctx places

/-- The result of an expression, or what is reported where it has none. -/
def calculation (ctx : Context) (places : Places) (cs : List Char) : Except Report (List Char) :=
  (calculate ctx places cs).mapError (·.report (some cs))

end Reckoner
