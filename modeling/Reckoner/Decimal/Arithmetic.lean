import Reckoner.Decimal.Basic

/-!
# Decimal arithmetic

The four operations and the unary minus. Each gives the exact result, fitted into a context. A sum
has the lower exponent of its operands; a product the sum of theirs; a quotient their difference,
where it is exact and has digits enough. A number is also brought to a given exponent, rounding half
to even or filling up with zeros; that fails when the exponent or the result lies outside the
context.
-/

namespace Reckoner

namespace Number

/-- The coefficient of `x` at a lower exponent. -/
def coefficientAt (x : Number) (exponent : Int) : Int :=
  if x.coefficient = 0 then 0 else x.signedCoefficient * Nat.pow 10 (x.exponent - exponent).toNat

/-- The exact sum. A sum of zero is negative only when both operands are. -/
def exactSum (a b : Number) : Number :=
  let exponent := min a.exponent b.exponent
  let total := a.coefficientAt exponent + b.coefficientAt exponent
  { negative := if total = 0 then a.negative && b.negative else decide (total < 0)
    coefficient := total.natAbs
    exponent }

/-- The exponent below which an operand reaches no digit of a sum with `big` that is kept: it can
only tip a tie. -/
def guardExponent (ctx : Context) (big : Number) : Int :=
  big.exponent - 1 + min 0 ((big.digitCount : Int) - ctx.precision - 1)

/-- What stands for `small` in a sum with `big`, whose exponent is higher. Far below the last digit
kept, one unit stands for every number of the same sign, so that sums stay short. -/
def guarded (ctx : Context) (big small : Number) : Number :=
  if big.coefficient = 0 then small
  else if small.adjusted < big.guardExponent ctx then
    { small with
      coefficient := if small.coefficient = 0 then 0 else 1
      exponent := big.guardExponent ctx }
  else small

/-- The sum, fitted into a context. -/
def add (ctx : Context) (a b : Number) : Except Signal Number :=
  if a.exponent < b.exponent then (exactSum (guarded ctx b a) b).fit ctx
  else if b.exponent < a.exponent then (exactSum a (guarded ctx a b)).fit ctx
  else (exactSum a b).fit ctx

/-- The same number with the other sign. -/
def flipped (x : Number) : Number := { x with negative := !x.negative }

/-- The difference, fitted into a context. -/
def sub (ctx : Context) (a b : Number) : Except Signal Number := add ctx a b.flipped

/-- The exact product. -/
def exactProduct (a b : Number) : Number :=
  { negative := a.negative != b.negative
    coefficient := a.coefficient * b.coefficient
    exponent := a.exponent + b.exponent }

/-- The product, fitted into a context. -/
def mul (ctx : Context) (a b : Number) : Except Signal Number := (exactProduct a b).fit ctx

/-- Divides by ten while that is exact, at most `limit` times; also how often. -/
def dropZeros : Nat → Nat → Nat × Nat
  | 0, coefficient => (coefficient, 0)
  | limit + 1, coefficient =>
    if coefficient % 10 = 0 then
      let (rest, count) := dropZeros limit (coefficient / 10)
      (rest, count + 1)
    else (coefficient, 0)

/-- The quotient. It is computed to one digit more than the precision. Where digits are left over, a
last digit of zero or five is raised by one, so that the result is rounded as the exact quotient
is; where none are, zeros are dropped down to the difference of the exponents. -/
def div (ctx : Context) (a b : Number) : Except Signal Number :=
  let negative := a.negative != b.negative
  let ideal := a.exponent - b.exponent
  if b.coefficient = 0 then
    .error (if a.coefficient = 0 then .divisionUndefined else .divisionByZero)
  else if a.coefficient = 0 then fit ctx { negative, coefficient := 0, exponent := ideal }
  else
    let shift : Int := (b.digitCount : Int) - a.digitCount + ctx.precision + 1
    let dividend := a.coefficient * Nat.pow 10 shift.toNat
    let divisor := b.coefficient * Nat.pow 10 (-shift).toNat
    let quotient := dividend / divisor
    if dividend % divisor = 0 then
      let (coefficient, count) := dropZeros shift.toNat quotient
      fit ctx { negative, coefficient, exponent := ideal - shift + count }
    else
      let coefficient := if quotient % 5 = 0 then quotient + 1 else quotient
      fit ctx { negative, coefficient, exponent := ideal - shift }

/-- The unary minus. A zero comes out positive. -/
def neg (ctx : Context) (x : Number) : Except Signal Number :=
  fit ctx { x with negative := x.coefficient != 0 && !x.negative }

/-! ## Rounding to a place -/

/-- The power of ten `10 ^ power`, fitted into the context; the power may exceed its range only so
far. A power too low to have a digit leaves a zero. -/
def powerOfTen (ctx : Context) (power : Int) : Except Signal Number :=
  if 2 * (ctx.emax + ctx.precision) < power.natAbs then .error .invalidOperation
  else fit ctx { negative := false, coefficient := 1, exponent := power }

/-- The coefficient of `x` at another exponent, rounded half to even. -/
def roundedAt (x : Number) (exponent : Int) : Nat :=
  if exponent ≤ x.exponent then x.coefficient * Nat.pow 10 (x.exponent - exponent).toNat
  else roundedBy x.coefficient (exponent - x.exponent).toNat

/-- `x` at another exponent, if that and the result are within the bounds of the context. -/
def quantize (ctx : Context) (x : Number) (exponent : Int) : Except Signal Number :=
  if ctx.emax < exponent || exponent < ctx.etiny then .error .invalidOperation
  else if x.coefficient = 0 then .ok { x with exponent }
  else if ctx.precision < x.digitCount + (x.exponent - exponent) then .error .invalidOperation
  else
    let y : Number := { x with coefficient := x.roundedAt exponent, exponent }
    if ctx.precision < y.digitCount || ctx.emax < y.adjusted || y.adjusted < ctx.etiny then
      .error .invalidOperation
    else .ok y

end Number

namespace Decimal

/-- The result when an operand is not a number: the first signaling one signals, and otherwise the
first one goes on, with no more digits of payload than the precision. -/
def propagated? (ctx : Context) (a b : Decimal) : Option (Except Signal Decimal) :=
  let quiet (negative : Bool) (payload : Nat) : Except Signal Decimal :=
    .ok (.nan negative false (payload % Nat.pow 10 ctx.precision))
  match a, b with
  | .nan _ true _, _ | _, .nan _ true _ => some (.error .invalidOperation)
  | .nan negative false payload, _ => some (quiet negative payload)
  | _, .nan negative false payload => some (quiet negative payload)
  | _, _ => none

/-- The sum of decimals of which none is not a number. Infinities of different sign have no sum. -/
def plus (ctx : Context) : Decimal → Decimal → Except Signal Decimal
  | .finite a, .finite b => (Number.add ctx a b).map .finite
  | .infinity negative, .infinity other =>
    if negative = other then .ok (.infinity negative) else .error .invalidOperation
  | .infinity negative, _ => .ok (.infinity negative)
  | _, b => .ok b

/-- The same decimal with the other sign. -/
def flipped : Decimal → Decimal
  | .finite x => .finite x.flipped
  | .infinity negative => .infinity !negative
  | .nan negative signaling payload => .nan (!negative) signaling payload

/-- Whether a decimal has a minus sign. -/
def isNegative : Decimal → Bool
  | .finite x => x.negative
  | .infinity negative => negative
  | .nan negative _ _ => negative

/-- The sum. -/
def add (ctx : Context) (a b : Decimal) : Except Signal Decimal :=
  (propagated? ctx a b).getD (plus ctx a b)

/-- The difference. -/
def sub (ctx : Context) (a b : Decimal) : Except Signal Decimal :=
  (propagated? ctx a b).getD (plus ctx a b.flipped)

/-- The product. An infinity times zero is invalid. -/
def mul (ctx : Context) (a b : Decimal) : Except Signal Decimal :=
  (propagated? ctx a b).getD <|
    match a, b with
    | .finite x, .finite y => (Number.mul ctx x y).map .finite
    | _, _ =>
      if a.isZero || b.isZero then .error .invalidOperation
      else .ok (.infinity (a.isNegative != b.isNegative))

/-- The quotient. A number divided by an infinity is a zero of the least exponent. -/
def div (ctx : Context) (a b : Decimal) : Except Signal Decimal :=
  (propagated? ctx a b).getD <|
    let negative := a.isNegative != b.isNegative
    match a, b with
    | .finite x, .finite y => (Number.div ctx x y).map .finite
    | .infinity _, .infinity _ => .error .invalidOperation
    | .infinity _, _ => .ok (.infinity negative)
    | _, _ => .ok (.finite { negative, coefficient := 0, exponent := ctx.etiny })

end Decimal

end Reckoner
