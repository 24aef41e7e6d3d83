import Reckoner.Numeral

/-!
# Binary64 numbers, exactly

A finite binary64 number is an integer times a power of two. Here it is taken apart into those, and
a quotient of natural numbers is rounded to the nearest one, a tie going to the even significand.
-/

namespace Reckoner.Binary64

/-- The content of a binary64 number: a signed `significand * 2 ^ exponent`, or a special value. -/
inductive Datum where
  | finite (negative : Bool) (significand : Nat) (exponent : Int)
  | infinity (negative : Bool)
  | nan
deriving DecidableEq, Repr

/-- Takes a number apart. A stored exponent of zero marks the subnormals, the largest one the
special values; every other significand has its highest bit left out in store. -/
def datum (x : Float) : Datum :=
  let bits : Nat := x.toBits.toNat
  let negative := decide (Nat.pow 2 63 ≤ bits)
  let field : Nat := bits / Nat.pow 2 52 % Nat.pow 2 11
  let fraction : Nat := bits % Nat.pow 2 52
  if field = 2047 then (if fraction = 0 then .infinity negative else .nan)
  else if field = 0 then .finite negative fraction (-1074)
  else .finite negative (Nat.pow 2 52 + fraction) ((field : Int) - 1075)

/-- The number with the given sign, stored exponent and stored fraction. -/
def ofFields (negative : Bool) (field fraction : Nat) : Float :=
  let sign := if negative then Nat.pow 2 63 else 0
  Float.ofBits (UInt64.ofNat (sign + field * Nat.pow 2 52 + fraction))

/-- `n / d * 2 ^ (-exponent)` as a pair of natural numbers to divide. -/
def scaled (n d : Nat) (exponent : Int) : Nat × Nat :=
  if 0 ≤ exponent then (n, d * Nat.pow 2 exponent.toNat)
  else (n * Nat.pow 2 (-exponent).toNat, d)

/-- The binary64 number nearest to `± n / d`, for `d` positive; beyond the largest it is infinite.
The exponent is that of the highest bit less 52, but never below the one of the subnormals. -/
def nearest (negative : Bool) (n d : Nat) : Float :=
  if n = 0 then ofFields negative 0 0
  else
    let guess : Int := n.log2 - d.log2
    let top := if (scaled n d guess).1 < (scaled n d guess).2 then guess - 1 else guess
    let exponent := max (top - 52) (-1074)
    let (a, b) := scaled n d exponent
    let significand := roundQuotient a b
    let (significand, exponent) :=
      if significand = Nat.pow 2 53 then (Nat.pow 2 52, exponent + 1)
      else (significand, exponent)
    if significand < Nat.pow 2 52 then ofFields negative 0 significand
    else
      let field := (exponent + 1075).toNat
      if 2047 ≤ field then ofFields negative 2047 0
      else ofFields negative field (significand - Nat.pow 2 52)

/-- The number nearest to `± coefficient * 10 ^ exponent`. Far outside the range of binary64 the
answer is read off the magnitude alone. -/
def ofDecimal (negative : Bool) (coefficient digitCount : Nat) (exponent : Int) : Float :=
  if coefficient = 0 || exponent + digitCount < -400 then ofFields negative 0 0
  else if 400 < exponent + digitCount then ofFields negative 2047 0
  else if 0 ≤ exponent then nearest negative (coefficient * Nat.pow 10 exponent.toNat) 1
  else nearest negative coefficient (Nat.pow 10 (-exponent).toNat)

/-- The integer that a number equals, if it is whole. -/
def integer? (x : Float) : Option Int :=
  match datum x with
  | .finite negative significand exponent =>
    let magnitude? : Option Nat :=
      if 0 ≤ exponent then some (significand * Nat.pow 2 exponent.toNat)
      else if significand % Nat.pow 2 (-exponent).toNat = 0 then
        some (significand / Nat.pow 2 (-exponent).toNat)
      else none
    magnitude?.map fun magnitude => if negative then -(magnitude : Int) else magnitude
  | _ => none

/-- A finite number as an integer, by a division that rounds. -/
def rounded? (divide : Int → Int → Int) (x : Float) : Option Int :=
  match datum x with
  | .finite negative significand exponent =>
    let (n, d) := scaled significand 1 (-exponent)
    some (divide (if negative then -(n : Int) else n) d)
  | _ => none

end Reckoner.Binary64
