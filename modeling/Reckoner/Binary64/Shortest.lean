import Reckoner.Binary64.Basic
import Reckoner.Numeral

/-!
# The shortest numeral of a binary64 number

A number is written with the fewest digits that read back as that number and, among those, the
digits nearest to it. A decimal reads back exactly when it lies between the midpoints to the two
neighbours; the midpoints themselves count when the significand is even. On each decimal grid only
the two points around the number have to be tried.
-/

namespace Reckoner.Binary64

/-- The numbers that round to one binary64 number, as quotients over `scale`: the number itself and
the midpoints to its neighbours. -/
structure Neighbourhood where
  low : Nat
  value : Nat
  high : Nat
  scale : Nat
  /-- Whether the midpoints round to the number. -/
  closed : Bool

/-- The neighbourhood of `significand * 2 ^ exponent`. Below a power of two the numbers lie twice as
close, so the lower midpoint is then nearer. -/
def Neighbourhood.of (significand : Nat) (exponent : Int) : Neighbourhood :=
  let quarters := exponent - 2
  let unit := Nat.pow 2 quarters.toNat
  let below := if significand = Nat.pow 2 52 && decide (-1074 < exponent) then 1 else 2
  { low := (4 * significand - below) * unit
    value := 4 * significand * unit
    high := (4 * significand + 2) * unit
    scale := Nat.pow 2 (-quarters).toNat
    closed := significand % 2 == 0 }

/-- Whether `point / scale` rounds to the number. -/
def Neighbourhood.holds (near : Neighbourhood) (point : Nat) : Bool :=
  if near.closed then near.low ≤ point && point ≤ near.high
  else near.low < point && point < near.high

/-- The same neighbourhood in units of `10 ^ power`. -/
def Neighbourhood.inUnits (near : Neighbourhood) (power : Int) : Neighbourhood :=
  let factor := Nat.pow 10 (-power).toNat
  { near with
    low := near.low * factor
    value := near.value * factor
    high := near.high * factor
    scale := near.scale * Nat.pow 10 power.toNat }

/-- The multiple of `10 ^ power` that reads back as the number: the nearer one if two do, on a tie
the even one. -/
def Neighbourhood.onGrid? (near : Neighbourhood) (power : Int) : Option Nat :=
  let near := near.inUnits power
  let below := near.value / near.scale
  let rest := near.value % near.scale
  match near.holds (below * near.scale), near.holds ((below + 1) * near.scale) with
  | true, true =>
    if 2 * rest < near.scale then some below
    else if near.scale < 2 * rest then some (below + 1)
    else some (below + below % 2)
  | true, false => some below
  | false, true => some (below + 1)
  | false, false => none

/-- The least `k` with `value / scale < 10 ^ k`; no number is below `10 ^ (-400)`. -/
def Neighbourhood.magnitude (near : Neighbourhood) : Int :=
  Numeral.digitCount (near.value * Nat.pow 10 400 / near.scale) - 400

/-- The digits and the power of ten of the shortest numeral. Seventeen digits always suffice. -/
def shortest (significand : Nat) (exponent : Int) : Nat × Int :=
  let near := Neighbourhood.of significand exponent
  let top := near.magnitude
  let grids : List Int := (List.range 17).map fun n => top - (n + 1 : Nat)
  let found? := grids.findSome? fun power => (near.onGrid? power).map fun digits => (digits, power)
  found?.getD (significand, exponent)

/-- How a number is laid out: which places of the decimal point are written out, and how many digits
an exponent has at least. -/
structure Layout where
  /-- The point may stand this far to the left of the first digit. -/
  leftmost : Int
  /-- The point may stand this far to the right of the first digit. -/
  rightmost : Int
  exponentWidth : Nat
  infinity : String
  nan : String

/-- Positional from `0.0001` up to sixteen digits, with a digit after the point; beyond that with a
signed exponent of two digits or more. -/
def plainLayout : Layout :=
  { leftmost := -3, rightmost := 16, exponentWidth := 2, infinity := "inf", nan := "nan" }

/-- Drops the zeros at the end. -/
def stripZeros (cs : List Char) : List Char := (cs.reverse.dropWhile (· == '0')).reverse

/-- The digits `ds` with the decimal point `point` places to the right of their start. -/
def Layout.place (layout : Layout) (ds : List Char) (point : Int) : List Char :=
  if layout.leftmost ≤ point && point ≤ layout.rightmost then
    if point ≤ 0 then '0' :: '.' :: (List.replicate (-point).toNat '0' ++ ds)
    else if ds.length ≤ point.toNat then
      ds ++ List.replicate (point.toNat - ds.length) '0' ++ ['.', '0']
    else ds.take point.toNat ++ '.' :: ds.drop point.toNat
  else
    let exponent := point - 1
    let mark := if exponent < 0 then '-' else '+'
    let power := Numeral.digits exponent.natAbs
    let fraction := if 1 < ds.length then '.' :: ds.drop 1 else []
    ds.take 1 ++ fraction ++ 'e' :: mark ::
      (List.replicate (layout.exponentWidth - power.length) '0' ++ power)

/-- The text of a binary64 number in a layout. -/
def Layout.text (layout : Layout) (x : Float) : List Char :=
  let signed (negative : Bool) (cs : List Char) := if negative then '-' :: cs else cs
  match datum x with
  | .nan => layout.nan.toList
  | .infinity negative => signed negative layout.infinity.toList
  | .finite negative 0 _ => signed negative ['0', '.', '0']
  | .finite negative significand exponent =>
    let (digits, power) := shortest significand exponent
    let written := Numeral.digits digits
    signed negative (layout.place (stripZeros written) (written.length + power))

end Reckoner.Binary64
