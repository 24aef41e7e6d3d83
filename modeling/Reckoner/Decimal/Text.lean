import Reckoner.Decimal.Basic
import Reckoner.Text.Digit

/-!
# Texts of decimals

A decimal is shown with all its digits, zeros at the end included, and with an exponent where the
point would stand far from them. A result is shown as its shortest positional numeral. Texts are
read in either form, with digits of any script.
-/

namespace Reckoner

namespace Number

/-- Puts the minus of a negative number in front. -/
def withSign (negative : Bool) (cs : List Char) : List Char := if negative then '-' :: cs else cs

/-- The digits with the point after `point` of them, and zeros where there are none. -/
def pointed (ds : List Char) (point : Int) : List Char :=
  if point ≤ 0 then '0' :: '.' :: (List.replicate (-point).toNat '0' ++ ds)
  else if ds.length ≤ point.toNat then ds ++ List.replicate (point.toNat - ds.length) '0'
  else ds.take point.toNat ++ '.' :: ds.drop point.toNat

/-- The scientific text. Positional while the exponent is not positive and at most five zeros follow
the point; otherwise one digit stands before the point and an exponent after the digits. -/
def scientific (x : Number) : List Char :=
  let ds := Numeral.digits x.coefficient
  let point := x.exponent + ds.length
  withSign x.negative <|
    if x.exponent ≤ 0 && -6 < point then pointed ds point
    else
      let power := point - 1
      let mark := if power < 0 then '-' else '+'
      pointed ds 1 ++ 'E' :: mark :: Numeral.digits power.natAbs

/-- Drops the zeros at the end of a fraction, and a point that nothing follows. -/
def trimFraction (fraction : List Char) : List Char :=
  match (fraction.reverse.dropWhile (· == '0')).reverse with
  | [] => []
  | ds => '.' :: ds

/-- The shortest positional numeral: no exponent, no zero that could be left out, and no sign on a
zero. -/
def canonical (x : Number) : List Char :=
  if x.coefficient = 0 then ['0']
  else if 0 ≤ x.exponent then
    withSign x.negative (Numeral.digits x.coefficient ++ List.replicate x.exponent.toNat '0')
  else
    let places := (-x.exponent).toNat
    withSign x.negative <|
      Numeral.digits (x.coefficient / Nat.pow 10 places) ++
        trimFraction (Numeral.padded places (x.coefficient % Nat.pow 10 places))

end Number

namespace Decimal

/-- The text of a decimal: scientific where it is finite, otherwise a word. -/
def text : Decimal → List Char
  | .finite x => x.scientific
  | .infinity negative => Number.withSign negative "Infinity".toList
  | .nan negative signaling payload =>
    Number.withSign negative <|
      (if signaling then "sNaN" else "NaN").toList ++
        if payload = 0 then [] else Numeral.digits payload

/-- The largest exponent of a highest digit that a decimal may have. -/
def largestExponent : Int := Nat.pow 10 18 - 1

/-- The least exponent that a decimal may have. -/
def leastExponent : Int := 3 - 2 * Nat.pow 10 18

/-- A character of a decimal's text in ASCII, letters in lower case; `none` if it has no meaning
there. -/
def plainChar? (c : Char) : Option Char :=
  if c.toNat < 0x80 then some c.toLower
  else (Text.digitValue? c).map Numeral.digitChar

/-- The plain form of a text: blanks around it and underscores are left out. -/
def plainText? (cs : List Char) : Option (List Char) :=
  ((Text.trim Text.isBlank cs).filter (· != '_')).mapM plainChar?

/-- The digits at the start of a text, and the rest. -/
def splitDigits (cs : List Char) : List Char × List Char :=
  (cs.takeWhile Text.isPlainDigit, cs.dropWhile Text.isPlainDigit)

/-- The number that digits of any script denote. -/
def digitsValue (ds : List Char) : Nat := Numeral.ofChars Text.digitValue? ds

/-- Whether a minus comes first, and the rest behind the sign. -/
def splitSign : List Char → Bool × List Char
  | '-' :: rest => (true, rest)
  | '+' :: rest => (false, rest)
  | cs => (false, cs)

/-- Reads the power of ten at the end, if one is written. -/
def power? : List Char → Option Int
  | [] => some 0
  | 'e' :: rest =>
    let (negative, rest) := splitSign rest
    let (ds, rest) := splitDigits rest
    if ds.isEmpty || !rest.isEmpty then none
    else some (if negative then -(digitsValue ds : Int) else digitsValue ds)
  | _ => none

/-- Reads an unsigned finite number: digits with at most one point, at least one digit, and maybe a
power of ten. -/
def magnitude? (cs : List Char) : Option Number :=
  let (whole, rest) := splitDigits cs
  let (fraction, rest) :=
    match rest with
    | '.' :: rest => splitDigits rest
    | _ => ([], rest)
  if whole.isEmpty && fraction.isEmpty then none
  else
    (power? rest).map fun power =>
      { negative := false
        coefficient := digitsValue (whole ++ fraction)
        exponent := power - fraction.length }

/-- Reads the payload of what is not a number. -/
def payload? (cs : List Char) : Option Nat :=
  if cs.all Text.isPlainDigit then some (digitsValue cs) else none

/-- The decimal that a text without its sign writes, if it writes one. -/
def ofPlain? (negative : Bool) (cs : List Char) : Option Decimal :=
  match cs with
  | 'i' :: 'n' :: 'f' :: rest =>
    if rest.isEmpty || rest = "inity".toList then some (.infinity negative) else none
  | 'n' :: 'a' :: 'n' :: rest => (payload? rest).map (.nan negative false)
  | 's' :: 'n' :: 'a' :: 'n' :: rest => (payload? rest).map (.nan negative true)
  | _ => (magnitude? cs).map fun x => .finite { x with negative }

/-- Reads a decimal exactly. An exponent out of every bound is an invalid operation. -/
def ofText (cs : List Char) : Except Signal Decimal :=
  let (negative, magnitude) := splitSign ((plainText? cs).getD [])
  match ofPlain? negative magnitude with
  | none => .error .conversionSyntax
  | some (.finite x) =>
    if largestExponent < x.adjusted || x.exponent < leastExponent then .error .invalidOperation
    else .ok (.finite x)
  | some d => .ok d

end Decimal

end Reckoner
