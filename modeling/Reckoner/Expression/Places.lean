import Reckoner.Json.Value

/-!
# Decimal places

How many decimal places a result keeps. A setting may hold anything, and what is no whole number is
refused only when a result is there to be rounded.
-/

namespace Reckoner

/-- A number of decimal places as it was set. -/
inductive Places where
  /-- A whole number; a negative one keeps no places. -/
  | whole (n : Int)
  /-- A number that need not be whole. -/
  | fraction (x : Float)
  /-- A value that is no number, by the name of its kind. -/
  | other (kindName : String)

/-- Why a number of places cannot be kept. -/
inductive PlacesFault where
  | notANumber (kindName : String)
  | notWhole
  /-- It is not a whole number, and so large that the working precision is not one either. -/
  | precisionNotWhole
  /-- The working precision is beyond its range. -/
  | precisionRange
  /-- The working precision is beyond a machine word. -/
  | precisionWord
  /-- The digits have no room. -/
  | outOfMemory
deriving DecidableEq, Repr

/-- What is said of a number of places that cannot be kept. -/
def PlacesFault.message : PlacesFault → String
  | .notANumber kindName =>
    "'>' not supported between instances of 'int' and '" ++ kindName ++ "'"
  | .notWhole => "conversion from float to Decimal is not supported"
  | .precisionNotWhole => "an integer is required"
  | .precisionRange => "valid range for prec is [1, MAX_PREC]"
  | .precisionWord => "Python int too large to convert to C ssize_t"
  | .outOfMemory => ""

namespace Places

/-- Ten places, unless another number is set. -/
def standard : Places := .whole 10

/-- The number of places that a setting holds. Truth values count as one and zero. -/
def ofValue : Json.Value → Places
  | .int n => .whole n
  | .bool b => .whole (if b then 1 else 0)
  | .float x => .fraction x
  | value => .other value.kindName

end Places

end Reckoner
