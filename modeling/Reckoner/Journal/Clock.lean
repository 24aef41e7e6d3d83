import Reckoner.Binary64.Basic
import Reckoner.Json.Value
import Reckoner.Numeral

/-!
# The clock

The time that a line of the log tells: seconds since the beginning of 1970 and the milliseconds next
to them, which are written as they are. A time has a time of day only in the years that can be told.
-/

namespace Reckoner.Journal

open Json (Value)

/-- A point in time. A part that is no number is none. -/
structure Clock where
  seconds : Option Int := some 0
  millis : Option Int := some 0
deriving DecidableEq, Repr

/-- The whole number that a value counts as, by a division that rounds. -/
def wholeNumber? (divide : Int → Int → Int) : Value → Option Int
  | .int n => some n
  | .bool b => some (if b then 1 else 0)
  | .float x => Binary64.rounded? divide x
  | _ => none

/-- A number with zeros before it, to fill `width` places. -/
def filled (width : Nat) (n : Int) : List Char :=
  if n < 0 then '-' :: (Numeral.digits n.natAbs).leftpad (width - 1) '0'
  else (Numeral.digits n.natAbs).leftpad width '0'

namespace Clock

/-- The time that two values tell. Parts of a second are left out of the seconds that have begun,
and parts of a millisecond are cut off. -/
def ofValues (seconds millis : Value) : Clock :=
  { seconds := wholeNumber? Int.fdiv seconds, millis := wholeNumber? Int.tdiv millis }

/-- The first second that can be told, where the year -2147481748 begins. -/
def first : Int := -67768040609740800

/-- The last second that can be told, where the year 2147483647 ends. -/
def last : Int := 67767976233532799

/-- The time of day: hours, minutes and seconds. -/
def timeOfDay? (clock : Clock) : Option (List Char) :=
  match clock.seconds with
  | none => none
  | some seconds =>
    if first ≤ seconds ∧ seconds ≤ last then
      let second := seconds.emod 86400
      some (filled 2 (second / 3600) ++ ':' :: filled 2 (second / 60 % 60) ++
        ':' :: filled 2 (second % 60))
    else none

/-- The milliseconds in three places. -/
def thousandths? (clock : Clock) : Option (List Char) := clock.millis.map (filled 3)

end Clock

end Reckoner.Journal
