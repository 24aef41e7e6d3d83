import Reckoner.Binary64.Basic
import Reckoner.Json.Value

/-!
# Settings

Settings are entries in the order in which their keys first came. A key is text as a rule, but any
value that is neither a list nor a record may be one; numbers and truth values that are equal are
the same key. The settings that the program knows come first, with a standard value each. Giving a
key a value leaves the values of all other keys.
-/

namespace Reckoner

open Json (CodePoints Value)

/-- Entries of keys and their values, in order. -/
structure Settings where
  entries : List (Value × Value)

namespace Settings

/-- What of a key tells it from other keys. -/
inductive KeyIdentity where
  | null
  | text (points : CodePoints)
  /-- A whole number or a truth value. -/
  | whole (n : Int)
  /-- Any other number, by its bits. -/
  | number (bits : UInt64)
deriving DecidableEq, Repr

/-- What tells a key from other keys. Lists and records are no keys. -/
def identity? : Value → Option KeyIdentity
  | .null => some .null
  | .bool b => some (.whole (if b then 1 else 0))
  | .int n => some (.whole n)
  | .float x =>
    match Binary64.integer? x with
    | some n => some (.whole n)
    | none => some (.number x.toBits)
  | .text points => some (.text points)
  | .list _ | .record _ => none

/-- Gives a key a value: in its old place if there is one, else at the end. -/
def putEntry (entries : List (Value × Value)) (key value : Value) : List (Value × Value) :=
  match entries with
  | [] => [(key, value)]
  | (name, old) :: rest =>
    if identity? name = identity? key then (name, value) :: rest
    else (name, old) :: putEntry rest key value

/-- Gives a key a value. -/
def put (settings : Settings) (key value : Value) : Settings :=
  ⟨putEntry settings.entries key value⟩

/-- The value of a key, if it has one. -/
def get? (settings : Settings) (key : Value) : Option Value :=
  (settings.entries.find? fun entry => identity? entry.1 = identity? key).map Prod.snd

/-- The value of a key, zero where it has none. -/
def get (settings : Settings) (key : Value) : Value := (settings.get? key).getD (.int 0)

theorem find?_putEntry (entries : List (Value × Value)) (key value other : Value) :
    ((putEntry entries key value).find? fun entry => identity? entry.1 = identity? other).map
        Prod.snd =
      if identity? key = identity? other then some value
      else (entries.find? fun entry => identity? entry.1 = identity? other).map Prod.snd := by
  induction entries with
  | nil => by_cases h : identity? key = identity? other <;> simp [putEntry, h]
  | cons entry rest ih =>
    obtain ⟨name, old⟩ := entry
    by_cases hname : identity? name = identity? key <;>
      by_cases hother : identity? key = identity? other <;> grind [putEntry]

/-- Only the key that was given a value has another one. -/
theorem get?_put (settings : Settings) (key value other : Value) :
    (settings.put key value).get? other =
      if identity? key = identity? other then some value else settings.get? other :=
  find?_putEntry settings.entries key value other

/-- Settings from entries, where the last value of a key counts. -/
def ofEntries (entries : List (Value × Value)) : Settings :=
  entries.foldl (fun settings entry => settings.put entry.1 entry.2) ⟨[]⟩

/-- How many places results keep. -/
def placesKey : Value := .text "decimal_places"

/-- After how many milliseconds an error is cleared. -/
def errorDelayKey : Value := .text "error_reset_delay_ms"

/-- After how many milliseconds the error of an unsafe first expression is cleared. -/
def unsafeDelayKey : Value := .text "unsafe_input_reset_delay_ms"

/-- Whether the window is dark. -/
def darkKey : Value := .text "darkmode"

/-- Whether the log is for debugging. -/
def debugKey : Value := .text "debug"

/-- The settings that hold where nothing else is set. -/
def standard : Settings :=
  ⟨[(placesKey, .int 10), (errorDelayKey, .int 2000), (unsafeDelayKey, .int 3000),
    (darkKey, .bool false), (debugKey, .bool false)]⟩

end Settings

end Reckoner
