import Reckoner.Numeral
import Reckoner.Settings.Basic

/-!
# Merging settings

A value that was read is merged into settings entry by entry. A record has its fields for entries;
a list or a text has items, each of which must itself have two items, a key and a value. A record
within a list stands for its names.
-/

namespace Reckoner.Settings

open Json (CodePoints Value)

/-- Why a value is not merged. -/
inductive MergeFault where
  /-- A value of this kind has no items. -/
  | noItems (kindName : String)
  /-- The item at `index` has no items itself. -/
  | noPair (index : Nat)
  /-- The item at `index` has another number of items than two. -/
  | pairLength (index length : Nat)
  /-- A value of this kind is no key. -/
  | noKey (kindName : String)
deriving DecidableEq, Repr

/-- What is said of a value that is not merged. -/
def MergeFault.message : MergeFault → String
  | .noItems kindName => "'" ++ kindName ++ "' object is not iterable"
  | .noPair index =>
    "cannot convert dictionary update sequence element #" ++
      String.ofList (Numeral.digits index) ++ " to a sequence"
  | .pairLength index length =>
    "dictionary update sequence element #" ++ String.ofList (Numeral.digits index) ++
      " has length " ++ String.ofList (Numeral.digits length) ++ "; 2 is required"
  | .noKey kindName => "unhashable type: '" ++ kindName ++ "'"

/-- The items of a value: the code points of a text, the items of a list, the names of a record. -/
def items? : Value → Option (List Value)
  | .text points => some (points.map fun point => .text [point])
  | .list items => some items
  | .record fields => some (fields.map fun field => .text field.1)
  | _ => none

/-- The entry that the item at `index` holds. -/
def entryOf (index : Nat) (item : Value) : Except MergeFault (Value × Value) :=
  match items? item with
  | none => .error (.noPair index)
  | some [key, value] =>
    if (identity? key).isSome then .ok (key, value) else .error (.noKey key.kindName)
  | some items => .error (.pairLength index items.length)

/-- Merges items in order, the first of them at `index`. -/
def mergeItems (settings : Settings) (index : Nat) : List Value → Except MergeFault Settings
  | [] => .ok settings
  | item :: items =>
    match entryOf index item with
    | .error fault => .error fault
    | .ok (key, value) => (settings.put key value).mergeItems (index + 1) items

/-- The value of what should be a key, zero where it has none. -/
def lookup (settings : Settings) (key : Value) : Except MergeFault Value :=
  if (identity? key).isSome then .ok (settings.get key) else .error (.noKey key.kindName)

/-- Merges the fields of a record in order. -/
def mergeFields (settings : Settings) (fields : List (CodePoints × Value)) : Settings :=
  fields.foldl (fun settings field => settings.put (.text field.1) field.2) settings

/-- Merges a value that was read. -/
def merge (settings : Settings) (value : Value) : Except MergeFault Settings :=
  match value with
  | .record fields => .ok (settings.mergeFields fields)
  | value =>
    match items? value with
    | some items => settings.mergeItems 0 items
    | none => .error (.noItems value.kindName)

end Reckoner.Settings
