import Reckoner.Binary64.Basic
import Reckoner.Text.Digit

/-!
# JSON values

Values as a settings file holds them. Whole numbers and binary64 numbers are kept apart, and a
record keeps its fields in the order in which their names first came. A text is made of code points,
since JSON can spell half of a surrogate pair without the other half, which is no character.
-/

namespace Reckoner.Json

/-- A code point of a text: a character, or half of a surrogate pair. The half `n` is the code point
`0xD800 + n`. A pair has one of the first 0x400 halves and then one of the others. -/
inductive CodePoint where
  | char (c : Char)
  | half (n : Fin 0x800)
deriving DecidableEq, Repr

/-- The character that a code point is, if it is one. -/
def CodePoint.char? : CodePoint → Option Char
  | .char c => some c
  | .half _ => none

/-- A text as JSON spells it. -/
abbrev CodePoints := List CodePoint

namespace CodePoints

/-- The text of these characters. -/
def ofChars (cs : List Char) : CodePoints := cs.map .char

/-- The text of the characters of a string. -/
def ofString (s : String) : CodePoints := ofChars s.toList

instance : Coe String CodePoints := ⟨ofString⟩

/-- The characters of a text, if it is made of characters alone. -/
def chars? : CodePoints → Option (List Char)
  | [] => some []
  | .char c :: rest => (chars? rest).map (c :: ·)
  | .half _ :: _ => none

/-- The string of a text, if it is made of characters alone. -/
def string? (text : CodePoints) : Option String := text.chars?.map String.ofList

@[simp] theorem chars?_ofChars (cs : List Char) : chars? (ofChars cs) = some cs := by
  induction cs with
  | nil => rfl
  | cons c cs ih =>
    show (chars? (ofChars cs)).map (c :: ·) = _
    rw [ih, Option.map_some]

@[simp] theorem chars?_ofString (s : String) : chars? (ofString s) = some s.toList :=
  chars?_ofChars s.toList

@[simp] theorem string?_ofString (s : String) : string? (ofString s) = some s := by
  simp [string?]

end CodePoints

/-- A value that JSON can spell. -/
inductive Value where
  | null
  | bool (b : Bool)
  | int (n : Int)
  | float (x : Float)
  | text (points : CodePoints)
  | list (items : List Value)
  | record (fields : List (CodePoints × Value))
deriving Inhabited

/-- Gives the field `key` a value: in its old place if there is one, else at the end. -/
def putField (fields : List (CodePoints × Value)) (key : CodePoints) (value : Value) :
    List (CodePoints × Value) :=
  match fields with
  | [] => [(key, value)]
  | (name, old) :: rest =>
    if name = key then (name, value) :: rest else (name, old) :: putField rest key value

/-- The value of the field `key` of a record. -/
def Value.field? (key : CodePoints) : Value → Option Value
  | .record fields => (fields.find? (·.1 = key)).map Prod.snd
  | _ => none

/-- Whether a value counts as set: not null, not false, not zero and not empty. -/
def Value.isSet : Value → Bool
  | .null => false
  | .bool b => b
  | .int n => n != 0
  | .float x => !(x == 0)
  | .text points => !points.isEmpty
  | .list items => !items.isEmpty
  | .record fields => !fields.isEmpty

/-- The name of a value's kind, as messages give it. -/
def Value.kindName : Value → String
  | .null => "NoneType"
  | .bool _ => "bool"
  | .int _ => "int"
  | .float _ => "float"
  | .text _ => "str"
  | .list _ => "list"
  | .record _ => "dict"

/-- Whether a value can be made a whole number; `none` for an infinity. -/
def Value.isWhole? : Value → Option Bool
  | .bool _ | .int _ => some true
  | .float x =>
    match Binary64.datum x with
    | .finite .. => some true
    | .infinity _ => none
    | .nan => some false
  | .text points => some (points.chars?.any Text.isWhole)
  | _ => some false

end Reckoner.Json
