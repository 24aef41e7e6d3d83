import Reckoner.Binary64.Shortest
import Reckoner.Json.Value
import Reckoner.Text.Quoted

/-!
# Values in messages

How messages show a value: texts between quotes, truth values and null by their capitalised names,
lists in square brackets, records in braces.
-/

namespace Reckoner.Json

/-- Joins texts with a comma and a blank. -/
def commaSeparated : List (List Char) → List Char
  | [] => []
  | [cs] => cs
  | cs :: rest => cs ++ ',' :: ' ' :: commaSeparated rest

/-- A code point between quotes. A half of a surrogate pair does not print. -/
def quotedCodePoint (quote : Char) : CodePoint → List Char
  | .char c => Text.quotedChar quote c
  | .half n => Text.codePoint (0xD800 + n)

/-- A text between quotes. -/
def CodePoints.quoted (text : CodePoints) : List Char :=
  let quote := Text.quoteFor (text.filterMap CodePoint.char?)
  quote :: (text.flatMap (quotedCodePoint quote) ++ [quote])

mutual

/-- A value as messages show it. -/
def Value.inspect : Value → List Char
  | .null => "None".toList
  | .bool true => "True".toList
  | .bool false => "False".toList
  | .int n => Numeral.signed n
  | .float x => Binary64.plainLayout.text x
  | .text points => points.quoted
  | .list items => '[' :: commaSeparated (inspectItems items) ++ [']']
  | .record fields => '{' :: commaSeparated (inspectFields fields) ++ ['}']

/-- The items of a list, each as messages show it. -/
def inspectItems : List Value → List (List Char)
  | [] => []
  | item :: items => item.inspect :: inspectItems items

/-- The fields of a record, each as messages show it. -/
def inspectFields : List (CodePoints × Value) → List (List Char)
  | [] => []
  | (key, value) :: fields =>
    (key.quoted ++ ':' :: ' ' :: value.inspect) :: inspectFields fields

end

/-- A value where it is itself the text: a text stands without quotes. -/
def Value.plain : Value → CodePoints
  | .text points => points
  | value => .ofChars value.inspect

end Reckoner.Json
