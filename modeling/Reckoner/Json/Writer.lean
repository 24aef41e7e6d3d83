import Reckoner.Binary64.Shortest
import Reckoner.Json.Value
import Reckoner.Text.Quoted

/-!
# Writing JSON

Values are written in ASCII: every other character of a text is escaped by its code units. Items
and fields stand on lines of their own, indented by their depth, or all on one line.
-/

namespace Reckoner.Json

/-- The escapes of a code point by its code units; one beyond the first 65536 has two. -/
def unitEscapes (n : Nat) : List Char :=
  if n < 0x10000 then '\\' :: 'u' :: Text.hexDigits 4 n
  else
    let offset := n - 0x10000
    '\\' :: 'u' :: Text.hexDigits 4 (0xD800 + offset / 0x400) ++
      '\\' :: 'u' :: Text.hexDigits 4 (0xDC00 + offset % 0x400)

/-- Writes a character of a text. -/
def writeChar (c : Char) : List Char :=
  if c = '"' then ['\\', '"']
  else if c = '\\' then ['\\', '\\']
  else if c = '\n' then ['\\', 'n']
  else if c = '\r' then ['\\', 'r']
  else if c = '\t' then ['\\', 't']
  else if c = '\x0c' then ['\\', 'f']
  else if c = '\x08' then ['\\', 'b']
  else if 0x20 ≤ c.toNat && c.toNat ≤ 0x7E then [c]
  else unitEscapes c.toNat

/-- Writes a code point of a text. A half of a surrogate pair is its own code unit. -/
def writeCodePoint : CodePoint → List Char
  | .char c => writeChar c
  | .half n => unitEscapes (0xD800 + n)

/-- Writes a text between quotes. -/
def writeText (text : CodePoints) : List Char := '"' :: (text.flatMap writeCodePoint ++ ['"'])

/-- The layout of binary64 numbers in JSON. -/
def floatLayout : Binary64.Layout :=
  { Binary64.plainLayout with infinity := "Infinity", nan := "NaN" }

mutual

/-- Writes a value. `gap d` stands before each item at depth `d` and before the mark that closes
what is open at depth `d`. -/
def Value.write (gap : Nat → List Char) (depth : Nat) : Value → List Char
  | .null => ['n', 'u', 'l', 'l']
  | .bool true => ['t', 'r', 'u', 'e']
  | .bool false => ['f', 'a', 'l', 's', 'e']
  | .int n => Numeral.signed n
  | .float x => floatLayout.text x
  | .text points => writeText points
  | .list [] => ['[', ']']
  | .list (item :: items) =>
    '[' :: gap (depth + 1) ++ item.write gap (depth + 1) ++ writeItems gap (depth + 1) items ++
      gap depth ++ [']']
  | .record [] => ['{', '}']
  | .record ((key, value) :: fields) =>
    '{' :: gap (depth + 1) ++ writeText key ++ ':' :: ' ' :: value.write gap (depth + 1) ++
      writeFields gap (depth + 1) fields ++ gap depth ++ ['}']

/-- Writes the items of a list behind the first one. -/
def writeItems (gap : Nat → List Char) (depth : Nat) : List Value → List Char
  | [] => []
  | item :: items => ',' :: gap depth ++ item.write gap depth ++ writeItems gap depth items

/-- Writes the fields of a record behind the first one. -/
def writeFields (gap : Nat → List Char) (depth : Nat) : List (CodePoints × Value) → List Char
  | [] => []
  | (key, value) :: fields =>
    ',' :: gap depth ++ writeText key ++ ':' :: ' ' :: value.write gap depth ++
      writeFields gap depth fields

end

/-- Each item on a line of its own, four blanks for each level. -/
def lineGap (depth : Nat) : List Char := '\n' :: List.replicate (4 * depth) ' '

/-- Writes a value with its items and fields on lines of their own. -/
def Value.pretty (value : Value) : List Char := value.write lineGap 0

/-- Writes a value on one line. -/
def Value.compact (value : Value) : List Char := value.write (fun _ => []) 0

end Reckoner.Json
