import Reckoner.Binary64.Basic
import Reckoner.Json.Value
import Reckoner.Numeral
import Reckoner.Text.Digit

/-!
# Lexemes of JSON

A JSON text is cut into lexemes one character at a time: marks, texts, and runs of letters, digits
and signs that spell a word or a number. Where the text spells no lexeme the list of lexemes ends
with `bad`, so that a reader meets a fault only after all that stands before it.
-/

namespace Reckoner.Json

/-- The least parts of a JSON text that mean something. -/
inductive Lexeme where
  | openList
  | closeList
  | openRecord
  | closeRecord
  | comma
  | colon
  | null
  | bool (b : Bool)
  | int (negative : Bool) (digits : List Char)
  | float (x : Float)
  | text (points : CodePoints)
  /-- No lexeme is spelled here. -/
  | bad

/-- What the characters read last belong to. The characters of a run and the code points of a text
are kept last first. -/
inductive Lexer.Mode where
  | between
  | run (cs : List Char)
  | text (before : CodePoints)
  /-- Behind a backslash. -/
  | escape (before : CodePoints)
  /-- Behind the first `count` digits of a code unit, which make `value`. -/
  | hex (before : CodePoints) (count value : Nat)
  /-- Nothing is read after a fault. -/
  | stuck

/-- The state of cutting: the lexemes found, last first, and what is being read. -/
structure Lexer where
  found : List Lexeme := []
  mode : Lexer.Mode := .between

namespace Lexer

/-- The letters, digits, signs and points that words and numbers are spelled with. -/
def isRunChar (c : Char) : Bool :=
  ('a' ≤ c && c ≤ 'z') || ('A' ≤ c && c ≤ 'Z') || Text.isPlainDigit c || c == '-' || c == '+' ||
    c == '.'

/-- The digits at the start of a text, and the rest. -/
def splitDigits (cs : List Char) : List Char × List Char :=
  (cs.takeWhile Text.isPlainDigit, cs.dropWhile Text.isPlainDigit)

/-- The digits of a whole number, which start with zero only when there is no other digit, and the
rest. -/
def wholePart? : List Char → Option (List Char × List Char)
  | '0' :: rest => some (['0'], rest)
  | cs =>
    let (digits, rest) := splitDigits cs
    if digits.isEmpty then none else some (digits, rest)

/-- The digits after a point, if a point and a digit come next, and the rest. -/
def fractionPart (cs : List Char) : List Char × List Char :=
  match cs with
  | '.' :: rest =>
    let (digits, rest) := splitDigits rest
    if digits.isEmpty then ([], cs) else (digits, rest)
  | _ => ([], cs)

/-- The power of ten, if `e` and a number come next, and the rest. -/
def powerPart? (cs : List Char) : Option (Int × List Char) :=
  let value (digits : List Char) : Nat := Numeral.ofChars Text.digitValue? digits
  let power (sign : Int) (rest : List Char) : Option (Int × List Char) :=
    let (digits, rest) := splitDigits rest
    if digits.isEmpty then none else some (sign * (value digits : Int), rest)
  match cs with
  | e :: rest =>
    if e == 'e' || e == 'E' then
      match rest with
      | '-' :: rest => power (-1) rest
      | '+' :: rest => power 1 rest
      | _ => power 1 rest
    else none
  | [] => none

/-- The number at the start of a run, and the rest. It is whole unless a fraction or a power of ten
is written. -/
def number? (cs : List Char) : Option (Lexeme × List Char) :=
  let (negative, magnitude) :=
    match cs with
    | '-' :: rest => (true, rest)
    | _ => (false, cs)
  match wholePart? magnitude with
  | none => none
  | some (whole, rest) =>
    let (fraction, rest) := fractionPart rest
    match fraction, powerPart? rest with
    | [], none => some (.int negative whole, rest)
    | _, power? =>
      let (power, rest) := power?.getD (0, rest)
      let digits := whole ++ fraction
      let coefficient := Numeral.ofChars Text.digitValue? digits
      let exponent : Int := power - fraction.length
      let count := if coefficient = 0 then 1 else Numeral.digitCount coefficient
      some (.float (Binary64.ofDecimal negative coefficient count exponent), rest)

/-- The lexemes that a run spells: a word, or a number that should be all of it. -/
def runLexemes (cs : List Char) : List Lexeme :=
  match String.ofList cs with
  | "null" => [.null]
  | "true" => [.bool true]
  | "false" => [.bool false]
  | "NaN" => [.float (Binary64.ofFields false 2047 (Nat.pow 2 51))]
  | "Infinity" => [.float (Binary64.ofFields false 2047 0)]
  | "-Infinity" => [.float (Binary64.ofFields true 2047 0)]
  | _ =>
    match number? cs with
    | none => [.bad]
    | some (lexeme, []) => [lexeme]
    | some (lexeme, _) => [lexeme, .bad]

/-- The value of a hexadecimal digit. -/
def hexValue? (c : Char) : Option Nat :=
  if Text.isPlainDigit c then some (c.toNat - 48)
  else if 'a' ≤ c && c ≤ 'f' then some (c.toNat - 87)
  else if 'A' ≤ c && c ≤ 'F' then some (c.toNat - 55)
  else none

/-- The character that a one-letter escape stands for. -/
def shortEscape? : Char → Option Char
  | '"' => some '"'
  | '\\' => some '\\'
  | '/' => some '/'
  | 'b' => some '\x08'
  | 'f' => some '\x0c'
  | 'n' => some '\n'
  | 'r' => some '\r'
  | 't' => some '\t'
  | _ => none

/-- Adds half of a surrogate pair to a text, last first: a second half joins a first one that it
stands behind, and any other half stays a half. -/
def addHalf (before : CodePoints) (half : Fin 0x800) : CodePoints :=
  match before with
  | .half first :: rest =>
    if (first : Nat) < 0x400 ∧ 0x400 ≤ (half : Nat) then
      .char (Char.ofNat (0x10000 + first * 0x400 + (half - 0x400))) :: rest
    else .half half :: before
  | _ => .half half :: before

/-- Adds the code point whose code unit an escape gives. -/
def addUnit (before : CodePoints) (unit : Nat) : CodePoints :=
  if h : 0xD800 ≤ unit ∧ unit < 0xE000 then addHalf before ⟨unit - 0xD800, by omega⟩
  else .char (Char.ofNat unit) :: before

/-- Reads a character that stands outside texts and runs. -/
def mark (found : List Lexeme) (c : Char) : Lexer :=
  match c with
  | '[' => { found := .openList :: found }
  | ']' => { found := .closeList :: found }
  | '{' => { found := .openRecord :: found }
  | '}' => { found := .closeRecord :: found }
  | ',' => { found := .comma :: found }
  | ':' => { found := .colon :: found }
  | '"' => { found, mode := .text [] }
  | ' ' | '\t' | '\n' | '\r' => { found }
  | _ =>
    if isRunChar c then { found, mode := .run [c] }
    else { found := .bad :: found, mode := .stuck }

/-- Reads a character. -/
def step (lexer : Lexer) (c : Char) : Lexer :=
  match lexer.mode with
  | .stuck => lexer
  | .between => mark lexer.found c
  | .run cs =>
    if isRunChar c then { lexer with mode := .run (c :: cs) }
    else mark ((runLexemes cs.reverse).reverse ++ lexer.found) c
  | .text before =>
    if c = '"' then { found := .text before.reverse :: lexer.found }
    else if c = '\\' then { lexer with mode := .escape before }
    else if c.toNat < 0x20 then { found := .bad :: lexer.found, mode := .stuck }
    else { lexer with mode := .text (.char c :: before) }
  | .escape before =>
    if c = 'u' then { lexer with mode := .hex before 0 0 }
    else
      match shortEscape? c with
      | some meant => { lexer with mode := .text (.char meant :: before) }
      | none => { found := .bad :: lexer.found, mode := .stuck }
  | .hex before count value =>
    match hexValue? c with
    | none => { found := .bad :: lexer.found, mode := .stuck }
    | some digit =>
      let value := 16 * value + digit
      if count = 3 then { lexer with mode := .text (addUnit before value) }
      else { lexer with mode := .hex before (count + 1) value }

/-- The lexemes when the text is over; a text that was not closed is a fault. -/
def finish (lexer : Lexer) : List Lexeme :=
  match lexer.mode with
  | .between | .stuck => lexer.found.reverse
  | .run cs => lexer.found.reverse ++ runLexemes cs.reverse
  | _ => (.bad :: lexer.found).reverse

end Lexer

/-- The lexemes that a text spells. -/
def lexemes (cs : List Char) : List Lexeme := (cs.foldl Lexer.step {}).finish

end Reckoner.Json
