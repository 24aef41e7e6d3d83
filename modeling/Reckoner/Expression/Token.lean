import Reckoner.Decimal.Text
import Reckoner.Expression.Operator

/-!
# Tokens

The tokens of an expression are numbers and operators. A text is first cut into pieces: a run of
digits and points that is as long as it can be is one piece, and every other character is a piece
of its own.
-/

namespace Reckoner

/-- A token. A number is the exact value of its digits. -/
inductive Token where
  | number (x : Number)
  | operator (op : Operator)
deriving DecidableEq, Repr

/-- The text that messages show for a token. -/
def Token.text : Token → List Char
  | .number x => x.scientific
  | .operator op => [op.symbol]

/-- A part of a text that gives at most one token. -/
inductive Piece where
  /-- A longest run of digits and points. -/
  | run (cs : List Char)
  /-- A character that is neither. -/
  | mark (c : Char)
deriving DecidableEq, Repr

namespace Piece

/-- Whether a character may belong to a number. -/
def isNumeral (c : Char) : Bool := Text.isDigit c || c == '.'

/-- Puts a character in front of pieces. -/
def push (c : Char) (pieces : List Piece) : List Piece :=
  if isNumeral c then
    match pieces with
    | .run cs :: rest => .run (c :: cs) :: rest
    | _ => .run [c] :: pieces
  else .mark c :: pieces

/-- The characters of a piece. -/
def chars : Piece → List Char
  | .run cs => cs
  | .mark c => [c]

end Piece

/-- The pieces of a text, in order. -/
def pieces (cs : List Char) : List Piece := cs.foldr Piece.push []

/-- The number that a run of digits and at most one point writes: the digits without the point, and
as many places as digits follow it. -/
def Number.ofRun (cs : List Char) : Number :=
  { negative := false
    coefficient := Numeral.ofChars Text.digitValue? cs
    exponent := -((cs.dropWhile (· != '.')).drop 1).length }

end Reckoner
