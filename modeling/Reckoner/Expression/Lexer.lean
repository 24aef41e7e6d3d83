import Reckoner.Expression.Error

/-!
# From text to tokens

Each piece of a text gives a token, or none for a blank. The first piece that gives neither is the
error.
-/

namespace Reckoner

/-- The token of a run: its number, unless it has two points or no digit. -/
def runToken (cs : List Char) : Except CalculationError Token :=
  if 2 ≤ cs.count '.' then .error .secondPoint
  else if cs = ['.'] then .error .lonePoint
  else .ok (.number (Number.ofRun cs))

/-- The token of a single character; a blank has none. -/
def markToken? (c : Char) : Except CalculationError (Option Token) :=
  match Operator.ofChar? c with
  | some op => .ok (some (.operator op))
  | none => if c = ' ' then .ok none else .error (.strayCharacter c)

/-- The token of a piece, if it has one. -/
def Piece.token? : Piece → Except CalculationError (Option Token)
  | .run cs => (runToken cs).map some
  | .mark c => markToken? c

/-- The tokens of pieces, up to the first error. -/
def tokensOf : List Piece → Except CalculationError (List Token)
  | [] => .ok []
  | piece :: rest =>
    match piece.token? with
    | .error e => .error e
    | .ok token? =>
      match tokensOf rest with
      | .error e => .error e
      | .ok tokens => .ok (token?.toList ++ tokens)

/-- The tokens of a text. -/
def tokens (cs : List Char) : Except CalculationError (List Token) := tokensOf (pieces cs)

end Reckoner
