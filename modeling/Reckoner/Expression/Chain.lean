import Reckoner.Expression.Error

/-!
# Chains

Without parentheses an expression is a chain: a number, then operators each with a number. Signs
before a number belong to it. Reading a chain decides which tokens are accepted, and an error names
the first token that fits nowhere.
-/

namespace Reckoner

/-- A number, and further numbers each with the operator before it. -/
structure Chain where
  first : Number
  links : List (Operator × Number)
deriving DecidableEq, Repr

/-- Applies the unary minus `count` times. -/
def Number.negated (ctx : Context) : Nat → Number → Except CalculationError Number
  | 0, x => .ok x
  | count + 1, x =>
    match x.neg ctx with
    | .error signal => .error (.arithmetic signal)
    | .ok y => y.negated ctx count

mutual

/-- Reads a number after `minuses` minus signs, and the links after it. -/
def Chain.ofOperand (ctx : Context) (minuses : Nat) : List Token → Except CalculationError Chain
  | [] => .error .missingNumber
  | .number x :: rest =>
    match x.negated ctx minuses with
    | .error e => .error e
    | .ok first =>
      match Chain.linksOf ctx rest with
      | .error e => .error e
      | .ok links => .ok { first, links }
  | .operator .add :: rest => Chain.ofOperand ctx minuses rest
  | .operator .sub :: rest => Chain.ofOperand ctx (minuses + 1) rest
  | .operator op :: _ => .error (.strayToken (.operator op))

/-- Reads links: an operator, and an operand with its links. -/
def Chain.linksOf (ctx : Context) :
    List Token → Except CalculationError (List (Operator × Number))
  | [] => .ok []
  | .number x :: _ => .error (.strayToken (.number x))
  | .operator op :: rest =>
    match Chain.ofOperand ctx 0 rest with
    | .error e => .error e
    | .ok chain => .ok ((op, chain.first) :: chain.links)

end

/-- The chain that tokens spell. -/
def Chain.ofTokens (ctx : Context) (tokens : List Token) : Except CalculationError Chain :=
  if tokens.isEmpty then .error .emptyExpression else Chain.ofOperand ctx 0 tokens

end Reckoner
