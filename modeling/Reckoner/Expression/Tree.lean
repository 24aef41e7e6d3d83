import Reckoner.Expression.Chain
import Reckoner.Expression.Lexer
import Reckoner.Text.Quoted

/-!
# Expression trees

A chain is arranged into a tree by precedence, operators of one rank from left to right. A tree is
evaluated from its leaves, the left operand before the right one.

A tree may be of any depth. A limit on recursion, at which a program gives up on a chain of some
hundreds of operators, is left out.
-/

namespace Reckoner

/-- An expression tree. A tree made by hand may hold an operator that does not exist. -/
inductive Tree where
  | number (d : Decimal)
  | node (op : Operator) (left right : Tree)
  | foreign (name : String) (left right : Tree)
deriving DecidableEq, Repr

namespace Tree

/-- A node with an operator given by name. -/
def ofName (name : String) (left right : Tree) : Tree :=
  match Operator.ofText? name.toList with
  | some op => .node op left right
  | none => .foreign name left right

/-- The tree of a number. -/
def leaf (x : Number) : Tree := .number (.finite x)

/-- Adds `term` to the terms before it. -/
def close (before? : Option (Tree × Operator)) (term : Tree) : Tree :=
  match before? with
  | none => term
  | some (before, op) => .node op before term

/-- Arranges links after `term`, which has not been joined yet to the terms before it. -/
def arrange (before? : Option (Tree × Operator)) (term : Tree) : List (Operator × Number) → Tree
  | [] => close before? term
  | (op, x) :: links =>
    if op.isProduct then arrange before? (.node op term (leaf x)) links
    else arrange (some (close before? term, op)) (leaf x) links

/-- The tree of a chain, by the precedence of its operators. -/
def ofChain (chain : Chain) : Tree := arrange none (leaf chain.first) chain.links

/-- The tree that tokens spell. -/
def ofTokens (ctx : Context) (tokens : List Token) : Except CalculationError Tree :=
  (Chain.ofTokens ctx tokens).map ofChain

/-- The text that messages show for a tree. -/
def shown : Tree → List Char
  | .number d => "Number(".toList ++ d.text ++ [')']
  | .node op left right =>
    "BinOp(".toList ++ Text.quoted [op.symbol] ++ ", left=".toList ++ left.shown ++
      ", right=".toList ++ right.shown ++ [')']
  | .foreign name left right =>
    "BinOp(".toList ++ Text.quoted name.toList ++ ", left=".toList ++ left.shown ++
      ", right=".toList ++ right.shown ++ [')']

end Tree

/-- Applies an operator. A divisor that signals does so before it is compared with zero. -/
def Operator.apply (ctx : Context) (op : Operator) (a b : Decimal) :
    Except CalculationError Decimal :=
  let result (r : Except Signal Decimal) : Except CalculationError Decimal :=
    r.mapError .arithmetic
  match op with
  | .add => result (a.add ctx b)
  | .sub => result (a.sub ctx b)
  | .mul => result (a.mul ctx b)
  | .div =>
    match b with
    | .nan _ true _ => .error (.arithmetic .invalidOperation)
    | _ => if b.isZero then .error .divisionByZero else result (a.div ctx b)

/-- The value of a tree. Both operands are evaluated before the operator is looked at. -/
def Tree.evaluate (ctx : Context) : Tree → Except CalculationError Decimal
  | .number d => .ok d
  | .node op left right =>
    match left.evaluate ctx with
    | .error e => .error e
    | .ok a =>
      match right.evaluate ctx with
      | .error e => .error e
      | .ok b => op.apply ctx a b
  | .foreign name left right =>
    match left.evaluate ctx with
    | .error e => .error e
    | .ok _ =>
      match right.evaluate ctx with
      | .error e => .error e
      | .ok _ => .error (.unknownOperator name)

/-- The tree that a text spells. -/
def parse (ctx : Context) (cs : List Char) : Except CalculationError Tree :=
  match tokens cs with
  | .error e => .error e
  | .ok tokens => Tree.ofTokens ctx tokens

end Reckoner
