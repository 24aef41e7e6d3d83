import Mathlib.Tactic
import Reckoner.Proofs.Expression.Evaluation

/-!
# Evaluating while reading

An expression can be evaluated without its tree, in one pass over its tokens from left to right. The
pass keeps a running sum and a pending term: signs are folded into the number behind them, products
go into the term, and a sum takes the term in before the next one begins. On every expression this
gives what the tree gives, errors included.
-/

namespace Reckoner

open Spelling SignedNumber

variable {ctx : Context}

/-- Joins a value to the one before it by the operator between them; the first value has none. -/
def joined (ctx : Context) : Option (Decimal × Operator) → Decimal → Except CalculationError Decimal
  | none, value => .ok value
  | some (before, op), value => op.apply ctx before value

/-- What the pass keeps between two tokens: the running sum with the sign after it, and the pending
term. Both are empty at first. -/
inductive Pass where
  /-- A number comes next, with `minuses` minuses before it; the pending term has the operator that
  joins it. -/
  | operand (sum term : Option (Decimal × Operator)) (minuses : ℕ)
  /-- An operator comes next, or nothing. -/
  | operator (sum : Option (Decimal × Operator)) (term : Decimal)

namespace Pass

/-- The pass before the first token. -/
def start : Pass := .operand none none 0

/-- Takes one token. A number goes into the term with its signs, and a sign behind a number puts the
term into the sum. -/
def step (ctx : Context) : Pass → Token → Except CalculationError Pass
  | .operand sum term minuses, .number x =>
    (x.negated ctx minuses).bind fun factor =>
      (joined ctx term (.finite factor)).map (.operator sum)
  | .operand sum term minuses, .operator .add => .ok (.operand sum term minuses)
  | .operand sum term minuses, .operator .sub => .ok (.operand sum term (minuses + 1))
  | .operator sum term, .operator op =>
    if op.isProduct then .ok (.operand sum (some (term, op)) 0)
    else (joined ctx sum term).map fun sum => .operand (some (sum, op)) none 0
  | _, token => .error (.strayToken token)

/-- Puts the last term into the sum. -/
def finish (ctx : Context) : Pass → Except CalculationError Decimal
  | .operator sum term => joined ctx sum term
  | .operand .. => .error .missingNumber

/-- Takes all tokens, and finishes. -/
def run (ctx : Context) (pass : Pass) : List Token → Except CalculationError Decimal
  | [] => pass.finish ctx
  | token :: tokens => (pass.step ctx token).bind fun pass => pass.run ctx tokens

end Pass

/-- The value of tokens, found in one pass. -/
def evaluateTokens (ctx : Context) (tokens : List Token) : Except CalculationError Decimal :=
  Pass.start.run ctx tokens

namespace Pass

/-- Signs are folded into their number, and the number goes into the term. -/
theorem run_signedNumber (sum term : Option (Decimal × Operator)) (rest : List Token) {minuses : ℕ}
    {n : SignedNumber} {x : Number} (denotes : n.number.negated ctx (minuses + n.minuses) = .ok x) :
    (Pass.operand sum term minuses).run ctx (n.tokens ++ rest) =
      (joined ctx term (.finite x)).bind fun value => (Pass.operator sum value).run ctx rest := by
  obtain ⟨signs, number⟩ := n
  induction signs generalizing minuses with
  | nil =>
      change number.negated ctx minuses = .ok x at denotes
      show ((number.negated ctx minuses).bind _).bind _ = _
      rw [denotes]
      show ((joined ctx term (.finite x)).map _).bind _ = _
      cases joined ctx term (.finite x) <;> rfl
  | cons minus signs ih =>
      rw [minuses_cons, ← Nat.add_assoc] at denotes
      rw [← ih denotes]
      cases minus <;> rfl

/-- The registers with the pending term as the pass has them. -/
def ofRegisters (r : Registers) : Pass :=
  .operator (r.sum.map fun before => (.finite before.1, before.2)) (.finite r.term)

theorem finish_ofRegisters (r : Registers) :
    (ofRegisters r).finish ctx = (r.close ctx).map .finite := by
  obtain ⟨sum?, x, sign⟩ := r
  cases sum? with
  | none => rfl
  | some before => exact apply_finite before.2 before.1 x

/-- Behind a number, the pass over the tokens of links is the pass over the links. -/
theorem run_linkTokens {spelled : List (Operator × SignedNumber)}
    {links : List (Operator × Number)} (denote : LinksDenote ctx spelled links) (r : Registers) :
    (ofRegisters r).run ctx (linkTokens spelled) = (r.run ctx links).map .finite := by
  induction denote generalizing r with
  | nil => exact finish_ofRegisters r
  | @cons s link spelled links head tail ih =>
      obtain ⟨op, n⟩ := s
      obtain ⟨op', x⟩ := link
      obtain ⟨rfl, denotes⟩ := head
      have number : n.number.negated ctx (0 + n.minuses) = .ok x := by
        rw [Nat.zero_add]
        exact denotes
      show ((ofRegisters r).step ctx (.operator op)).bind
        (fun pass => pass.run ctx (n.tokens ++ linkTokens spelled)) = _
      rw [Registers.run, Registers.step]
      simp only [ofRegisters, Pass.step]
      by_cases product : op.isProduct = true
      · rw [if_pos product, dif_pos product]
        show (Pass.operand _ (some (.finite r.term, op)) 0).run ctx _ = _
        rw [run_signedNumber _ _ _ number]
        show (op.apply ctx (.finite r.term) (.finite x)).bind _ = _
        rw [apply_finite]
        cases op.onNumbers ctx r.term x with
        | error e => rfl
        | ok term => exact ih { r with term }
      · rw [if_neg product, dif_neg product]
        have closed : joined ctx (r.sum.map fun before => (.finite before.1, before.2))
            (.finite r.term) = (r.close ctx).map .finite := finish_ofRegisters r
        rw [closed]
        cases r.close ctx with
        | error e => rfl
        | ok sum =>
            show (Pass.operand (some (.finite sum, op)) none 0).run ctx _ = _
            rw [run_signedNumber _ _ _ number]
            exact ih ⟨some (sum, op), x, by simpa using product⟩

end Pass

/-- The tree of an expression has the value, or the error, that one pass over its tokens gives. -/
theorem evaluate_eq_evaluateTokens {cs : List Char} {ts : List Token} {tree : Tree}
    (read : tokens cs = .ok ts) (parsed : parse ctx cs = .ok tree) :
    tree.evaluate ctx = evaluateTokens ctx ts := by
  obtain ⟨s, chain, spelled, ⟨first, links⟩, rfl⟩ := exists_spelling_of_parse parsed
  rw [read] at spelled
  injection spelled with same
  have number : s.first.number.negated ctx (0 + s.first.minuses) = .ok chain.first := by
    rw [Nat.zero_add]
    exact first
  rw [same, evaluate_ofChain, evaluateTokens, Spelling.tokens, Pass.start,
    Pass.run_signedNumber none none _ number]
  exact (Pass.run_linkTokens links (.start chain.first)).symm

theorem evaluate_eq_evaluateTokens_mixed :
    tokens "1-2/3*-4".toList = .ok [.number ⟨false, 1, 0⟩, .operator .sub, .number ⟨false, 2, 0⟩,
      .operator .div, .number ⟨false, 3, 0⟩, .operator .mul, .operator .sub,
      .number ⟨false, 4, 0⟩] ∧
    ∃ tree, parse .standard "1-2/3*-4".toList = .ok tree ∧
      tree.evaluate .standard = evaluateTokens .standard [.number ⟨false, 1, 0⟩, .operator .sub,
        .number ⟨false, 2, 0⟩, .operator .div, .number ⟨false, 3, 0⟩, .operator .mul,
        .operator .sub, .number ⟨false, 4, 0⟩] := by
  have read : tokens "1-2/3*-4".toList = .ok [.number ⟨false, 1, 0⟩, .operator .sub,
      .number ⟨false, 2, 0⟩, .operator .div, .number ⟨false, 3, 0⟩, .operator .mul,
      .operator .sub, .number ⟨false, 4, 0⟩] := by
    decide +kernel
  have parsed : parse .standard "1-2/3*-4".toList = .ok (.node .sub (.leaf ⟨false, 1, 0⟩)
      (.node .mul (.node .div (.leaf ⟨false, 2, 0⟩) (.leaf ⟨false, 3, 0⟩))
        (.leaf ⟨true, 4, 0⟩))) := by
    decide +kernel
  exact ⟨read, _, parsed, evaluate_eq_evaluateTokens read parsed⟩

end Reckoner
