import Mathlib.Tactic
import Reckoner.Proofs.Expression.Reading

/-!
# Recursive descent

Expressions can also be read by one reader for each rank of operators, each of which takes tokens
from the front and leaves the rest: a sum is made of terms, a term of operands, and an operand of
signs and a number. A minus before a number is applied to it. A minus before anything else would
have to become a node of its own, but there is nothing else: whatever is done about it, descending
gives the same trees and the same errors as arranging a chain.
-/

namespace Reckoner

namespace Descent

/-- What a reader makes of tokens: a tree, and the tokens that it leaves. -/
abbrev Read := Except CalculationError (Tree × List Token)

/-- Reads a number. -/
def factor : List Token → Read
  | [] => .error .missingNumber
  | .number x :: rest => .ok (.leaf x, rest)
  | token :: _ => .error (.strayToken token)

-- What is done about a minus before an operand that is not a number is left open as `other`.
variable (ctx : Context) (other : Tree → Except CalculationError Tree)

/-- Applies a minus to an operand. -/
def minus : Tree → Except CalculationError Tree
  | .number (.finite x) => (x.negated ctx 1).map Tree.leaf
  | operand => other operand

/-- Reads a number with the signs before it. -/
def unary : List Token → Read
  | .operator .add :: rest => unary rest
  | .operator .sub :: rest =>
    (unary rest).bind fun read => (minus ctx other read.1).map fun operand => (operand, read.2)
  | tokens => factor tokens

variable {ctx other}

theorem minus_leaf (x : Number) :
    minus ctx other (.leaf x) = (x.negated ctx 1).map Tree.leaf := rfl

theorem unary_sub (rest : List Token) :
    unary ctx other (.operator .sub :: rest) = (unary ctx other rest).bind fun read =>
      (minus ctx other read.1).map fun operand => (operand, read.2) := rfl

/-- An operand is a number with its signs applied. A chain of the same tokens begins with this
number, once the minuses before it are applied too, and has its links in the tokens that are
left. -/
theorem unary_cases (ctx : Context) (other : Tree → Except CalculationError Tree)
    (tokens : List Token) :
    (∃ e, unary ctx other tokens = .error e ∧
      ∀ minuses, Chain.ofOperand ctx minuses tokens = .error e) ∨
    ∃ x rest, unary ctx other tokens = .ok (.leaf x, rest) ∧ rest.length < tokens.length ∧
      ∀ minuses, Chain.ofOperand ctx minuses tokens =
        (x.negated ctx minuses).bind fun first =>
          (Chain.linksOf ctx rest).map fun links => { first, links } := by
  induction tokens with
  | nil => exact .inl ⟨_, rfl, fun _ => rfl⟩
  | cons token rest ih =>
      cases token with
      | number x =>
          have chain (minuses : ℕ) := @ofOperand_number ctx minuses x rest
          exact .inr ⟨x, rest, rfl, Nat.lt_succ_self _, chain⟩
      | operator op =>
          cases op with
          | add =>
              rcases ih with ⟨e, failed, chain⟩ | ⟨x, left, read, shorter, chain⟩
              · exact .inl ⟨e, failed, chain⟩
              · exact .inr ⟨x, left, read, Nat.lt_succ_of_lt shorter, chain⟩
          | sub =>
              rcases ih with ⟨e, failed, chain⟩ | ⟨x, left, read, shorter, chain⟩
              · refine .inl ⟨e, ?_, fun minuses => chain (minuses + 1)⟩
                rw [unary_sub, failed]
                rfl
              · rw [unary_sub, read]
                -- Of all minuses that are still to be applied, this one comes first.
                have counted (minuses : ℕ) := negated_succ_eq_bind ctx minuses x
                cases negated : x.negated ctx 1 with
                | error e =>
                    refine .inl ⟨e, ?_, fun minuses => (chain (minuses + 1)).trans ?_⟩
                    · show (minus ctx other (.leaf x)).map _ = _
                      rw [minus_leaf, negated]
                      rfl
                    · rw [counted, negated]
                      rfl
                | ok y =>
                    refine .inr ⟨y, left, ?_, Nat.lt_succ_of_lt shorter,
                      fun minuses => (chain (minuses + 1)).trans ?_⟩
                    · show (minus ctx other (.leaf x)).map _ = _
                      rw [minus_leaf, negated]
                      rfl
                    · rw [counted, negated]
                      rfl
          | mul => exact .inl ⟨_, rfl, fun _ => rfl⟩
          | div => exact .inl ⟨_, rfl, fun _ => rfl⟩

variable {tokens rest : List Token} {tree operand : Tree}

/-- An operand is a number. -/
theorem exists_leaf_of_unary (read : unary ctx other tokens = .ok (operand, rest)) :
    ∃ x, operand = .leaf x := by
  rcases unary_cases ctx other tokens with ⟨e, failed, -⟩ | ⟨x, left, leaf, -, -⟩
  · rw [failed] at read
    cases read
  · rw [leaf] at read
    cases read
    exact ⟨x, rfl⟩

theorem length_lt_of_unary (read : unary ctx other tokens = .ok (operand, rest)) :
    rest.length < tokens.length := by
  rcases unary_cases ctx other tokens with ⟨e, failed, -⟩ | ⟨x, left, leaf, shorter, -⟩
  · rw [failed] at read
    cases read
  · rw [leaf] at read
    cases read
    exact shorter

/-! ## The readers of terms and of sums -/

variable (ctx other) in
/-- Goes on with a term. -/
def factors (tree : Tree) : List Token → Read
  | .operator op :: rest =>
    if op.isProduct then
      match _ : unary ctx other rest with
      | .error e => .error e
      | .ok (operand, left) => factors (.node op tree operand) left
    else .ok (tree, .operator op :: rest)
  | tokens => .ok (tree, tokens)
termination_by tokens => tokens.length
decreasing_by
  rename_i read
  exact Nat.lt_succ_of_lt (length_lt_of_unary read)

variable (ctx other) in
/-- Reads factors with multiplications and divisions between them. -/
def term (tokens : List Token) : Read :=
  (unary ctx other tokens).bind fun read => factors ctx other read.1 read.2

theorem factors_nil : factors ctx other tree [] = .ok (tree, []) := by
  simp [factors]

theorem factors_number {x : Number} :
    factors ctx other tree (.number x :: rest) = .ok (tree, .number x :: rest) := by
  simp [factors]

theorem factors_product {op : Operator} (product : op.isProduct = true) :
    factors ctx other tree (.operator op :: rest) =
      (unary ctx other rest).bind fun read => factors ctx other (.node op tree read.1) read.2 := by
  rw [factors, if_pos product]
  split
  · rename_i failed
    rw [failed]
    rfl
  · rename_i read
    rw [read]
    rfl

theorem factors_sum {op : Operator} (sum : ¬op.isProduct = true) :
    factors ctx other tree (.operator op :: rest) = .ok (tree, .operator op :: rest) := by
  rw [factors, if_neg sum]

theorem length_le_of_factors (read : factors ctx other tree tokens = .ok (operand, rest)) :
    rest.length ≤ tokens.length := by
  fun_induction factors ctx other tree tokens with
  | case1 => cases read
  | case2 tree op tokens product right left begun ih =>
      have shorter := length_lt_of_unary begun
      exact Nat.le_succ_of_le ((ih read).trans shorter.le)
  | case3 =>
      cases read
      exact le_rfl
  | case4 =>
      cases read
      exact le_rfl

theorem length_lt_of_term (read : term ctx other tokens = .ok (operand, rest)) :
    rest.length < tokens.length := by
  obtain ⟨first, begun, others⟩ := Results.bind_eq_ok_iff.mp read
  exact (length_le_of_factors others).trans_lt (length_lt_of_unary begun)

variable (ctx other) in
/-- Goes on with a sum. -/
def terms (tree : Tree) : List Token → Read
  | .operator op :: rest =>
    if op.isProduct then .ok (tree, .operator op :: rest)
    else
      match _ : term ctx other rest with
      | .error e => .error e
      | .ok (right, left) => terms (.node op tree right) left
  | tokens => .ok (tree, tokens)
termination_by tokens => tokens.length
decreasing_by
  rename_i read
  exact Nat.lt_succ_of_lt (length_lt_of_term read)

variable (ctx other) in
/-- Reads terms with additions and subtractions between them. -/
def sum (tokens : List Token) : Read :=
  (term ctx other tokens).bind fun read => terms ctx other read.1 read.2

theorem terms_nil : terms ctx other tree [] = .ok (tree, []) := by
  simp [terms]

theorem terms_number {x : Number} :
    terms ctx other tree (.number x :: rest) = .ok (tree, .number x :: rest) := by
  simp [terms]

theorem terms_sum {op : Operator} (sum : ¬op.isProduct = true) :
    terms ctx other tree (.operator op :: rest) =
      (term ctx other rest).bind fun read => terms ctx other (.node op tree read.1) read.2 := by
  rw [terms, if_neg sum]
  split
  · rename_i failed
    rw [failed]
    rfl
  · rename_i read
    rw [read]
    rfl

/-! ## Descending and arranging a chain -/

/-- The tree that was read, if no token is left. -/
def whole (read : Tree × List Token) : Except CalculationError Tree :=
  match read.2 with
  | [] => .ok read.1
  | token :: _ => .error (.strayToken token)

variable (ctx other) in
/-- Reads all tokens as one expression. -/
def descend (tokens : List Token) : Except CalculationError Tree :=
  if tokens.isEmpty then .error .emptyExpression else (sum ctx other tokens).bind whole

mutual

/-- Going on with a term and then with the sum arranges the links of the chain that follow. -/
theorem terms_factors (before? : Option (Tree × Operator)) (tree : Tree) (tokens : List Token) :
    ((factors ctx other tree tokens).bind fun read =>
        terms ctx other (.close before? read.1) read.2).bind whole =
      (Chain.linksOf ctx tokens).map (Tree.arrange before? tree) := by
  match tokens with
  | [] =>
      rw [factors_nil]
      show (terms ctx other _ []).bind _ = _
      rw [terms_nil]
      rfl
  | .number x :: rest =>
      rw [factors_number]
      show (terms ctx other _ (.number x :: rest)).bind _ = _
      rw [terms_number]
      rfl
  | .operator op :: rest =>
      rw [linksOf_operator]
      by_cases product : op.isProduct = true
      · rw [factors_product product]
        rcases unary_cases ctx other rest with
          ⟨e, failed, chain⟩ | ⟨x, left, read, shorter, chain⟩
        · rw [failed, chain]
          rfl
        · rw [read, chain]
          refine (terms_factors before? (.node op tree (.leaf x)) left).trans ?_
          show _ = (((Chain.linksOf ctx left).map _).map _).map _
          cases Chain.linksOf ctx left with
          | error e => rfl
          | ok links =>
              show _ = Except.ok (Tree.arrange before? tree ((op, x) :: links))
              rw [Tree.arrange, if_pos product]
              rfl
      · rw [factors_sum product]
        show (terms ctx other _ (.operator op :: rest)).bind _ = _
        rw [terms_sum product]
        refine (terms_term (some (.close before? tree, op)) rest).trans ?_
        cases Chain.ofOperand ctx 0 rest with
        | error e => rfl
        | ok chain =>
            show _ = Except.ok (Tree.arrange before? tree ((op, chain.first) :: chain.links))
            rw [Tree.arrange, if_neg product]
            rfl
termination_by tokens.length

/-- A term and the sum that goes on with it are the chain of the tokens. -/
theorem terms_term (before? : Option (Tree × Operator)) (tokens : List Token) :
    ((term ctx other tokens).bind fun read =>
        terms ctx other (.close before? read.1) read.2).bind whole =
      (Chain.ofOperand ctx 0 tokens).map fun chain =>
        Tree.arrange before? (.leaf chain.first) chain.links := by
  rw [term]
  rcases unary_cases ctx other tokens with
    ⟨e, failed, chain⟩ | ⟨x, left, read, shorter, chain⟩
  · rw [failed, chain]
    rfl
  · rw [read, chain]
    refine (terms_factors before? (.leaf x) left).trans ?_
    show _ = ((Chain.linksOf ctx left).map _).map _
    cases Chain.linksOf ctx left <;> rfl
termination_by tokens.length

end

/-- Descending reads as arranging a chain does, whatever is done about a minus before anything but a
number. -/
theorem descend_eq_ofTokens (ctx : Context) (other : Tree → Except CalculationError Tree)
    (tokens : List Token) : descend ctx other tokens = Tree.ofTokens ctx tokens := by
  rw [descend, Tree.ofTokens, Chain.ofTokens]
  split
  · rfl
  · exact terms_term none tokens

end Descent

end Reckoner
