import Mathlib.Tactic
import Reckoner.Expression.Calculate
import Reckoner.Proofs.Expression.Reading

/-!
# Evaluating in one pass

The tree of a chain need not be built: its value is that of a pass over the links that keeps a
running sum and a pending term. Every operation either refuses a zero divisor or fits its result, so
the pass fails by a zero divisor among the links or by overflow, and what comes out of it is a
number that was fitted, or the first one of a chain that has no links.
-/

namespace Reckoner

variable {ctx : Context}

/-! ## One operation -/

/-- Applies an operator to numbers. -/
def Operator.onNumbers (ctx : Context) (op : Operator) (a b : Number) :
    Except CalculationError Number :=
  match op with
  | .add => (a.add ctx b).mapError .arithmetic
  | .sub => (a.sub ctx b).mapError .arithmetic
  | .mul => (a.mul ctx b).mapError .arithmetic
  | .div =>
    if b.coefficient = 0 then .error .divisionByZero else (a.div ctx b).mapError .arithmetic

theorem apply_finite (op : Operator) (a b : Number) :
    op.apply ctx (.finite a) (.finite b) = (op.onNumbers ctx a b).map .finite := by
  cases op with
  | add =>
      show ((a.add ctx b).map Decimal.finite).mapError _ = _
      unfold Operator.onNumbers
      cases a.add ctx b <;> rfl
  | sub =>
      show ((a.add ctx b.flipped).map Decimal.finite).mapError _ = _
      unfold Operator.onNumbers Number.sub
      cases a.add ctx b.flipped <;> rfl
  | mul =>
      show ((a.mul ctx b).map Decimal.finite).mapError _ = _
      unfold Operator.onNumbers
      cases a.mul ctx b <;> rfl
  | div =>
      show (if (b.coefficient == 0) = true then _ else
        ((a.div ctx b).map Decimal.finite).mapError CalculationError.arithmetic) = _
      unfold Operator.onNumbers
      by_cases zero : b.coefficient = 0
      · simp [zero, Except.map]
      · simp only [zero, beq_iff_eq, if_false]
        cases a.div ctx b <;> rfl

theorem exists_fit_add (ctx : Context) (a b : Number) : ∃ x, a.add ctx b = Number.fit ctx x := by
  unfold Number.add
  split_ifs <;> exact ⟨_, rfl⟩

theorem exists_fit_div (ctx : Context) (a : Number) {b : Number} (nonzero : b.coefficient ≠ 0) :
    ∃ x, a.div ctx b = Number.fit ctx x := by
  unfold Number.div
  simp only [nonzero, if_false]
  split_ifs <;> exact ⟨_, rfl⟩

/-- An operation refuses a zero divisor, and otherwise fits some result. -/
theorem onNumbers_cases (ctx : Context) (op : Operator) (a b : Number) :
    op = .div ∧ b.coefficient = 0 ∧ op.onNumbers ctx a b = .error .divisionByZero ∨
    ¬(op = .div ∧ b.coefficient = 0) ∧
      ∃ x, op.onNumbers ctx a b = (Number.fit ctx x).mapError .arithmetic := by
  cases op with
  | add =>
      obtain ⟨x, sum⟩ := exists_fit_add ctx a b
      exact .inr ⟨by simp, x, by rw [← sum]; rfl⟩
  | sub =>
      obtain ⟨x, sum⟩ := exists_fit_add ctx a b.flipped
      exact .inr ⟨by simp, x, by rw [← sum]; rfl⟩
  | mul => exact .inr ⟨by simp, a.exactProduct b, rfl⟩
  | div =>
      by_cases zero : b.coefficient = 0
      · exact .inl ⟨rfl, zero, if_pos zero⟩
      · obtain ⟨x, quotient⟩ := exists_fit_div ctx a zero
        exact .inr ⟨by simp [zero], x, by rw [← quotient]; exact if_neg zero⟩

theorem onNumbers_ok {op : Operator} {a b y : Number} (result : op.onNumbers ctx a b = .ok y) :
    ¬(op = .div ∧ b.coefficient = 0) ∧ y.IsFitted ctx := by
  rcases onNumbers_cases ctx op a b with ⟨-, -, refused⟩ | ⟨divisor, x, fitted⟩
  · rw [refused] at result
    cases result
  · rw [fitted] at result
    exact ⟨divisor, x, Results.mapError_eq_ok_iff.mp result⟩

theorem onNumbers_error {op : Operator} {a b : Number} {e : CalculationError}
    (result : op.onNumbers ctx a b = .error e) :
    e = .divisionByZero ∧ op = .div ∧ b.coefficient = 0 ∨ e = .arithmetic .overflow := by
  rcases onNumbers_cases ctx op a b with ⟨quotient, zero, refused⟩ | ⟨-, x, fitted⟩
  · rw [refused] at result
    injection result with same
    exact .inl ⟨same.symm, quotient, zero⟩
  · rw [fitted] at result
    obtain ⟨signal, failed, rfl⟩ := Results.mapError_eq_error_iff.mp result
    exact .inr (congrArg _ (Number.signal_of_fit failed))

/-! ## The pass -/

/-- What the pass keeps: the sum of the terms before, with the sign after it, and the term that is
not closed yet. -/
structure Registers where
  sum : Option (Number × Operator)
  term : Number
  sign : ∀ before ∈ sum, before.2.isProduct = false

namespace Registers

/-- The registers before the first link. -/
def start (x : Number) : Registers := ⟨none, x, by simp⟩

/-- Adds the term to the sum, or subtracts it. -/
def close (ctx : Context) (r : Registers) : Except CalculationError Number :=
  match r.sum with
  | none => .ok r.term
  | some (sum, op) => op.onNumbers ctx sum r.term

/-- Takes one link: a factor goes into the term, and a sign closes it. -/
def step (ctx : Context) (r : Registers) (link : Operator × Number) :
    Except CalculationError Registers :=
  if sign : link.1.isProduct = true then
    (link.1.onNumbers ctx r.term link.2).map fun term => { r with term }
  else (r.close ctx).map fun sum => ⟨some (sum, link.1), link.2, by simpa using sign⟩

/-- Takes all links and closes the last term. -/
def run (ctx : Context) (r : Registers) : List (Operator × Number) → Except CalculationError Number
  | [] => r.close ctx
  | link :: links => (r.step ctx link).bind fun r => r.run ctx links

end Registers

/-- Whether a link divides by a zero. -/
def DividesByZero (link : Operator × Number) : Prop := link.1 = .div ∧ link.2.coefficient = 0

/-! ## The tree is the pass -/

/-- Whether terms that are arranged before a place have the sum that is kept. -/
def Closed (ctx : Context) : Option (Tree × Operator) → Option (Number × Operator) → Prop
  | none, none => True
  | some (tree, op), some (sum, op') => tree.evaluate ctx = .ok (.finite sum) ∧ op = op'
  | _, _ => False

theorem evaluate_node {op : Operator} {left right : Tree} {a b : Number}
    (first : left.evaluate ctx = .ok (.finite a)) (second : right.evaluate ctx = .ok (.finite b)) :
    (Tree.node op left right).evaluate ctx = (op.onNumbers ctx a b).map .finite := by
  rw [Tree.evaluate, first, second, ← apply_finite]

theorem evaluate_node_left {op : Operator} {left right : Tree} {e : CalculationError}
    (failed : left.evaluate ctx = .error e) :
    (Tree.node op left right).evaluate ctx = .error e := by
  rw [Tree.evaluate, failed]

theorem evaluate_close {before? : Option (Tree × Operator)} {term : Tree} {r : Registers}
    (closed : Closed ctx before? r.sum) (value : term.evaluate ctx = .ok (.finite r.term)) :
    (Tree.close before? term).evaluate ctx = (r.close ctx).map .finite := by
  obtain ⟨sum?, x, sign⟩ := r
  match before?, sum? with
  | none, none => exact value
  | some (tree, op), some (sum, op') =>
      obtain ⟨same, rfl⟩ := closed
      exact evaluate_node same value
  | none, some _ => exact closed.elim
  | some _, none => exact closed.elim

/-- An error in the terms before is the error of the whole. -/
theorem evaluate_arrange_before {before : Tree} {e : CalculationError}
    (failed : before.evaluate ctx = .error e) (op : Operator) (term : Tree)
    (links : List (Operator × Number)) :
    (Tree.arrange (some (before, op)) term links).evaluate ctx = .error e := by
  induction links generalizing before op term with
  | nil => exact evaluate_node_left failed
  | cons link links ih =>
      rw [Tree.arrange]
      split
      · exact ih failed op _
      · exact ih (evaluate_node_left failed) link.1 _

/-- An error in the term is the error of the whole if the terms before have a sum. -/
theorem evaluate_arrange_term {before? : Option (Tree × Operator)}
    {sum? : Option (Number × Operator)} (closed : Closed ctx before? sum?) {term : Tree}
    {e : CalculationError} (failed : term.evaluate ctx = .error e)
    (links : List (Operator × Number)) :
    (Tree.arrange before? term links).evaluate ctx = .error e := by
  have close (term : Tree) (failed : term.evaluate ctx = .error e) :
      (Tree.close before? term).evaluate ctx = .error e := by
    match before?, sum? with
    | none, _ => exact failed
    | some (tree, op), some (sum, op') => rw [Tree.close, Tree.evaluate, closed.1, failed]
    | some _, none => exact closed.elim
  induction links generalizing term with
  | nil => exact close term failed
  | cons link links ih =>
      rw [Tree.arrange]
      split
      · exact ih (evaluate_node_left failed)
      · exact evaluate_arrange_before (close term failed) link.1 _ links

/-- Arranging links and evaluating the tree is the pass over them, errors included. -/
theorem evaluate_arrange {before? : Option (Tree × Operator)} {term : Tree} {r : Registers}
    (closed : Closed ctx before? r.sum) (value : term.evaluate ctx = .ok (.finite r.term))
    (links : List (Operator × Number)) :
    (Tree.arrange before? term links).evaluate ctx = (r.run ctx links).map .finite := by
  induction links generalizing before? term r with
  | nil => exact evaluate_close closed value
  | cons link links ih =>
      rw [Tree.arrange, Registers.run, Registers.step]
      split
      · have leaf : (Tree.leaf link.2).evaluate ctx = .ok (.finite link.2) := rfl
        have node : (Tree.node link.1 term (.leaf link.2)).evaluate ctx = _ :=
          evaluate_node value leaf
        cases result : link.1.onNumbers ctx r.term link.2 with
        | error e =>
            rw [result] at node
            exact evaluate_arrange_term closed node links
        | ok y =>
            rw [result] at node
            exact ih (r := { r with term := y }) closed node
      · rename_i sign
        have sum := evaluate_close closed value
        cases result : r.close ctx with
        | error e =>
            rw [result] at sum
            exact evaluate_arrange_before sum link.1 _ links
        | ok y =>
            rw [result] at sum
            exact ih (r := ⟨some (y, link.1), link.2, by simpa using sign⟩) ⟨sum, rfl⟩ rfl

/-- Evaluating the tree of a chain is the pass over its links. -/
theorem evaluate_ofChain (chain : Chain) :
    (Tree.ofChain chain).evaluate ctx =
      ((Registers.start chain.first).run ctx chain.links).map .finite := by
  have closed : Closed ctx none (Registers.start chain.first).sum := trivial
  exact evaluate_arrange closed rfl chain.links

/-! ## What comes out -/

namespace Registers

variable {r r' : Registers} {link : Operator × Number} {links : List (Operator × Number)}
  {y : Number} {e : CalculationError}

theorem close_ok (closed : r.close ctx = .ok y) :
    r.sum = none ∧ y = r.term ∨ y.IsFitted ctx := by
  obtain ⟨sum?, x, sign⟩ := r
  cases sum? with
  | none =>
      injection closed with same
      exact .inl ⟨rfl, same.symm⟩
  | some before => exact .inr (onNumbers_ok closed).2

/-- Closing a term divides by nothing. -/
theorem close_error (failed : r.close ctx = .error e) : e = .arithmetic .overflow := by
  obtain ⟨sum?, x, sign⟩ := r
  cases sum? with
  | none => cases failed
  | some before =>
      rcases onNumbers_error failed with ⟨-, quotient, -⟩ | overflow
      · have := sign before rfl
        rw [quotient] at this
        cases this
      · exact overflow

theorem step_ok (stepped : r.step ctx link = .ok r') :
    ¬DividesByZero link ∧ (r'.sum = none → r'.term.IsFitted ctx) := by
  unfold step at stepped
  split at stepped
  · obtain ⟨y, result, rfl⟩ := Results.map_eq_ok_iff.mp stepped
    obtain ⟨divisor, fitted⟩ := onNumbers_ok result
    exact ⟨divisor, fun _ => fitted⟩
  · rename_i sign
    obtain ⟨y, result, rfl⟩ := Results.map_eq_ok_iff.mp stepped
    refine ⟨fun ⟨quotient, _⟩ => sign (by rw [quotient]; rfl), fun impossible => ?_⟩
    cases impossible

theorem step_error (failed : r.step ctx link = .error e) :
    e = .divisionByZero ∧ DividesByZero link ∨ e = .arithmetic .overflow := by
  unfold step at failed
  split at failed
  · exact (onNumbers_error (Results.map_eq_error_iff.mp failed)).imp_left id
  · exact .inr (close_error (Results.map_eq_error_iff.mp failed))

/-- A pass that succeeds meets no zero divisor, and its value is fitted unless there are no
links. -/
theorem run_ok (passed : r.run ctx links = .ok y) :
    (∀ link ∈ links, ¬DividesByZero link) ∧
      (r.sum = none ∧ links = [] ∧ y = r.term ∨ y.IsFitted ctx) := by
  induction links generalizing r with
  | nil =>
      refine ⟨by simp, ?_⟩
      exact (close_ok passed).imp_left fun ⟨first, same⟩ => ⟨first, rfl, same⟩
  | cons link links ih =>
      obtain ⟨r', stepped, passed⟩ := Results.bind_eq_ok_iff.mp passed
      obtain ⟨divisor, fitted⟩ := step_ok stepped
      obtain ⟨divisors, value⟩ := ih passed
      refine ⟨List.forall_mem_cons.mpr ⟨divisor, divisors⟩, .inr ?_⟩
      rcases value with ⟨first, -, same⟩ | value
      · exact same ▸ fitted first
      · exact value

/-- A pass fails by a zero divisor among its links, or by overflow. -/
theorem run_error (failed : r.run ctx links = .error e) :
    (e = .divisionByZero ∧ ∃ link ∈ links, DividesByZero link) ∨ e = .arithmetic .overflow := by
  induction links generalizing r with
  | nil => exact .inr (close_error failed)
  | cons link links ih =>
      rcases Results.bind_eq_error_iff.mp failed with failed | ⟨r', -, failed⟩
      · exact (step_error failed).imp_left fun ⟨same, zero⟩ => ⟨same, link, by simp, zero⟩
      · refine (ih failed).imp_left fun ⟨same, other, member, zero⟩ => ?_
        exact ⟨same, other, List.mem_cons_of_mem link member, zero⟩

end Registers

/-! ## Values of texts -/

theorem negated_ok {count : ℕ} {x y : Number} (negated : x.negated ctx count = .ok y) :
    y = x ∨ y.IsFitted ctx := by
  induction count generalizing x with
  | zero =>
      injection negated with same
      exact .inl same.symm
  | succ count ih =>
      cases minus : x.neg ctx with
      | error signal =>
          rw [Number.negated, minus] at negated
          cases negated
      | ok z =>
          rw [negated_succ count minus] at negated
          rcases ih negated with rfl | fitted
          · exact .inr ⟨_, minus⟩
          · exact .inr fitted

/-- The value of a text is a number that was fitted, unless it is the number that the text
writes. -/
theorem exists_number_of_evaluate {cs : List Char} {v : Decimal}
    (evaluated : evaluate ctx cs = .ok v) :
    ∃ y, v = .finite y ∧
      ((∃ run, .run run ∈ pieces cs ∧ y = Number.ofRun run) ∨ y.IsFitted ctx) := by
  unfold evaluate at evaluated
  cases parsed : parse ctx cs with
  | error e =>
      rw [parsed] at evaluated
      cases evaluated
  | ok tree =>
      rw [parsed] at evaluated
      obtain ⟨s, chain, read, denotes, rfl⟩ := exists_spelling_of_parse parsed
      simp only [evaluate_ofChain, Results.map_eq_ok_iff] at evaluated
      obtain ⟨y, passed, rfl⟩ := evaluated
      refine ⟨y, rfl, ?_⟩
      rcases (Registers.run_ok passed).2 with ⟨-, -, rfl⟩ | fitted
      · refine (negated_ok denotes.1).imp_left fun same => ?_
        obtain ⟨run, piece, number⟩ := exists_ofRun_of_mem_tokens read s.number_mem_tokens
        exact ⟨run, piece, same.trans number⟩
      · exact .inr fitted

/-- A zero that is the value of a text is in range. -/
theorem adjusted_le_of_evaluate {cs : List Char} {y : Number} (positive : 0 < ctx.precision)
    (evaluated : evaluate ctx cs = .ok (.finite y)) (zero : y.coefficient = 0) :
    y.adjusted ≤ ctx.emax := by
  obtain ⟨z, same, written⟩ := exists_number_of_evaluate evaluated
  injection same with same
  subst same
  rcases written with ⟨run, -, rfl⟩ | fitted
  · have places := exponent_ofRun_nonpos run
    rw [Number.adjusted, Number.digitCount, zero, Numeral.digitCount_zero]
    omega
  · exact fitted.adjusted_le positive

end Reckoner
