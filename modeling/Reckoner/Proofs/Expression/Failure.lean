import Mathlib.Tactic
import Reckoner.Proofs.Decimal.Nearest
import Reckoner.Proofs.Expression.ZeroDivisor

/-!
# Why calculations fail

Rounded to a whole number of places within the largest exponent, a text has no result for one of
four reasons: it divides by zero, it cannot be parsed, an operation overflows, or its value is too
large to be shown.
-/

namespace Reckoner

variable {ctx : Context} {cs : List Char} {e : CalculationError}

/-! ## Operations that overflow -/

/-- Whether an operation of a tree signals, where both of its operands have a value. -/
def Tree.Signals (ctx : Context) (signal : Signal) : Tree → Prop
  | .number _ => False
  | .node op left right =>
    left.Signals ctx signal ∨ right.Signals ctx signal ∨
      ∃ a b, left.evaluate ctx = .ok a ∧ right.evaluate ctx = .ok b ∧
        op.apply ctx a b = .error (.arithmetic signal)
  | .foreign _ left right => left.Signals ctx signal ∨ right.Signals ctx signal

/-- A signal of an evaluation comes from one of the operations. -/
theorem signals_of_evaluate {signal : Signal} {tree : Tree}
    (failed : tree.evaluate ctx = .error (.arithmetic signal)) : tree.Signals ctx signal := by
  induction tree with
  | number d => cases failed
  | node op left right ihLeft ihRight =>
      unfold Tree.evaluate at failed
      split at failed
      · rename_i stopped
        exact .inl (ihLeft (failed ▸ stopped))
      · rename_i a first
        split at failed
        · rename_i stopped
          exact .inr (.inl (ihRight (failed ▸ stopped)))
        · rename_i b second
          exact .inr (.inr ⟨a, b, first, second, failed⟩)
  | foreign name left right ihLeft ihRight =>
      unfold Tree.evaluate at failed
      split at failed
      · rename_i stopped
        exact .inl (ihLeft (failed ▸ stopped))
      · split at failed
        · rename_i stopped
          exact .inr (ihRight (failed ▸ stopped))
        · cases failed

/-- Whether an operation of an expression overflows. -/
def OperationOverflow (ctx : Context) (cs : List Char) : Prop :=
  ∃ tree, parse ctx cs = .ok tree ∧ tree.Signals ctx .overflow

/-- An evaluation fails where the text cannot be parsed, divides by zero, or overflows in an
operation. -/
theorem evaluate_error (failed : evaluate ctx cs = .error e) :
    parse ctx cs = .error e ∨ e = .divisionByZero ∨
      e = .arithmetic .overflow ∧ OperationOverflow ctx cs := by
  unfold evaluate at failed
  cases parsed : parse ctx cs with
  | error e' =>
      rw [parsed] at failed
      injection failed with same
      exact .inl (congrArg _ same)
  | ok tree =>
      rw [parsed] at failed
      change tree.evaluate ctx = .error e at failed
      obtain ⟨s, chain, read, -, -⟩ := exists_spelling_of_parse parsed
      rcases (evaluate_zeroDivisor read parsed).2 e failed with ⟨zero, -⟩ | overflow
      · exact .inr (.inl zero)
      · exact .inr (.inr ⟨overflow, tree, parsed, signals_of_evaluate (overflow ▸ failed)⟩)

/-! ## Values that are too large -/

/-- Whether the value of a text is too large to be shown at a number of places. -/
def IsTooLarge (places : ℤ) (cs : List Char) : Prop :=
  ∃ x, evaluate .standard cs = .ok (.finite x) ∧ 10 ^ 1000000 ≤ (x.atPlaces places).magnitude

/-- The value of a text cannot be shown only where it is too large. -/
theorem isTooLarge_of_rounded {v : Decimal} {places : ℤ}
    (most : places ≤ 999999) (evaluated : evaluate .standard cs = .ok v)
    (failed : v.rounded .standard (.whole places) = .error e) : IsTooLarge places cs := by
  obtain ⟨x, rfl, -⟩ := exists_number_of_evaluate evaluated
  exact ⟨x, evaluated,
    Number.le_magnitude_of_roundTo most (adjusted_le_of_evaluate (by decide) evaluated) failed⟩

/-! ## Calculations -/

/-- A calculation fails in the check for zero divisors, in the evaluation, or in the rounding. -/
theorem calculate_error_cases {places : Places} (failed : calculate ctx places cs = .error e) :
    e = .zeroDivisor ∨ evaluate ctx cs = .error e ∨
      ∃ v, evaluate ctx cs = .ok v ∧ v.rounded ctx places = .error e := by
  unfold calculate at failed
  split at failed
  · cases failed
    exact .inl rfl
  · split at failed
    · rename_i e' stopped
      injection failed with same
      exact .inr (.inl (same ▸ stopped))
    · rename_i v evaluated
      exact .inr (.inr ⟨v, evaluated, failed⟩)

/-- Every reason why a text has no result. -/
theorem calculate_error {places : ℤ} (most : places ≤ 999999)
    (failed : calculate .standard (.whole places) cs = .error e) :
    parse .standard cs = .error e ∨ e.kind = .divisionByZero ∨ e = .arithmetic .overflow ∨
      IsTooLarge places cs ∧ (e.kind = .invalidResult ∨ e.kind = .general) := by
  rcases calculate_error_cases failed with rfl | stopped | ⟨v, evaluated, unshown⟩
  · exact .inr (.inl rfl)
  · rcases evaluate_error stopped with unread | rfl | ⟨overflow, -⟩
    · exact .inl unread
    · exact .inr (.inl rfl)
    · exact .inr (.inr (.inl overflow))
  · exact .inr (.inr (.inr
      ⟨isTooLarge_of_rounded most evaluated unshown, kind_cases_of_rounded unshown⟩))

end Reckoner
