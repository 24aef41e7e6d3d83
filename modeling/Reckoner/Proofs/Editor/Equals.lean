import Mathlib.Tactic
import Reckoner.Editor.State
import Reckoner.Proofs.Editor.Shape
import Reckoner.Proofs.Expression.RoundTrip

/-!
# Results in the editor

A result that is shown can be worked on: its text is an expression with its value, so evaluating it
once more, or starting from it, leads to the same state. An equals that finds nothing to evaluate
has no result.
-/

namespace Reckoner.Editor

variable {s : State} {places : Places} {r : List Char}

/-- Equals shows the result of the buffer without the operators at its end. -/
theorem apply_equals_of_calculate (running : s.errorState = false)
    (calculated : calculate .standard places (stripOperators s.buffer) = .ok r) :
    (s.apply places .equals).state = .ofResult r := by
  have evaluated : (s.evaluate places (stripOperators s.buffer)).state = .ofResult r := by
    rw [State.evaluate, calculated]
  rw [State.apply_of_running running]
  show (s.equals places).state = _
  unfold State.equals
  split
  · rename_i empty
    rw [empty] at calculated
    cases calculated
  · exact evaluated

theorem seed_of_calculate (filled : r ≠ []) (safe : isSafe r = true) {result : List Char}
    (calculated : calculate .standard places r = .ok result) :
    (State.seed places r).state = .ofResult result := by
  rw [State.seed, if_neg filled, if_pos safe, State.evaluate, calculated]

/-- A result is read as one number with the value that it writes, and calculating it again, at as
many places or more, gives it again. So a second equals after one that calculated a result changes
nothing, and starting from what is shown leads to the same state. -/
theorem result_round_trip {places more : ℤ} (whole : 0 ≤ places) (atLeast : places ≤ more)
    (most : more ≤ 999999) :
    (∀ cs r, calculate .standard (.whole places) cs = .ok r →
      (∃ x, parse .standard r = .ok (.leaf x) ∧ x.value = positionalValue r) ∧
        calculate .standard (.whole more) r = .ok r) ∧
    (∀ (s : State) r, s.errorState = false →
      calculate .standard (.whole places) (stripOperators s.buffer) = .ok r →
      let shown := (s.apply (.whole places) .equals).state
      shown.display = some (String.ofList r) ∧
        (shown.apply (.whole more) .equals).state = shown ∧
        (State.seed (.whole more) r).state = shown) := by
  refine ⟨fun cs r => calculate_of_calculate whole atLeast most, fun s r running calculated => ?_⟩
  obtain ⟨z, rfl, -⟩ := exists_canonical_of_calculate (by omega) calculated
  have again := (calculate_of_calculate whole atLeast most calculated).2
  have complete := Shape.complete_canonical z
  rw [apply_equals_of_calculate running calculated]
  refine ⟨rfl, ?_, ?_⟩
  · apply apply_equals_of_calculate rfl
    show calculate _ _ (stripOperators z.canonical) = _
    rw [Shape.stripOperators_complete complete]
    exact again
  · exact seed_of_calculate (Shape.complete_ne_nil complete) (Shape.isSafe_canonical z) again

theorem result_round_trip_two_thirds :
    (0 : ℤ) ≤ 2 ∧ (2 : ℤ) ≤ 10 ∧ (10 : ℤ) ≤ 999999 ∧
      calculate .standard (.whole 2) "2/-3".toList = .ok "-0.67".toList ∧
      (∃ x, parse .standard "-0.67".toList = .ok (.leaf x) ∧
        x.value = positionalValue "-0.67".toList) ∧
      calculate .standard (.whole 10) "-0.67".toList = .ok "-0.67".toList := by
  have whole : (0 : ℤ) ≤ 2 := by decide
  have atLeast : (2 : ℤ) ≤ 10 := by decide
  have most : (10 : ℤ) ≤ 999999 := by decide
  have calculated : calculate .standard (.whole 2) "2/-3".toList = .ok "-0.67".toList := by
    decide +kernel
  exact ⟨whole, atLeast, most, calculated,
    (result_round_trip whole atLeast most).1 _ _ calculated⟩

end Reckoner.Editor
