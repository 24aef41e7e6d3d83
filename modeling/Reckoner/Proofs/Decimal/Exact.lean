import Mathlib.Tactic
import Reckoner.Proofs.Decimal.Fit

/-!
# Exact operations

A context holds the rational numbers that few digits in range can write, below the largest power of
ten. An operation whose exact result is held gives that result, however the operands are written:
they may have more digits than the precision, and zeros behind them.
-/

namespace Reckoner

/-- Whether few digits in range write `q`, and it is below the largest power of ten. -/
structure Context.Holds (ctx : Context) (q : ℚ) : Prop where
  digits : ∃ c k : ℤ, |c| < 10 ^ ctx.precision ∧ ctx.etiny ≤ k ∧ q = c * 10 ^ k
  small : |q| < 10 ^ ctx.emax

/-- Fifty digits down to the exponent -1000048, below the power of ten of exponent 999999. -/
theorem Context.holds_standard_iff {q : ℚ} :
    Context.standard.Holds q ↔
      (∃ c k : ℤ, |c| < 10 ^ 50 ∧ -1000048 ≤ k ∧ q = c * 10 ^ k) ∧ |q| < 10 ^ 999999 :=
  ⟨fun held => ⟨held.digits, held.small⟩, fun held => ⟨held.1, held.2⟩⟩

variable {ctx : Context}

/-- The magnitude of what is held has digits without a sign. -/
theorem Context.Holds.abs_digits {q : ℚ} (held : ctx.Holds q) :
    ∃ (c : ℕ) (k : ℤ), c < 10 ^ ctx.precision ∧ ctx.etiny ≤ k ∧ |q| = c * 10 ^ k := by
  obtain ⟨⟨c, k, few, lowest, rfl⟩, -⟩ := held
  refine ⟨c.natAbs, k, ?_, lowest, ?_⟩
  · rw [Int.abs_eq_natAbs] at few
    exact_mod_cast few
  · rw [abs_mul, abs_of_pos (Number.pow_ten_pos k), Nat.cast_natAbs, Int.cast_abs]

namespace Number

/-- A number that is held is fitted without loss. -/
theorem fit_of_holds {x : Number} (held : ctx.Holds x.value) :
    ∃ y, fit ctx x = .ok y ∧ y.value = x.value := by
  by_cases zero : x.coefficient = 0
  · refine ⟨_, fit_of_coefficient_eq_zero zero, ?_⟩
    rw [value_eq_zero_iff.mpr zero, value_eq_zero_iff]
    exact zero
  · obtain ⟨c, k, few, lowest, shape⟩ := held.abs_digits
    rw [abs_value] at shape
    have same := magnitude_rounded zero few lowest shape
    have top : (x.rounded ctx).adjusted < ctx.emax := by
      rw [← adjusted_eq_of_magnitude_eq zero same.symm, adjusted_lt_iff zero, zpow_natCast,
        ← abs_value]
      exact held.small
    refine ⟨x.rounded ctx, ?_, value_eq_of_magnitude_eq (negative_rounded x) same⟩
    rw [fit_eq zero, if_neg (by omega)]

/-! ## Sums -/

theorem value_eq_signedCoefficient (x : Number) :
    x.value = x.signedCoefficient * 10 ^ x.exponent := by
  unfold value signed signedCoefficient magnitude
  split <;> push_cast <;> ring

/-- A multiple of a power of ten is one of each lower power of ten. -/
theorem exists_multiple (c : ℤ) {j k : ℤ} (lower : j ≤ k) :
    ∃ m : ℤ, (c : ℚ) * 10 ^ k = m * 10 ^ j := by
  obtain ⟨n, rfl⟩ : ∃ n : ℕ, k = n + j := ⟨(k - j).toNat, by omega⟩
  refine ⟨c * 10 ^ n, ?_⟩
  rw [pow_ten_add, zpow_natCast]
  push_cast
  ring

/-- At a lower exponent the coefficient has zeros behind it. -/
theorem value_eq_coefficientAt {x : Number} {exponent : ℤ} (lower : exponent ≤ x.exponent) :
    x.value = x.coefficientAt exponent * 10 ^ exponent := by
  unfold coefficientAt
  split
  · rename_i zero
    rw [value_eq_zero_iff.mpr zero, Int.cast_zero, zero_mul]
  · obtain ⟨k, difference⟩ : ∃ k : ℕ, x.exponent = k + exponent :=
      ⟨(x.exponent - exponent).toNat, by omega⟩
    rw [value_eq_signedCoefficient, difference, add_sub_cancel_right, Int.toNat_natCast,
      pow_ten_add, zpow_natCast, Nat.pow_eq]
    push_cast
    ring

theorem value_exactSum (a b : Number) : (a.exactSum b).value = a.value + b.value := by
  have total : (a.exactSum b).signedCoefficient = a.coefficientAt (min a.exponent b.exponent) +
      b.coefficientAt (min a.exponent b.exponent) := by
    unfold exactSum signedCoefficient
    simp only
    generalize a.coefficientAt _ + b.coefficientAt _ = sum
    by_cases zero : sum = 0
    · simp [zero]
    · simp only [zero, if_false, decide_eq_true_eq]
      split <;> omega
  rw [value_eq_signedCoefficient, total,
    value_eq_coefficientAt (min_le_left a.exponent b.exponent),
    value_eq_coefficientAt (min_le_right a.exponent b.exponent)]
  show ((_ : ℤ) : ℚ) * 10 ^ min a.exponent b.exponent = _
  push_cast
  ring

/-- Few digits at a low exponent make a small number. -/
theorem abs_lt_of_digits {c k : ℤ} {limit : ℕ} (few : |c| < 10 ^ limit) :
    |(c : ℚ) * 10 ^ k| < 10 ^ (limit + k) := by
  have few' : (|c| : ℚ) < 10 ^ (limit : ℤ) := by
    rw [zpow_natCast]
    exact_mod_cast few
  rw [abs_mul, abs_of_pos (pow_ten_pos k), pow_ten_add]
  exact mul_lt_mul_of_pos_right few' (pow_ten_pos k)

/-- The only multiple of a unit that is smaller than the unit is zero. -/
theorem eq_zero_of_abs_lt {m j : ℤ} (tiny : |(m : ℚ) * 10 ^ j| < 10 ^ j) : m = 0 := by
  rw [abs_mul, abs_of_pos (pow_ten_pos j), mul_lt_iff_lt_one_left (pow_ten_pos j)] at tiny
  exact Int.abs_lt_one_iff.mp (by exact_mod_cast tiny)

/-- Where the sum is held, the small operand reaches digits that are kept. -/
theorem guardExponent_le_adjusted {big small : Number} (filled : big.coefficient ≠ 0)
    (nonzero : small.coefficient ≠ 0)
    (held : ctx.Holds (big.value + small.value)) : big.guardExponent ctx ≤ small.adjusted := by
  by_contra far
  have tiny : |small.value| < 10 ^ big.guardExponent ctx := by
    rw [abs_value]
    exact (adjusted_lt_iff nonzero _).mp (not_le.mp far)
  obtain ⟨⟨c, k, few, -, sum⟩, -⟩ := held
  rcases lt_or_ge k (big.guardExponent ctx) with low | high
  · -- The sum is then too small for the big operand.
    have wide : ctx.precision + k ≤ big.adjusted - 1 ∧
        big.guardExponent ctx ≤ big.adjusted - 1 := by
      have := big.digitCount_pos
      unfold guardExponent at low ⊢
      unfold adjusted
      omega
    have total : |big.value + small.value| < 10 ^ (big.adjusted - 1) := by
      rw [sum]
      exact (abs_lt_of_digits few).trans_le (zpow_le_zpow_right₀ (by norm_num) wide.1)
    have rest : |small.value| < 10 ^ (big.adjusted - 1) :=
      tiny.trans_le (zpow_le_zpow_right₀ (by norm_num) wide.2)
    have whole : 10 * 10 ^ (big.adjusted - 1) ≤ |big.value| := by
      rw [abs_value, ← zpow_one_add₀ (by norm_num), add_sub_cancel]
      exact pow_adjusted_le filled
    have triangle : |big.value| ≤ |big.value + small.value| + |small.value| := by
      have := abs_sub (big.value + small.value) small.value
      rwa [add_sub_cancel_right] at this
    have positive := pow_ten_pos (big.adjusted - 1)
    linarith
  · -- The small operand is then a multiple of a unit that it is smaller than.
    have under : big.guardExponent ctx ≤ big.exponent := by
      unfold guardExponent
      omega
    obtain ⟨m, multiple⟩ := exists_multiple c high
    obtain ⟨n, multiple'⟩ := exists_multiple big.signedCoefficient under
    have shape : small.value = (m - n : ℤ) * 10 ^ big.guardExponent ctx := by
      rw [value_eq_signedCoefficient big, multiple', multiple] at sum
      push_cast
      linarith
    rw [shape] at tiny
    rw [eq_zero_of_abs_lt tiny, Int.cast_zero, zero_mul] at shape
    exact nonzero (value_eq_zero_iff.mp shape)

/-- Where the sum is held, nothing of another value stands for the small operand. -/
theorem value_guarded {big small : Number} (held : ctx.Holds (big.value + small.value)) :
    (guarded ctx big small).value = small.value := by
  unfold guarded
  split
  · rfl
  · rename_i filled
    split
    · rename_i far
      by_cases zero : small.coefficient = 0
      · rw [value_eq_zero_iff.mpr zero, value_eq_zero_iff, if_pos zero]
      · exact absurd (guardExponent_le_adjusted filled zero held) (not_le.mpr far)
    · rfl

/-- A sum that is held is exact. -/
theorem add_of_holds {a b : Number} (held : ctx.Holds (a.value + b.value)) :
    ∃ y, a.add ctx b = .ok y ∧ y.value = a.value + b.value := by
  have fitted {c d : Number} (same : c.value + d.value = a.value + b.value) :
      ∃ y, (exactSum c d).fit ctx = .ok y ∧ y.value = a.value + b.value := by
    rw [← same, ← value_exactSum] at held ⊢
    exact fit_of_holds held
  unfold add
  split
  · rw [add_comm] at held
    exact fitted (by rw [value_guarded held])
  · split
    · exact fitted (by rw [value_guarded held])
    · exact fitted rfl

theorem value_flipped (x : Number) : x.flipped.value = -x.value := signed_not _ _

/-- A difference that is held is exact. -/
theorem sub_of_holds {a b : Number} (held : ctx.Holds (a.value - b.value)) :
    ∃ y, a.sub ctx b = .ok y ∧ y.value = a.value - b.value := by
  rw [sub_eq_add_neg, ← value_flipped] at held ⊢
  exact add_of_holds held

/-! ## Products -/

theorem signed_mul (s t : Bool) (m n : ℚ) :
    signed (s != t) (m * n) = signed s m * signed t n := by
  cases s <;> cases t <;> simp [signed]

theorem value_exactProduct (a b : Number) : (a.exactProduct b).value = a.value * b.value := by
  have same : (a.exactProduct b).magnitude = a.magnitude * b.magnitude := by
    unfold exactProduct magnitude
    rw [pow_ten_add]
    push_cast
    ring
  rw [value, value, value, ← signed_mul, ← same]
  rfl

/-- A product that is held is exact. -/
theorem mul_of_holds {a b : Number} (held : ctx.Holds (a.value * b.value)) :
    ∃ y, a.mul ctx b = .ok y ∧ y.value = a.value * b.value := by
  rw [← value_exactProduct] at held ⊢
  exact fit_of_holds held

/-! ## Quotients -/

theorem signed_div (s t : Bool) (m n : ℚ) :
    signed (s != t) (m / n) = signed s m / signed t n := by
  cases s <;> cases t <;> simp [signed, neg_div, div_neg]

/-- Dropping zeros and counting them. -/
theorem dropZeros_mul (limit coefficient : ℕ) :
    (dropZeros limit coefficient).1 * 10 ^ (dropZeros limit coefficient).2 = coefficient := by
  induction limit generalizing coefficient with
  | zero => exact Nat.mul_one coefficient
  | succ limit ih =>
      unfold dropZeros
      split
      · rename_i zero
        have := ih (coefficient / 10)
        simp only [pow_succ, ← mul_assoc, this]
        omega
      · exact Nat.mul_one coefficient

/-- A power of ten of either sign, as a quotient of two that are whole. -/
theorem pow_ten_eq_div (k : ℤ) : (10 : ℚ) ^ k = 10 ^ k.toNat / 10 ^ (-k).toNat := by
  rw [eq_div_iff (by positivity), ← zpow_natCast, ← zpow_natCast, ← pow_ten_add]
  congr 1
  omega

/-- Where the quotient is held, the division to one digit more than the precision comes out even. -/
theorem exists_quotient {a b : Number} (filled : a.coefficient ≠ 0) (divisor : b.coefficient ≠ 0)
    (held : ctx.Holds (a.value / b.value)) {shift : ℤ}
    (wide : shift = (b.digitCount : ℤ) - a.digitCount + ctx.precision + 1) :
    ∃ quotient : ℕ,
      a.coefficient * 10 ^ shift.toNat = quotient * (b.coefficient * 10 ^ (-shift).toNat) := by
  obtain ⟨c, k, few, -, shape⟩ := held.abs_digits
  rw [abs_div, abs_value, abs_value, div_eq_iff (mt magnitude_eq_zero_iff.mp divisor)] at shape
  have shifted : (a.coefficient : ℚ) * 10 ^ shift =
      c * 10 ^ (k + b.exponent + (shift - a.exponent)) * b.coefficient := by
    have aligned : (a.coefficient : ℚ) * 10 ^ shift = a.magnitude * 10 ^ (shift - a.exponent) := by
      rw [magnitude, mul_assoc, ← pow_ten_add, add_sub_cancel]
    rw [aligned, shape, magnitude, pow_ten_add, pow_ten_add]
    ring
  -- The shifted quotient has more digits than `c`, so `c` has zeros behind it there.
  obtain ⟨n, zeros⟩ : ∃ n : ℕ, k + b.exponent + (shift - a.exponent) = n := by
    refine ⟨(k + b.exponent + (shift - a.exponent)).toNat, ?_⟩
    by_contra negative
    have less : (10 : ℚ) ^ (k + b.exponent + (shift - a.exponent)) ≤ 1 :=
      zpow_le_one_of_nonpos₀ (by norm_num) (by omega)
    have short : (c * b.coefficient : ℚ) < 10 ^ ctx.precision * 10 ^ b.digitCount := by
      exact_mod_cast Nat.mul_lt_mul'' few (Numeral.lt_pow_digitCount b.coefficient)
    have long : (10 : ℚ) ^ ctx.precision * 10 ^ b.digitCount ≤ a.coefficient * 10 ^ shift := by
      have first : (10 : ℚ) ^ (a.digitCount - 1) ≤ a.coefficient := by
        exact_mod_cast Numeral.pow_digitCount_le a.coefficient filled
      calc (10 : ℚ) ^ ctx.precision * 10 ^ b.digitCount
          = 10 ^ (a.digitCount - 1) * 10 ^ shift := by
            have := a.digitCount_pos
            simp only [← zpow_natCast, ← pow_ten_add]
            congr 1
            omega
        _ ≤ a.coefficient * 10 ^ shift := mul_le_mul_of_nonneg_right first (pow_ten_pos _).le
    have bound : (c * 10 ^ (k + b.exponent + (shift - a.exponent)) * b.coefficient : ℚ) ≤
        c * b.coefficient := by
      rw [mul_right_comm]
      exact mul_le_of_le_one_right (by positivity) less
    linarith
  refine ⟨c * 10 ^ n, ?_⟩
  rw [zeros, pow_ten_eq_div, zpow_natCast, ← mul_div_assoc, div_eq_iff (by positivity)] at shifted
  have : (a.coefficient : ℚ) * 10 ^ shift.toNat =
      c * 10 ^ n * (b.coefficient * 10 ^ (-shift).toNat) := by
    rw [shifted]
    ring
  exact_mod_cast this

/-- The magnitude of a quotient that comes out even. -/
theorem magnitude_quotient {a b : Number} (divisor : b.coefficient ≠ 0) {shift : ℤ} {quotient : ℕ}
    (even : a.coefficient * 10 ^ shift.toNat =
      quotient * (b.coefficient * 10 ^ (-shift).toNat)) :
    (quotient : ℚ) * 10 ^ (a.exponent - b.exponent - shift) = a.magnitude / b.magnitude := by
  have even' : (a.coefficient : ℚ) * 10 ^ shift = quotient * b.coefficient := by
    rw [pow_ten_eq_div, ← mul_div_assoc, div_eq_iff (by positivity), mul_assoc]
    exact_mod_cast even
  rw [eq_div_iff (mt magnitude_eq_zero_iff.mp divisor), magnitude, magnitude]
  calc (quotient : ℚ) * 10 ^ (a.exponent - b.exponent - shift) * (b.coefficient * 10 ^ b.exponent)
      = quotient * b.coefficient * 10 ^ (a.exponent - b.exponent - shift + b.exponent) := by
        rw [pow_ten_add]
        ring
    _ = a.coefficient * 10 ^ (shift + (a.exponent - b.exponent - shift + b.exponent)) := by
        rw [← even', mul_assoc, ← pow_ten_add]
    _ = a.coefficient * 10 ^ a.exponent := by
        congr 2
        ring

/-- A quotient that is held is exact. -/
theorem div_of_holds {a b : Number} (divisor : b.coefficient ≠ 0)
    (held : ctx.Holds (a.value / b.value)) :
    ∃ y, a.div ctx b = .ok y ∧ y.value = a.value / b.value := by
  have fitted {x : Number} (sign : x.negative = (a.negative != b.negative))
      (same : x.magnitude = a.magnitude / b.magnitude) :
      ∃ y, fit ctx x = .ok y ∧ y.value = a.value / b.value := by
    have value : x.value = a.value / b.value := by
      rw [value, sign, same, signed_div]
      rfl
    rw [← value] at held ⊢
    exact fit_of_holds held
  unfold div
  simp only [divisor, if_false]
  split
  · rename_i zero
    apply fitted rfl
    rw [magnitude_eq_zero_iff.mpr zero, zero_div, magnitude_eq_zero_iff]
  · rename_i filled
    generalize wide : (b.digitCount : ℤ) - a.digitCount + ctx.precision + 1 = shift
    obtain ⟨quotient, even⟩ := exists_quotient filled divisor held wide.symm
    have positive : 0 < b.coefficient * 10 ^ (-shift).toNat := by positivity
    simp only [Nat.pow_eq]
    rw [even, Nat.mul_mod_left, if_pos rfl, Nat.mul_div_cancel _ positive]
    apply fitted rfl
    rw [← magnitude_quotient divisor even]
    have zeros := dropZeros_mul shift.toNat quotient
    generalize dropZeros shift.toNat quotient = dropped at zeros
    rw [magnitude, ← zeros]
    simp only
    rw [add_comm, pow_ten_add, zpow_natCast]
    push_cast
    ring

/-! ## The unary minus -/

/-- A unary minus whose result is held is exact. -/
theorem neg_of_holds {x : Number} (held : ctx.Holds (-x.value)) :
    ∃ y, x.neg ctx = .ok y ∧ y.value = -x.value := by
  rw [← value_opposite] at held ⊢
  exact fit_of_holds held

end Number

end Reckoner
