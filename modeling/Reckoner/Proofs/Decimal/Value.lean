import Mathlib.Tactic
import Reckoner.Decimal.Arithmetic
import Reckoner.Proofs.Numeral

/-!
# What decimals denote

A finite decimal denotes a rational number: its magnitude with its sign. The exponent of its highest
digit is the common logarithm of the magnitude, rounded down, so that decimals of one magnitude have
their highest digit at one place, and the coefficient at the lower exponent is the other one with
zeros behind.
-/

namespace Reckoner

/-- A magnitude with its sign. -/
def signed (negative : Bool) (magnitude : ℚ) : ℚ := if negative then -magnitude else magnitude

@[simp] theorem signed_zero (negative : Bool) : signed negative 0 = 0 := by
  cases negative <;> simp [signed]

@[simp] theorem signed_not (negative : Bool) (magnitude : ℚ) :
    signed (!negative) magnitude = -signed negative magnitude := by
  cases negative <;> simp [signed]

theorem abs_signed (negative : Bool) {magnitude : ℚ} (nonnegative : 0 ≤ magnitude) :
    |signed negative magnitude| = magnitude := by
  cases negative <;> simp [signed, abs_of_nonneg nonnegative]

/-- A magnitude other than zero shows its sign. -/
theorem signed_inj {magnitude : ℚ} (nonzero : magnitude ≠ 0) {s t : Bool}
    (same : signed s magnitude = signed t magnitude) : s = t := by
  cases s <;> cases t <;> simp only [signed] at same ⊢
  · exact absurd (by simpa [self_eq_neg] using same) nonzero
  · exact absurd (by simpa [neg_eq_self] using same) nonzero

namespace Number

/-- The magnitude that a finite decimal denotes. -/
def magnitude (x : Number) : ℚ := x.coefficient * 10 ^ x.exponent

/-- The rational number that a finite decimal denotes. -/
def value (x : Number) : ℚ := signed x.negative x.magnitude

/-- Whether all digits but the first `limit` ones are zeros. -/
def IsShort (limit : ℕ) (x : Number) : Prop :=
  ∃ c k : ℕ, c < 10 ^ limit ∧ x.coefficient = c * 10 ^ k

theorem pow_ten_pos (k : ℤ) : (0 : ℚ) < 10 ^ k := zpow_pos (by norm_num) k

theorem pow_ten_lt_iff {j k : ℤ} : (10 : ℚ) ^ j < 10 ^ k ↔ j < k :=
  zpow_lt_zpow_iff_right₀ (by norm_num)

theorem pow_ten_add (j k : ℤ) : (10 : ℚ) ^ (j + k) = 10 ^ j * 10 ^ k :=
  zpow_add₀ (by norm_num) j k

theorem magnitude_nonneg (x : Number) : 0 ≤ x.magnitude :=
  mul_nonneg (Nat.cast_nonneg _) (pow_ten_pos _).le

theorem magnitude_eq_zero_iff {x : Number} : x.magnitude = 0 ↔ x.coefficient = 0 := by
  simp [magnitude, (pow_ten_pos x.exponent).ne']

theorem abs_value (x : Number) : |x.value| = x.magnitude := abs_signed _ x.magnitude_nonneg

theorem value_eq_zero_iff {x : Number} : x.value = 0 ↔ x.coefficient = 0 := by
  rw [← abs_eq_zero, abs_value, magnitude_eq_zero_iff]

theorem magnitude_eq_of_value_eq {x y : Number} (same : x.value = y.value) :
    x.magnitude = y.magnitude := by
  rw [← abs_value, ← abs_value, same]

theorem value_eq_of_magnitude_eq {x y : Number} (sign : x.negative = y.negative)
    (same : x.magnitude = y.magnitude) : x.value = y.value := by
  rw [value, value, sign, same]

/-! ## The place of the highest digit -/

theorem digitCount_pos (x : Number) : 0 < x.digitCount := Numeral.digitCount_pos _

theorem magnitude_lt (x : Number) : x.magnitude < 10 ^ (x.adjusted + 1) := by
  have below : (x.coefficient : ℚ) < 10 ^ (x.digitCount : ℤ) := by
    exact_mod_cast Numeral.lt_pow_digitCount x.coefficient
  calc x.magnitude < 10 ^ (x.digitCount : ℤ) * 10 ^ x.exponent :=
        mul_lt_mul_of_pos_right below (pow_ten_pos _)
    _ = 10 ^ (x.adjusted + 1) := by
        rw [← pow_ten_add, adjusted]
        congr 1
        omega

theorem pow_adjusted_le {x : Number} (nonzero : x.coefficient ≠ 0) :
    10 ^ x.adjusted ≤ x.magnitude := by
  have positive := x.digitCount_pos
  have above : (10 : ℚ) ^ ((x.digitCount - 1 : ℕ) : ℤ) ≤ x.coefficient := by
    exact_mod_cast Numeral.pow_digitCount_le x.coefficient nonzero
  calc (10 : ℚ) ^ x.adjusted = 10 ^ ((x.digitCount - 1 : ℕ) : ℤ) * 10 ^ x.exponent := by
        rw [← pow_ten_add, adjusted]
        congr 1
        omega
    _ ≤ x.magnitude := mul_le_mul_of_nonneg_right above (pow_ten_pos _).le

theorem adjusted_lt_iff {x : Number} (nonzero : x.coefficient ≠ 0) (k : ℤ) :
    x.adjusted < k ↔ x.magnitude < 10 ^ k := by
  constructor
  · intro low
    refine x.magnitude_lt.trans_le ?_
    exact zpow_le_zpow_right₀ (by norm_num) (by omega)
  · intro small
    exact pow_ten_lt_iff.mp ((pow_adjusted_le nonzero).trans_lt small)

theorem coefficient_eq_zero_iff_of_magnitude_eq {x y : Number} (same : x.magnitude = y.magnitude) :
    x.coefficient = 0 ↔ y.coefficient = 0 := by
  rw [← magnitude_eq_zero_iff, ← magnitude_eq_zero_iff, same]

theorem adjusted_eq_of_magnitude_eq {x y : Number} (nonzero : x.coefficient ≠ 0)
    (same : x.magnitude = y.magnitude) : x.adjusted = y.adjusted := by
  have nonzero' := mt (coefficient_eq_zero_iff_of_magnitude_eq same).mpr nonzero
  have first := (adjusted_lt_iff nonzero' (x.adjusted + 1)).mpr (same ▸ x.magnitude_lt)
  have second := (adjusted_lt_iff nonzero (y.adjusted + 1)).mpr (same ▸ y.magnitude_lt)
  omega

/-! ## Decimals of one magnitude -/

/-- Zeros behind the coefficient and an exponent that is lower by their number cancel out. -/
theorem magnitude_shift (x : Number) (c k : ℕ) (exponent : ℤ) (shifted : x.coefficient = c * 10 ^ k)
    (lower : exponent = x.exponent + k) (negative : Bool) :
    (Number.mk negative c exponent).magnitude = x.magnitude := by
  simp only [magnitude, shifted, lower, pow_ten_add, zpow_natCast]
  push_cast
  ring

theorem coefficient_of_magnitude_eq {x y : Number} (lower : y.exponent ≤ x.exponent)
    (same : x.magnitude = y.magnitude) :
    y.coefficient = x.coefficient * 10 ^ (x.exponent - y.exponent).toNat := by
  have split : (10 : ℚ) ^ x.exponent = 10 ^ (x.exponent - y.exponent).toNat * 10 ^ y.exponent := by
    rw [← zpow_natCast, ← pow_ten_add]
    congr 1
    omega
  have cancelled : (x.coefficient : ℚ) * 10 ^ (x.exponent - y.exponent).toNat = y.coefficient := by
    apply mul_right_cancel₀ (pow_ten_pos y.exponent).ne'
    rw [mul_assoc, ← split]
    exact same
  exact_mod_cast cancelled.symm

/-- How many digits count depends on the magnitude alone. -/
theorem IsShort.of_magnitude_eq {limit : ℕ} {x y : Number} (short : x.IsShort limit)
    (same : x.magnitude = y.magnitude) : y.IsShort limit := by
  obtain ⟨c, k, small, shape⟩ := short
  rcases Int.le_total y.exponent x.exponent with lower | higher
  · refine ⟨c, k + (x.exponent - y.exponent).toNat, small, ?_⟩
    rw [coefficient_of_magnitude_eq lower same, shape, pow_add, mul_assoc]
  · have shifted := coefficient_of_magnitude_eq higher same.symm
    rw [shape] at shifted
    rcases Nat.le_total (y.exponent - x.exponent).toNat k with few | many
    · refine ⟨c, k - (y.exponent - x.exponent).toNat, small, ?_⟩
      apply Nat.eq_of_mul_eq_mul_right (Nat.pow_pos (n := (y.exponent - x.exponent).toNat)
        (show 0 < 10 by decide))
      rw [← shifted, mul_assoc, ← pow_add]
      congr 2
      omega
    · refine ⟨y.coefficient, 0, ?_, by simp⟩
      have inside : y.coefficient * 10 ^ ((y.exponent - x.exponent).toNat - k) = c := by
        apply Nat.eq_of_mul_eq_mul_right (Nat.pow_pos (n := k) (show 0 < 10 by decide))
        rw [shifted, mul_assoc, ← pow_add]
        congr 2
        omega
      refine lt_of_le_of_lt ?_ small
      rw [← inside]
      exact Nat.le_mul_of_pos_right _ (by positivity)

end Number

end Reckoner
