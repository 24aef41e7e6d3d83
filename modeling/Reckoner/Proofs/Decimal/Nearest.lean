import Mathlib.Tactic
import Reckoner.Proofs.Decimal.Places

/-!
# Rounding to the nearest

An integer is nearest to a rational number, and even where two are equally near. Bringing a decimal
to its places rounds its value so, and the result is shown unless it is too large.
-/

namespace Reckoner

/-- Whether `m` is the integer nearest to `q`, and the even one of two that are equally near. -/
structure IsNearestEven (q : ℚ) (m : ℤ) : Prop where
  near : |q - m| ≤ 1 / 2
  even : |q - m| = 1 / 2 → Even m

/-- Whether `r` is `q` rounded to a number of places, half to even. -/
def IsRounding (places : ℤ) (q r : ℚ) : Prop :=
  ∃ m : ℤ, IsNearestEven (q * 10 ^ places) m ∧ r = m / 10 ^ places

namespace IsNearestEven

theorem self (m : ℤ) : IsNearestEven m m := ⟨by simp, by simp⟩

theorem of_lt {q : ℚ} {m : ℤ} (near : |q - m| < 1 / 2) : IsNearestEven q m :=
  ⟨near.le, fun half => absurd half near.ne⟩

theorem neg {q : ℚ} {m : ℤ} (nearest : IsNearestEven q m) : IsNearestEven (-q) (-m) := by
  have same : |-q - ((-m : ℤ) : ℚ)| = |q - m| := by
    rw [← abs_neg]
    congr 1
    push_cast
    ring
  exact ⟨same ▸ nearest.near, fun half => (nearest.even (same ▸ half)).neg⟩

/-- Rounding does not fall below an integer. -/
theorem le_of_le {q : ℚ} {m k : ℤ} (nearest : IsNearestEven q m) (above : k ≤ q) : k ≤ m := by
  have near := (abs_le.mp nearest.near).2
  have : (k : ℚ) < m + 1 := by linarith
  exact_mod_cast Int.lt_add_one_iff.mp (by exact_mod_cast this)

/-- Two integers that are equally near are neighbours, of which one is even only. -/
theorem unique {q : ℚ} {m n : ℤ} (first : IsNearestEven q m) (second : IsNearestEven q n) :
    m = n := by
  by_contra different
  have apart : (1 : ℚ) ≤ |(m : ℚ) - n| := by
    exact_mod_cast Int.one_le_abs (sub_ne_zero.mpr different)
  have together : |(m : ℚ) - n| ≤ |q - m| + |q - n| := by
    rw [abs_sub_comm q m]
    exact abs_sub_le _ _ _
  have near := first.near
  have near' := second.near
  obtain ⟨a, rfl⟩ := first.even (by linarith)
  obtain ⟨b, rfl⟩ := second.even (by linarith)
  have neighbours : |a + a - (b + b)| ≤ 1 := by
    have : |((a + a : ℤ) : ℚ) - (b + b : ℤ)| ≤ 1 := by linarith
    exact_mod_cast this
  have := abs_le.mp neighbours
  omega

end IsNearestEven

/-- A number is rounded to places in one way. -/
theorem IsRounding.unique {places : ℤ} {q r s : ℚ} (first : IsRounding places q r)
    (second : IsRounding places q s) : r = s := by
  obtain ⟨m, nearest, rfl⟩ := first
  obtain ⟨n, nearest', rfl⟩ := second
  rw [nearest.unique nearest']

theorem isNearestEven_roundQuotient (n : ℕ) {d : ℕ} (positive : 0 < d) :
    IsNearestEven (n / d) (roundQuotient n d) := by
  have parts := Nat.div_add_mod n d
  have rest := Nat.mod_lt n positive
  unfold roundQuotient
  simp only
  generalize n / d = quotient at parts
  generalize n % d = remainder at parts rest
  have divisor : (0 : ℚ) < d := by exact_mod_cast positive
  have split : (n : ℚ) / d = quotient + remainder / d := by
    rw [← parts]
    push_cast
    field_simp
  have nonnegative : (0 : ℚ) ≤ remainder / d := by positivity
  rw [split]
  split_ifs with below above
  · have half : (remainder : ℚ) / d < 1 / 2 := by
      rw [div_lt_div_iff₀ divisor (by norm_num)]
      exact_mod_cast (by omega : remainder * 2 < 1 * d)
    apply IsNearestEven.of_lt
    rw [Int.cast_natCast, add_sub_cancel_left, abs_of_nonneg nonnegative]
    exact half
  · have half : 1 / 2 < (remainder : ℚ) / d := by
      rw [div_lt_div_iff₀ (by norm_num) divisor]
      exact_mod_cast (by omega : 1 * d < remainder * 2)
    have small : (remainder : ℚ) / d < 1 := by
      rw [div_lt_one divisor]
      exact_mod_cast rest
    apply IsNearestEven.of_lt
    push_cast
    rw [abs_lt]
    constructor <;> linarith
  · -- The quotient lies in the middle, and its last bit takes it to the even neighbour.
    have half : (remainder : ℚ) / d = 1 / 2 := by
      rw [div_eq_div_iff divisor.ne' (by norm_num)]
      exact_mod_cast (by omega : remainder * 2 = 1 * d)
    have even : Even ((quotient + quotient % 2 : ℕ) : ℤ) := by
      rw [Int.even_coe_nat, Nat.even_iff]
      omega
    refine ⟨?_, fun _ => even⟩
    rw [half]
    rcases Nat.mod_two_eq_zero_or_one quotient with low | high
    · rw [low]
      norm_num
    · rw [high]
      push_cast
      norm_num

namespace Number

theorem isNearestEven_roundedBy (coefficient drop : ℕ) :
    IsNearestEven (coefficient / 10 ^ drop) (roundedBy coefficient drop) := by
  unfold roundedBy
  split
  · rename_i short
    have below := Numeral.lt_pow_digitCount coefficient
    have width : 10 ^ Numeral.digitCount coefficient * 10 ≤ 10 ^ drop := by
      rw [← pow_succ]
      exact Nat.pow_le_pow_right (by decide) short
    have small : (coefficient : ℚ) / 10 ^ drop < 1 / 2 := by
      rw [div_lt_div_iff₀ (by positivity) (by norm_num)]
      exact_mod_cast (by omega : coefficient * 2 < 1 * 10 ^ drop)
    have nonnegative : (0 : ℚ) ≤ (coefficient : ℚ) / 10 ^ drop := by positivity
    apply IsNearestEven.of_lt
    rw [Nat.cast_zero, Int.cast_zero, sub_zero, abs_of_nonneg nonnegative]
    exact small
  · have nearest := isNearestEven_roundQuotient coefficient (Nat.pow_pos (n := drop)
      (show 0 < 10 by decide))
    rw [Nat.cast_pow, Nat.cast_ofNat] at nearest
    exact nearest

/-- Another exponent rounds the magnitude to the nearest multiple of its power of ten. -/
theorem isNearestEven_roundedAt (x : Number) (exponent : ℤ) :
    IsNearestEven (x.magnitude * 10 ^ (-exponent)) (x.roundedAt exponent) := by
  have moved : x.magnitude * 10 ^ (-exponent) = x.coefficient * 10 ^ (x.exponent - exponent) := by
    rw [magnitude, mul_assoc, ← pow_ten_add, sub_eq_add_neg]
  rw [moved]
  unfold roundedAt
  split
  · obtain ⟨k, difference⟩ : ∃ k : ℕ, x.exponent - exponent = k :=
      ⟨(x.exponent - exponent).toNat, by omega⟩
    rw [difference, Int.toNat_natCast, zpow_natCast]
    have whole := IsNearestEven.self (x.coefficient * 10 ^ k : ℕ)
    rw [Int.cast_natCast, Nat.cast_mul, Nat.cast_pow, Nat.cast_ofNat] at whole
    exact whole
  · obtain ⟨drop, difference⟩ : ∃ drop : ℕ, exponent - x.exponent = drop :=
      ⟨(exponent - x.exponent).toNat, by omega⟩
    have power : (10 : ℚ) ^ (x.exponent - exponent) = (10 ^ drop)⁻¹ := by
      rw [← neg_sub, difference, zpow_neg, zpow_natCast]
    rw [difference, Int.toNat_natCast, power, ← div_eq_mul_inv]
    exact isNearestEven_roundedBy x.coefficient drop

/-- What another exponent makes of a number, with the same sign, is its value rounded half to
even. -/
theorem isRounding_of_roundedAt {x y : Number} {places : ℤ} (sign : y.negative = x.negative)
    (magnitude : y.magnitude = x.roundedAt (-places) * 10 ^ (-places)) :
    IsRounding places x.value y.value := by
  have nearest := x.isNearestEven_roundedAt (-places)
  rw [neg_neg] at nearest
  rw [zpow_neg, ← div_eq_mul_inv] at magnitude
  cases negative : x.negative with
  | false =>
      refine ⟨x.roundedAt (-places), ?_, ?_⟩
      · rw [value, negative]
        exact nearest
      · rw [value, sign, negative, Int.cast_natCast]
        exact magnitude
  | true =>
      refine ⟨-x.roundedAt (-places), ?_, ?_⟩
      · rw [value, negative, signed, if_pos rfl, neg_mul]
        exact nearest.neg
      · rw [value, sign, negative, signed, if_pos rfl, magnitude]
        push_cast
        ring

/-- A decimal at its places is its value rounded half to even. -/
theorem isRounding_atPlaces (places : ℤ) (x : Number) :
    IsRounding (max places 0) x.value (x.atPlaces places).value :=
  isRounding_of_roundedAt rfl rfl

/-- Rounding to places does not fall below a power of ten. -/
theorem pow_le_magnitude_atPlaces {x : Number} {j : ℕ} (places : ℤ) (above : 10 ^ j ≤ x.magnitude) :
    10 ^ j ≤ (x.atPlaces places).magnitude := by
  obtain ⟨k, places'⟩ : ∃ k : ℕ, max places 0 = k := ⟨(max places 0).toNat, by omega⟩
  have nearest := x.isNearestEven_roundedAt (-max places 0)
  rw [neg_neg, places', zpow_natCast] at nearest
  have whole : ((10 ^ j * 10 ^ k : ℤ) : ℚ) ≤ x.magnitude * 10 ^ k := by
    push_cast
    exact mul_le_mul_of_nonneg_right above (by positivity)
  have rounded := nearest.le_of_le whole
  show _ ≤ ((x.roundedAt (-max places 0) : ℕ) : ℚ) * 10 ^ (-max places 0)
  rw [places', zpow_neg, zpow_natCast, ← div_eq_mul_inv, le_div_iff₀ (by positivity)]
  exact_mod_cast rounded

/-- The working precision for rounding a decimal below the largest power of ten is within its
limit, unless it is that for a zero. -/
theorem precisionFor_le_of_small {x : Number} {places : ℤ} (most : places ≤ 999999)
    (small : x.magnitude < 10 ^ 999999) (nonzero : x.coefficient ≠ 0) :
    x.precisionFor places ≤ precisionLimit := by
  have low := (adjusted_lt_iff nonzero ((999999 : ℕ) : ℤ)).mpr (by rwa [zpow_natCast])
  have : (3000000 : ℤ) ≤ precisionLimit := by decide
  unfold precisionFor roundingPrecision
  omega

/-- A decimal below the largest power of ten is rounded and shown, within the limit of the working
precision. -/
theorem roundTo_of_room {x : Number} {places : ℤ} (most : places ≤ 999999)
    (small : x.magnitude < 10 ^ 999999) (room : x.precisionFor places ≤ precisionLimit) :
    x.roundTo .standard places = .ok (x.atPlaces places).canonical := by
  have near : ¬(x.coefficient ≠ 0 ∧ 999999 < (x.atPlaces places).adjusted) := by
    rintro ⟨nonzero, far⟩
    have low := (adjusted_lt_iff nonzero ((999999 : ℕ) : ℤ)).mpr (by rwa [zpow_natCast])
    have width := digitCount_atPlaces_le nonzero places
    have highest : (x.atPlaces places).adjusted =
        -max places 0 + (x.atPlaces places).digitCount - 1 := rfl
    omega
  rw [roundTo_eq most room, if_neg near]

/-- A decimal below the largest power of ten is rounded and shown; a zero must be in range. -/
theorem roundTo_of_small {x : Number} {places : ℤ} (most : places ≤ 999999)
    (small : x.magnitude < 10 ^ 999999) (zero : x.coefficient = 0 → x.adjusted ≤ 999999) :
    x.roundTo .standard places = .ok (x.atPlaces places).canonical := by
  refine roundTo_of_room most small ?_
  by_cases none : x.coefficient = 0
  · have inRange := zero none
    have : (3000000 : ℤ) ≤ precisionLimit := by decide
    unfold precisionFor roundingPrecision
    omega
  · exact precisionFor_le_of_small most small none

/-- Rounding a decimal fails only where the result is too large; a zero must be in range. -/
theorem le_magnitude_of_roundTo {x : Number} {places : ℤ} {e : CalculationError}
    (most : places ≤ 999999) (zero : x.coefficient = 0 → x.adjusted ≤ 999999)
    (failed : x.roundTo .standard places = .error e) :
    10 ^ 1000000 ≤ (x.atPlaces places).magnitude := by
  have largest : (10 : ℚ) ^ 1000000 = 10 ^ ((1000000 : ℕ) : ℤ) := (zpow_natCast _ _).symm
  by_cases room : x.precisionFor places ≤ precisionLimit
  · rw [roundTo_eq most room] at failed
    split at failed
    · rename_i far
      have nonzero : (x.atPlaces places).coefficient ≠ 0 := by
        intro zero
        have highest : (x.atPlaces places).adjusted = -max places 0 + 1 - 1 := by
          rw [adjusted, digitCount, zero, Numeral.digitCount_zero]
          rfl
        omega
      rw [largest]
      refine le_trans ?_ (pow_adjusted_le nonzero)
      exact zpow_le_zpow_right₀ (by norm_num) (by omega)
    · cases failed
  · have high : 1000000 ≤ x.adjusted := by
      have : (3000000 : ℤ) ≤ precisionLimit := by decide
      unfold precisionFor roundingPrecision at room
      omega
    have nonzero : x.coefficient ≠ 0 := fun none => by
      have := zero none
      omega
    have above : (10 : ℚ) ^ ((1000000 : ℕ) : ℤ) ≤ x.magnitude :=
      le_trans (zpow_le_zpow_right₀ (by norm_num) high) (pow_adjusted_le nonzero)
    rw [← largest] at above
    exact pow_le_magnitude_atPlaces places above

end Number

end Reckoner
