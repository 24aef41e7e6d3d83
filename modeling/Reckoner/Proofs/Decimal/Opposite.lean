import Mathlib.Tactic
import Reckoner.Proofs.Decimal.Exact
import Reckoner.Proofs.Decimal.Shown

/-!
# Opposites

The unary minus is an operation: it rounds its operand to the digits that the context keeps. What is
shown of a decimal and of its opposite differs in the sign only, so that everything else a minus
changes is what this rounding loses.
-/

namespace Reckoner

/-- The numeral of the opposite of a number that has no sign. A zero never has one. -/
def minusText (cs : List Char) : List Char := if cs = ['0'] then ['0'] else '-' :: cs

theorem minusText_inj {cs ds : List Char} : minusText cs = minusText ds ↔ cs = ds := by
  unfold minusText
  constructor
  · intro same
    split_ifs at same with first second second
    · rw [first, second]
    · simp at same
    · simp at same
    · simpa using same
  · rintro rfl
    rfl

namespace Number

variable {ctx : Context}

/-! ## Rounding to the digits of a context -/

theorem roundedBy_zero (coefficient : ℕ) : roundedBy coefficient 0 = coefficient := by
  have whole := roundQuotient_mul_right coefficient Nat.one_pos
  rw [Nat.mul_one] at whole
  rw [roundedBy, if_neg (Nat.not_lt_zero _)]
  exact whole

theorem coefficient_rounded_eq_zero {x : Number} (zero : x.coefficient = 0) :
    (x.rounded ctx).coefficient = 0 := by
  have nothing : x.kept ctx = 0 := by
    rw [kept, zero]
    exact Nat.le_zero.mp (roundedBy_le_self 0 _)
  have power : 0 ≠ 10 ^ ctx.precision := by positivity
  rw [rounded, nothing, if_neg power]

/-- The carry out of the highest digit changes how the rounded number is written only. -/
theorem magnitude_rounded_eq_kept (positive : 0 < ctx.precision) (x : Number) :
    (x.rounded ctx).magnitude = x.kept ctx * 10 ^ x.fitExponent ctx := by
  unfold rounded
  split
  · rename_i carry
    have digits : (10 : ℚ) ^ ctx.precision = 10 ^ (ctx.precision - 1) * 10 := by
      rw [← pow_succ, Nat.sub_add_cancel positive]
    rw [carry, magnitude, add_comm, pow_ten_add, zpow_one]
    push_cast
    rw [digits, mul_assoc]
  · rfl

/-- Rounding to the digits of a context is rounding to the place of the last one of them. -/
theorem isRounding_rounded (positive : 0 < ctx.precision) (x : Number) :
    IsRounding (min (ctx.precision - 1 - x.adjusted) (-ctx.etiny)) x.value
      (x.rounded ctx).value := by
  refine isRounding_of_roundedAt (negative_rounded x) ?_
  rw [magnitude_rounded_eq_kept positive, kept]
  generalize last : -min (ctx.precision - 1 - x.adjusted) (-ctx.etiny) = exponent
  have target : x.fitExponent ctx = max x.exponent exponent := by
    unfold fitExponent
    omega
  unfold roundedAt
  split
  · rename_i lower
    rw [target, max_eq_left lower, Int.sub_self, Int.toNat_zero, roundedBy_zero, Nat.pow_eq]
    let padded : Number := ⟨false, x.coefficient * 10 ^ (x.exponent - exponent).toNat, exponent⟩
    have lowered : x.exponent = padded.exponent + (x.exponent - exponent).toNat := by
      show x.exponent = exponent + _
      omega
    exact magnitude_shift padded _ _ _ rfl lowered false
  · rename_i higher
    rw [target, max_eq_right (by omega)]

theorem rounded_flipped (x : Number) : x.flipped.rounded ctx = (x.rounded ctx).flipped := by
  have left : x.flipped.kept ctx = x.kept ctx := rfl
  unfold rounded
  rw [left]
  split <;> rfl

theorem abs_signedCoefficient (x : Number) : |x.signedCoefficient| = x.coefficient := by
  unfold signedCoefficient
  split <;> simp

/-- Rounding loses nothing exactly of a number that the context holds. -/
theorem value_rounded_eq_iff (positive : 0 < ctx.precision) {x : Number}
    (small : |x.value| < 10 ^ ctx.emax) :
    (x.rounded ctx).value = x.value ↔ ctx.Holds x.value := by
  constructor
  · intro same
    refine ⟨⟨(x.rounded ctx).signedCoefficient, (x.rounded ctx).exponent, ?_,
      etiny_le_exponent_rounded x, ?_⟩, small⟩
    · rw [abs_signedCoefficient]
      exact_mod_cast coefficient_rounded_lt positive x
    · rw [← same, value_eq_signedCoefficient]
  · intro held
    by_cases zero : x.coefficient = 0
    · rw [value_eq_zero_iff.mpr zero, value_eq_zero_iff, coefficient_rounded_eq_zero zero]
    · obtain ⟨c, k, few, lowest, shape⟩ := held.abs_digits
      rw [abs_value] at shape
      exact value_eq_of_magnitude_eq (negative_rounded x) (magnitude_rounded zero few lowest shape)

/-- A number with no more places than are kept is rounded to itself. -/
theorem isRounding_self {x : Number} {places : ℤ} (lower : -places ≤ x.exponent) :
    IsRounding places x.value x.value := by
  obtain ⟨m, multiple⟩ := exists_multiple x.signedCoefficient lower
  rw [← value_eq_signedCoefficient, zpow_neg, ← div_eq_mul_inv] at multiple
  refine ⟨m, ?_, multiple⟩
  rw [multiple, div_mul_cancel₀ _ (pow_ten_pos places).ne']
  exact .self m

/-! ## What is shown of an opposite -/

theorem canonical_eq_zero_iff {x : Number} : x.canonical = ['0'] ↔ x.coefficient = 0 := by
  constructor
  · intro shown
    have zero : positionalValue ['0'] = (Number.mk false 0 0).value :=
      positionalValue_canonical ⟨false, 0, 0⟩
    rw [← value_eq_zero_iff, ← positionalValue_canonical, shown, zero, value_eq_zero_iff]
  · intro zero
    rw [canonical, if_pos zero]

/-- An opposite is shown with the same digits. -/
theorem canonical_flipped {x : Number} (unsigned : x.negative = false) :
    x.flipped.canonical = minusText x.canonical := by
  by_cases zero : x.coefficient = 0
  · have zero' : x.flipped.coefficient = 0 := zero
    rw [canonical_eq_zero_iff.mpr zero, canonical_eq_zero_iff.mpr zero']
    rfl
  · rw [minusText, if_neg (mt canonical_eq_zero_iff.mp zero)]
    simp only [canonical, flipped, unsigned, zero, if_false, Bool.not_false]
    split <;> rfl

theorem canonical_atPlaces_of_zero {x : Number} (zero : x.coefficient = 0) (places : ℤ) :
    (x.atPlaces places).canonical = ['0'] :=
  canonical_eq_zero_iff.mpr (roundedAt_zero zero _)

/-- The unary minus rounds a number without a sign, and its result is shown with the digits that are
left. -/
theorem canonical_of_neg {x y : Number} (unsigned : x.negative = false)
    (minus : x.neg ctx = .ok y) (places : ℤ) :
    (y.atPlaces places).canonical =
      minusText ((x.rounded ctx).atPlaces places).canonical := by
  have fitted : fit ctx x.opposite = .ok y := minus
  by_cases zero : x.coefficient = 0
  · rw [fit_of_coefficient_eq_zero (x := x.opposite) zero] at fitted
    injection fitted with same
    have zero' : y.coefficient = 0 := same ▸ zero
    rw [canonical_atPlaces_of_zero zero',
      canonical_atPlaces_of_zero (coefficient_rounded_eq_zero zero)]
    rfl
  · have opposite : x.opposite = x.flipped := by simp [opposite, flipped, zero]
    rw [fit_eq (x := x.opposite) zero] at fitted
    split at fitted
    · cases fitted
    · injection fitted with same
      have unsigned' : ((x.rounded ctx).atPlaces places).negative = false :=
        (negative_rounded x).trans unsigned
      rw [← same, opposite, rounded_flipped, ← canonical_flipped unsigned']
      rfl

/-- The unary minus has a result on every number below the largest power of ten. -/
theorem exists_neg_of_small {x : Number} (positive : 0 < ctx.precision)
    (small : x.magnitude < 10 ^ ctx.emax) : ∃ y, x.neg ctx = .ok y := by
  by_cases zero : x.coefficient = 0
  · exact ⟨_, fit_of_coefficient_eq_zero (x := x.opposite) zero⟩
  · have low := (adjusted_lt_iff zero (ctx.emax : ℤ)).mpr (by rwa [zpow_natCast])
    exact fit_of_adjusted_lt (x := x.opposite) positive low

/-- What was fitted is rounded to its places and shown. -/
theorem IsFitted.roundTo_eq {y : Number} {places : ℤ} (fitted : y.IsFitted .standard)
    (whole : 0 ≤ places) (most : places ≤ 999999) :
    y.roundTo .standard places = .ok (y.atPlaces places).canonical := by
  have positive : 0 < Context.standard.precision := by decide
  have highest : y.adjusted ≤ 999999 := fitted.adjusted_le positive
  by_cases lower : -places ≤ y.exponent
  · have shown := roundTo_of_le_exponent whole most lower highest
    rw [shown, (eq_canonical_of_roundTo most shown).1]
  · refine roundTo_of_small most ?_ fun _ => highest
    by_cases zero : y.coefficient = 0
    · rw [magnitude_eq_zero_iff.mpr zero]
      positivity
    · -- The highest of fifty digits that begin behind the point is before the fiftieth place.
      have width : y.digitCount ≤ 50 :=
        (Numeral.digitCount_le_iff zero).mpr (fitted.fits positive).digits
      have low : y.adjusted < ((999999 : ℕ) : ℤ) := by
        unfold adjusted
        omega
      rw [← zpow_natCast]
      exact (adjusted_lt_iff zero _).mp low

end Number

end Reckoner
