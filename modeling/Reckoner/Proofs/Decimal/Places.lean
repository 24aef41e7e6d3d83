import Mathlib.Tactic
import Reckoner.Expression.Calculate
import Reckoner.Proofs.Decimal.Fit
import Reckoner.Proofs.Decimal.Positional

/-!
# Rounding to places

Within the limits of the working precision a decimal is rounded to its places and shown, unless its
highest digit comes to lie beyond the largest exponent. A decimal that has no more places than that
is shown as it is.
-/

namespace Reckoner

namespace Number

/-- A decimal at a number of places, a negative one counting as none. -/
def atPlaces (places : ℤ) (x : Number) : Number :=
  { x with coefficient := x.roundedAt (-max places 0), exponent := -max places 0 }

/-- The working precision for rounding `x` is at least this. -/
theorem precisionFor_ge (x : Number) (places : ℤ) :
    128 ≤ x.precisionFor places ∧ x.adjusted + max places 0 + 2 ≤ x.precisionFor places := by
  unfold precisionFor roundingPrecision
  omega

theorem roundedAt_zero {x : Number} (zero : x.coefficient = 0) (exponent : ℤ) :
    x.roundedAt exponent = 0 := by
  unfold roundedAt
  split
  · rw [zero, Nat.zero_mul]
  · rw [zero]
    exact Nat.le_zero.mp (roundedBy_le_self 0 _)

/-- Rounding to places leaves one digit more at most than there are before and among the places. -/
theorem digitCount_atPlaces_le {x : Number} (nonzero : x.coefficient ≠ 0) (places : ℤ) :
    ((x.atPlaces places).digitCount : ℤ) ≤ max 1 (x.adjusted + max places 0 + 2) := by
  have highest : x.adjusted = x.exponent + x.digitCount - 1 := rfl
  unfold atPlaces digitCount roundedAt
  simp only
  split
  · have width := Numeral.digitCount_mul_pow x.coefficient
      (x.exponent - -max places 0).toNat nonzero
    rw [Nat.pow_eq, width]
    simp only [digitCount] at highest
    omega
  · rcases Nat.lt_or_ge x.digitCount (-max places 0 - x.exponent).toNat with all | some
    · rw [roundedBy, if_pos (show Numeral.digitCount x.coefficient < _ from all),
        Numeral.digitCount_zero]
      omega
    · have few : roundedBy x.coefficient (-max places 0 - x.exponent).toNat ≤
          10 ^ (x.digitCount - (-max places 0 - x.exponent).toNat) := by
        apply roundedBy_le_pow
        simp only [digitCount] at some ⊢
        omega
      have width := Numeral.digitCount_le_of_le_pow few
      simp only [digitCount] at highest some width
      omega

/-- The unit of the last place is a power of ten in every working precision. -/
theorem powerOfTen_neg {ctx : Context} {places : ℤ} (room : 128 ≤ ctx.precision)
    (whole : 0 ≤ places) (most : places ≤ ctx.emax) :
    powerOfTen ctx (-places) =
      .ok { negative := false, coefficient := 1, exponent := -places } := by
  have one : Numeral.digitCount 1 = 1 := Numeral.digitCount_pow_ten 0
  have fits : (Number.mk false 1 (-places)).Fits ctx :=
    ⟨Nat.one_lt_pow (by omega) (by decide),
      fun _ => by simp only [Context.etiny]; omega,
      fun _ => by simp only [adjusted, digitCount, one]; omega⟩
  rw [powerOfTen, if_neg (by omega), fits.fit_eq_self Nat.one_ne_zero]

/-- A decimal is brought to its places unless its highest digit then is beyond the range. -/
theorem quantize_eq {ctx : Context} {x : Number} {places : ℤ}
    (room : max 128 (x.adjusted + max places 0 + 2) ≤ ctx.precision) (most : places ≤ ctx.emax) :
    x.quantize ctx (-max places 0) =
      if x.coefficient ≠ 0 ∧ ctx.emax < (x.atPlaces places).adjusted then .error .invalidOperation
      else .ok (x.atPlaces places) := by
  have lowest : ctx.etiny ≤ -max places 0 := by
    unfold Context.etiny
    omega
  have inRange : (decide ((ctx.emax : ℤ) < -max places 0) ||
      decide (-max places 0 < ctx.etiny)) = false := by
    rw [Bool.or_eq_false_iff, decide_eq_false_iff_not, decide_eq_false_iff_not]
    omega
  unfold quantize
  rw [inRange, if_neg (by decide)]
  by_cases zero : x.coefficient = 0
  · rw [if_pos zero, if_neg (fun both => both.1 zero)]
    simp [atPlaces, roundedAt_zero zero, zero]
  · have width := digitCount_atPlaces_le zero places
    have highest : x.adjusted = x.exponent + x.digitCount - 1 := rfl
    have high : ctx.etiny ≤ (x.atPlaces places).adjusted := by
      have := (x.atPlaces places).digitCount_pos
      show ctx.etiny ≤ -max places 0 + (x.atPlaces places).digitCount - 1
      omega
    rw [if_neg zero, if_neg (by omega)]
    show (if (decide (ctx.precision < (x.atPlaces places).digitCount) ||
        decide ((ctx.emax : ℤ) < (x.atPlaces places).adjusted) ||
        decide ((x.atPlaces places).adjusted < ctx.etiny)) = true then
      Except.error Signal.invalidOperation else Except.ok (x.atPlaces places)) = _
    rw [decide_eq_false (show ¬ctx.precision < (x.atPlaces places).digitCount by omega),
      decide_eq_false (show ¬(x.atPlaces places).adjusted < ctx.etiny by omega)]
    simp [zero]

/-- Within the limit of the working precision, rounding fails only where the result is beyond the
largest exponent. -/
theorem roundTo_eq {x : Number} {places : ℤ} (most : places ≤ 999999)
    (room : x.precisionFor places ≤ precisionLimit) :
    x.roundTo .standard places =
      if x.coefficient ≠ 0 ∧ 999999 < (x.atPlaces places).adjusted then
        .error (.arithmetic .invalidOperation)
      else .ok (x.atPlaces places).canonical := by
  have needed := x.precisionFor_ge places
  have word : precisionLimit < Nat.pow 2 63 := by decide
  have few : ¬placesLimit < places := by
    have : (999999 : ℤ) ≤ placesLimit := by decide
    omega
  have unit : (if places < 0 then Except.ok (ofNat 1) else
      powerOfTen { Context.standard with precision := (x.precisionFor places).toNat } (-places)) =
      .ok { negative := false, coefficient := 1, exponent := -max places 0 } := by
    split
    · rw [max_eq_right (by omega)]
      rfl
    · rw [max_eq_left (by omega), powerOfTen_neg (by simp only; omega) (by omega) most]
  have quantized :
      x.quantize { Context.standard with precision := (x.precisionFor places).toNat }
        (-max places 0) = _ :=
    quantize_eq (by simp only; omega) most
  have largest : ((Context.standard.emax : ℕ) : ℤ) = 999999 := rfl
  simp only [largest] at quantized
  rw [roundTo, if_neg (by omega), if_neg (by omega), roundWith]
  simp only [unit, few, decide_false, Bool.and_false, Bool.false_eq_true, if_false, quantized]
  by_cases far : x.coefficient ≠ 0 ∧ 999999 < (x.atPlaces places).adjusted
  · rw [if_pos far, if_pos far]
  · rw [if_neg far, if_neg far]

/-- A number that is rounded with a working precision is shown as some decimal. -/
theorem exists_canonical_of_roundWith {ctx : Context} {precision : ℕ} {places : ℤ} {x : Number}
    {text : List Char} (shown : x.roundWith ctx precision places = .ok text) :
    ∃ y : Number, text = y.canonical := by
  unfold roundWith at shown
  simp only at shown
  split at shown
  · cases shown
  · split at shown
    · cases shown
    · split at shown
      · cases shown
      · rename_i y quantized
        injection shown with same
        exact ⟨y, same.symm⟩

theorem exists_canonical_of_roundTo {ctx : Context} {places : ℤ} {x : Number} {text : List Char}
    (shown : x.roundTo ctx places = .ok text) : ∃ y : Number, text = y.canonical := by
  unfold roundTo at shown
  simp only at shown
  split at shown
  · cases shown
  · split at shown
    · cases shown
    · exact exists_canonical_of_roundWith shown

theorem exists_canonical_of_roundToFraction {ctx : Context} {places : Float} {x : Number}
    {text : List Char} (shown : x.roundToFraction ctx places = .ok text) :
    ∃ y : Number, text = y.canonical := by
  unfold roundToFraction at shown
  split_ifs at shown
  · exact exists_canonical_of_roundTo shown
  · exact exists_canonical_of_roundWith shown

/-- A result lies within the limit of the working precision. -/
theorem precisionFor_le_of_roundTo {x : Number} {places : ℤ} {text : List Char}
    (shown : x.roundTo .standard places = .ok text) : x.precisionFor places ≤ precisionLimit := by
  unfold roundTo at shown
  simp only at shown
  split at shown
  · cases shown
  · split at shown
    · cases shown
    · omega

/-- What a rounded decimal is shown as, and where its highest digit lies. -/
theorem eq_canonical_of_roundTo {x : Number} {places : ℤ} {text : List Char}
    (most : places ≤ 999999) (shown : x.roundTo .standard places = .ok text) :
    text = (x.atPlaces places).canonical ∧
      ((x.atPlaces places).coefficient ≠ 0 → (x.atPlaces places).adjusted ≤ 999999) := by
  rw [roundTo_eq most (precisionFor_le_of_roundTo shown)] at shown
  split at shown
  · cases shown
  · rename_i near
    injection shown with same
    refine ⟨same.symm, fun nonzero => ?_⟩
    by_contra far
    have nonzero' : x.coefficient ≠ 0 := fun zero => nonzero (roundedAt_zero zero _)
    exact near ⟨nonzero', by omega⟩

/-- A decimal with no more places than are kept is shown as it is. -/
theorem roundTo_of_le_exponent {x : Number} {places : ℤ} (whole : 0 ≤ places)
    (most : places ≤ 999999) (lower : -places ≤ x.exponent) (highest : x.adjusted ≤ 999999) :
    x.roundTo .standard places = .ok x.canonical := by
  have target : -max places 0 = -places := by omega
  have padded : (x.atPlaces places).coefficient =
      x.coefficient * 10 ^ (x.exponent - -places).toNat := by
    show x.roundedAt (-max places 0) = _
    rw [roundedAt, target, if_pos lower, Nat.pow_eq]
  have same : x.magnitude = (x.atPlaces places).magnitude := by
    apply magnitude_shift _ _ _ _ padded
    show x.exponent = -max places 0 + _
    omega
  have room : x.precisionFor places ≤ precisionLimit := by
    have : (3000000 : ℤ) ≤ precisionLimit := by decide
    unfold precisionFor roundingPrecision
    omega
  have near : ¬(x.coefficient ≠ 0 ∧ 999999 < (x.atPlaces places).adjusted) := by
    rintro ⟨nonzero, far⟩
    rw [← adjusted_eq_of_magnitude_eq nonzero same] at far
    omega
  have value : (x.atPlaces places).value = x.value := value_eq_of_magnitude_eq rfl same.symm
  rw [roundTo_eq most room, if_neg near, canonical_eq_of_value_eq value]

/-- Rounding leaves no more digits than there are, but for zeros behind them. -/
theorem isShort_atPlaces {x : Number} {limit : ℕ} (digits : x.coefficient < 10 ^ limit)
    (places : ℤ) : (x.atPlaces places).IsShort limit := by
  show ∃ c k : ℕ, c < 10 ^ limit ∧ x.roundedAt (-max places 0) = c * 10 ^ k
  unfold roundedAt
  split
  · exact ⟨_, _, digits, rfl⟩
  · rename_i higher
    have few := roundedBy_le_self x.coefficient (-max places 0 - x.exponent).toNat
    exact ⟨_, 0, few.trans_lt digits, by rw [pow_zero, Nat.mul_one]⟩

end Number

/-- Whatever the places, a value that is rounded is shown as some decimal. -/
theorem Decimal.exists_canonical_of_rounded {ctx : Context} {places : Places} {v : Decimal}
    {text : List Char} (shown : v.rounded ctx places = .ok text) :
    ∃ y : Number, text = y.canonical := by
  unfold rounded at shown
  split at shown
  · split at shown
    · exact Number.exists_canonical_of_roundTo shown
    · exact Number.exists_canonical_of_roundToFraction shown
    · cases shown
  · cases shown

end Reckoner
