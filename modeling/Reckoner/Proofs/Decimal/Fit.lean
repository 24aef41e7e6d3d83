import Mathlib.Tactic
import Reckoner.Proofs.Decimal.Value

/-!
# Fitting into a context

A result that is fitted has no more digits than the precision, and fails only by overflow. Fitting a
number with no more digits than that, and no digit out of range, keeps its value; a number below a
tenth of the largest power of ten always fits. So a unary minus loses nothing of a number that has
few digits, and any number of them can be applied to a number that is not too large.
-/

namespace Reckoner

/-! ## Rounding a quotient -/

theorem roundQuotient_le {n d k : ℕ} (below : n ≤ k * d) : roundQuotient n d ≤ k := by
  rcases Nat.eq_zero_or_pos d with rfl | positive
  · simp only [Nat.mul_zero, Nat.le_zero] at below
    subst below
    simp [roundQuotient]
  · have split := Nat.div_add_mod n d
    have rest := Nat.mod_lt n positive
    unfold roundQuotient
    simp only
    rcases Nat.lt_or_ge (n / d) k with small | large
    · split_ifs <;> omega
    · have exact_multiple : n % d = 0 := by
        have : d * k ≤ d * (n / d) := Nat.mul_le_mul_left d large
        rw [mul_comm k d] at below
        omega
      have : n / d ≤ k := by
        apply Nat.le_of_mul_le_mul_left _ positive
        rw [mul_comm d k]
        omega
      rw [exact_multiple, if_pos (by omega)]
      exact this

theorem roundQuotient_mul_right (k : ℕ) {d : ℕ} (positive : 0 < d) :
    roundQuotient (k * d) d = k := by
  unfold roundQuotient
  simp [Nat.mul_div_cancel k positive, positive]

theorem roundQuotient_le_self (n : ℕ) {d : ℕ} (positive : 0 < d) : roundQuotient n d ≤ n :=
  roundQuotient_le (Nat.le_mul_of_pos_right n positive)

namespace Number

variable {ctx : Context}

/-- Rounding by `drop` digits leaves at most the others, or a one with zeros behind. -/
theorem roundedBy_le_pow {coefficient drop width : ℕ}
    (digits : Numeral.digitCount coefficient ≤ width + drop) :
    roundedBy coefficient drop ≤ 10 ^ width := by
  unfold roundedBy
  split
  · exact Nat.zero_le _
  · apply roundQuotient_le
    have below := Numeral.lt_pow_digitCount coefficient
    have wide : 10 ^ Numeral.digitCount coefficient ≤ 10 ^ (width + drop) :=
      Nat.pow_le_pow_right (by decide) digits
    rw [Nat.pow_eq, ← pow_add]
    omega

theorem roundedBy_le_self (coefficient drop : ℕ) : roundedBy coefficient drop ≤ coefficient := by
  unfold roundedBy
  split
  · exact Nat.zero_le _
  · apply roundQuotient_le_self
    rw [Nat.pow_eq]
    positivity

/-- Zeros are dropped exactly. -/
theorem roundedBy_mul_pow {c : ℕ} (nonzero : c ≠ 0) (drop : ℕ) :
    roundedBy (c * 10 ^ drop) drop = c := by
  have := Numeral.digitCount_mul_pow c drop nonzero
  unfold roundedBy
  rw [if_neg (by omega), Nat.pow_eq, roundQuotient_mul_right c (by positivity)]

/-! ## Results that fit -/

/-- Whether a number has no more digits than the precision, and no digit out of range. -/
structure Fits (ctx : Context) (x : Number) : Prop where
  digits : x.coefficient < 10 ^ ctx.precision
  lowest : x.coefficient ≠ 0 → ctx.etiny ≤ x.exponent
  highest : x.coefficient ≠ 0 → x.adjusted ≤ ctx.emax

theorem Fits.isShort {x : Number} (fits : x.Fits ctx) : x.IsShort ctx.precision :=
  ⟨x.coefficient, 0, fits.digits, by simp⟩

theorem fit_of_coefficient_eq_zero {x : Number} (zero : x.coefficient = 0) :
    fit ctx x = .ok { x with exponent := max ctx.etiny (min ctx.emax x.exponent) } := by
  rw [fit, if_pos zero]

theorem exponent_le_fitExponent (x : Number) : x.exponent ≤ x.fitExponent ctx := by
  unfold fitExponent
  omega

/-- The digits that are left where `x` is rounded are no more than the precision. -/
theorem digitCount_le_of_fitExponent (x : Number) :
    x.digitCount ≤ ctx.precision + (x.fitExponent ctx - x.exponent).toNat := by
  unfold fitExponent adjusted
  omega

/-- What is left of the coefficient where `x` is rounded. -/
def kept (ctx : Context) (x : Number) : ℕ :=
  roundedBy x.coefficient (x.fitExponent ctx - x.exponent).toNat

/-- `x` rounded to the digits that the context keeps, whatever exponent that takes. -/
def rounded (ctx : Context) (x : Number) : Number :=
  if x.kept ctx = 10 ^ ctx.precision then
    { x with coefficient := 10 ^ (ctx.precision - 1), exponent := x.fitExponent ctx + 1 }
  else { x with coefficient := x.kept ctx, exponent := x.fitExponent ctx }

/-- A number other than zero is rounded, and fails only where that takes it out of range. -/
theorem fit_eq {x : Number} (nonzero : x.coefficient ≠ 0) :
    fit ctx x =
      if ctx.emax < (x.rounded ctx).adjusted then .error .overflow else .ok (x.rounded ctx) := by
  have carry : (decide (ctx.precision < Numeral.digitCount (x.kept ctx)) &&
      decide (x.kept ctx = 10 ^ ctx.precision)) = decide (x.kept ctx = 10 ^ ctx.precision) := by
    by_cases power : x.kept ctx = 10 ^ ctx.precision
    · simp [power, Numeral.digitCount_pow_ten]
    · simp [power]
  unfold kept at carry
  unfold fit rounded kept
  rw [if_neg nonzero]
  simp only [Nat.pow_eq, carry, decide_eq_true_eq]

theorem coefficient_rounded_lt (positive : 0 < ctx.precision) (x : Number) :
    (x.rounded ctx).coefficient < 10 ^ ctx.precision := by
  have few : x.kept ctx ≤ 10 ^ ctx.precision := roundedBy_le_pow (digitCount_le_of_fitExponent x)
  unfold rounded
  split
  · exact Nat.pow_lt_pow_right (by decide) (by omega)
  · rename_i carry
    exact lt_of_le_of_ne few carry

theorem etiny_le_exponent_rounded (x : Number) : ctx.etiny ≤ (x.rounded ctx).exponent := by
  have tiny : ctx.etiny ≤ x.fitExponent ctx := by
    unfold fitExponent
    omega
  unfold rounded
  split
  · show ctx.etiny ≤ x.fitExponent ctx + 1
    omega
  · exact tiny

theorem fits_of_fit {x y : Number} (positive : 0 < ctx.precision) (fitted : fit ctx x = .ok y) :
    y.Fits ctx := by
  by_cases zero : x.coefficient = 0
  · rw [fit_of_coefficient_eq_zero zero] at fitted
    injection fitted with same
    subst same
    exact ⟨by simp [zero], fun nonzero => absurd zero nonzero, fun nonzero => absurd zero nonzero⟩
  · rw [fit_eq zero] at fitted
    split at fitted
    · cases fitted
    · rename_i room
      injection fitted with same
      subst same
      exact ⟨coefficient_rounded_lt positive x, fun _ => etiny_le_exponent_rounded x,
        fun _ => not_lt.mp room⟩

/-- Whether a number is a result that was fitted. -/
def IsFitted (ctx : Context) (y : Number) : Prop := ∃ x, fit ctx x = .ok y

theorem IsFitted.fits {y : Number} (positive : 0 < ctx.precision) (fitted : y.IsFitted ctx) :
    y.Fits ctx := by
  obtain ⟨x, fitted⟩ := fitted
  exact fits_of_fit positive fitted

/-- No digit of a fitted number is beyond the range, not even that of a zero. -/
theorem IsFitted.adjusted_le {y : Number} (positive : 0 < ctx.precision)
    (fitted : y.IsFitted ctx) : y.adjusted ≤ ctx.emax := by
  obtain ⟨x, fitted⟩ := fitted
  by_cases zero : x.coefficient = 0
  · rw [fit_of_coefficient_eq_zero zero] at fitted
    injection fitted with same
    subst same
    simp only [adjusted, digitCount, zero, Numeral.digitCount_zero, Context.etiny]
    omega
  · rw [fit_eq zero] at fitted
    split at fitted
    · cases fitted
    · rename_i room
      injection fitted with same
      exact same ▸ not_lt.mp room

theorem signal_of_fit {x : Number} {signal : Signal} (failed : fit ctx x = .error signal) :
    signal = .overflow := by
  by_cases zero : x.coefficient = 0
  · rw [fit_of_coefficient_eq_zero zero] at failed
    cases failed
  · rw [fit_eq zero] at failed
    split at failed
    · injection failed with same
      exact same.symm
    · cases failed

theorem negative_rounded (x : Number) : (x.rounded ctx).negative = x.negative := by
  unfold rounded
  split <;> rfl

theorem exponent_le_rounded (x : Number) : x.exponent ≤ (x.rounded ctx).exponent := by
  have higher : x.exponent ≤ x.fitExponent ctx := x.exponent_le_fitExponent
  unfold rounded
  split
  · show x.exponent ≤ x.fitExponent ctx + 1
    omega
  · exact higher

/-- Rounding loses nothing of a number that few digits in range can write, however it is written. -/
theorem magnitude_rounded {x : Number} (nonzero : x.coefficient ≠ 0) {c : ℕ} {k : ℤ}
    (few : c < 10 ^ ctx.precision) (lowest : ctx.etiny ≤ k) (same : x.magnitude = c * 10 ^ k) :
    (x.rounded ctx).magnitude = x.magnitude := by
  have same' : x.magnitude = (Number.mk false c k).magnitude := same
  have positive : c ≠ 0 := mt (coefficient_eq_zero_iff_of_magnitude_eq same').mpr nonzero
  have width := (Numeral.digitCount_le_iff positive).mpr few
  have top : x.adjusted = k + Numeral.digitCount c - 1 := adjusted_eq_of_magnitude_eq nonzero same'
  obtain ⟨drop, dropped⟩ : ∃ drop : ℕ, x.fitExponent ctx = x.exponent + drop :=
    ⟨(x.fitExponent ctx - x.exponent).toNat, by
      have : x.exponent ≤ x.fitExponent ctx := x.exponent_le_fitExponent
      omega⟩
  -- The digits that are dropped are zeros.
  obtain ⟨m, split⟩ : ∃ m, x.coefficient = m * 10 ^ drop := by
    rcases Int.le_total x.exponent k with lower | higher
    · have shape : x.coefficient = c * 10 ^ (k - x.exponent).toNat :=
        coefficient_of_magnitude_eq (x := ⟨false, c, k⟩) (y := x) lower same'.symm
      refine ⟨c * 10 ^ ((k - x.exponent).toNat - drop), ?_⟩
      have room : drop ≤ (k - x.exponent).toNat := by
        unfold fitExponent at dropped
        omega
      rw [shape, mul_assoc, ← pow_add]
      congr 2
      omega
    · have none : drop = 0 := by
        unfold fitExponent at dropped
        omega
      exact ⟨x.coefficient, by rw [none, pow_zero, Nat.mul_one]⟩
  have nonzero' : m ≠ 0 := by
    rintro rfl
    exact nonzero (by simpa using split)
  have left : x.kept ctx = m := by
    rw [kept, show (x.fitExponent ctx - x.exponent).toNat = drop by omega, split,
      roundedBy_mul_pow nonzero']
  have noCarry : m ≠ 10 ^ ctx.precision := by
    have few' : x.digitCount ≤ ctx.precision + (x.fitExponent ctx - x.exponent).toNat :=
      digitCount_le_of_fitExponent x
    have digits : Numeral.digitCount m ≤ ctx.precision := by
      rw [digitCount, split, Numeral.digitCount_mul_pow m _ nonzero'] at few'
      omega
    exact ((Numeral.digitCount_le_iff nonzero').mp digits).ne
  rw [rounded, left, if_neg noCarry]
  exact magnitude_shift x m drop _ split dropped _

theorem magnitude_rounded_of_isShort {x : Number} (nonzero : x.coefficient ≠ 0)
    (short : x.IsShort ctx.precision) (lowest : ctx.etiny ≤ x.exponent) :
    (x.rounded ctx).magnitude = x.magnitude := by
  obtain ⟨c, k, few, shape⟩ := short
  have shifted : x.magnitude = c * 10 ^ (k + x.exponent) := by
    rw [magnitude, shape, pow_ten_add, zpow_natCast]
    push_cast
    ring
  exact magnitude_rounded nonzero few (by omega) shifted

/-- A number with few digits that are all in range is fitted without loss. -/
theorem fit_of_isShort {x : Number} (nonzero : x.coefficient ≠ 0) (short : x.IsShort ctx.precision)
    (lowest : ctx.etiny ≤ x.exponent) (highest : x.adjusted ≤ ctx.emax) :
    ∃ y, fit ctx x = .ok y ∧ y.negative = x.negative ∧ y.magnitude = x.magnitude ∧
      x.exponent ≤ y.exponent := by
  have same := magnitude_rounded_of_isShort nonzero short lowest
  have top := adjusted_eq_of_magnitude_eq nonzero same.symm
  refine ⟨x.rounded ctx, ?_, negative_rounded x, same, exponent_le_rounded x⟩
  rw [fit_eq nonzero, if_neg (not_lt.mpr (top ▸ highest))]

/-- A number with few digits of which the highest is beyond the range overflows. -/
theorem fit_overflow_of_isShort {x : Number} (nonzero : x.coefficient ≠ 0)
    (short : x.IsShort ctx.precision) (lowest : ctx.etiny ≤ x.exponent)
    (beyond : ctx.emax < x.adjusted) : fit ctx x = .error .overflow := by
  have same := magnitude_rounded_of_isShort nonzero short lowest
  have top := adjusted_eq_of_magnitude_eq nonzero same.symm
  rw [fit_eq nonzero, if_pos (top ▸ beyond)]

/-- A number other than zero that fits is fitted as it is. -/
theorem Fits.fit_eq_self {x : Number} (nonzero : x.coefficient ≠ 0) (fits : x.Fits ctx) :
    fit ctx x = .ok x := by
  have width := (Numeral.digitCount_le_iff nonzero).mpr fits.digits
  have lowest := fits.lowest nonzero
  have same : x.fitExponent ctx = x.exponent := by
    unfold fitExponent adjusted digitCount
    omega
  have left : x.kept ctx = x.coefficient := by
    have := roundedBy_mul_pow nonzero 0
    rw [pow_zero, Nat.mul_one] at this
    rw [kept, same, Int.sub_self, Int.toNat_zero, this]
  have result : x.rounded ctx = x := by
    rw [rounded, left, if_neg fits.digits.ne, same]
  rw [fit_eq nonzero, result, if_neg (not_lt.mpr (fits.highest nonzero))]

/-- Rounding raises the highest digit by one place at most, or to the lowest place that is kept. -/
theorem adjusted_rounded_le (positive : 0 < ctx.precision) (x : Number) :
    (x.rounded ctx).adjusted ≤ max (x.adjusted + 1) ctx.etiny := by
  obtain ⟨drop, dropped⟩ : ∃ drop : ℕ, x.fitExponent ctx = x.exponent + drop :=
    ⟨(x.fitExponent ctx - x.exponent).toNat, by
      have : x.exponent ≤ x.fitExponent ctx := x.exponent_le_fitExponent
      omega⟩
  have left : x.kept ctx = roundedBy x.coefficient drop := by
    rw [kept, show (x.fitExponent ctx - x.exponent).toNat = drop by omega]
  have highest : x.adjusted = x.exponent + x.digitCount - 1 := rfl
  rcases Nat.lt_or_ge x.digitCount drop with all | some
  · -- Nothing is left, and only the lowest place can lie that high.
    have nothing : x.kept ctx = 0 := by
      rw [left, roundedBy, if_pos (show Numeral.digitCount x.coefficient < drop from all)]
    have power : 0 ≠ 10 ^ ctx.precision := by positivity
    have lowest : x.fitExponent ctx ≤ ctx.etiny := by
      unfold fitExponent at dropped ⊢
      omega
    rw [rounded, nothing, if_neg power]
    simp only [adjusted, digitCount, Numeral.digitCount_zero]
    omega
  · have few : x.kept ctx ≤ 10 ^ (x.digitCount - drop) := by
      rw [left]
      apply roundedBy_le_pow
      show x.digitCount ≤ x.digitCount - drop + drop
      omega
    unfold rounded
    split
    · rename_i carry
      rw [carry, Nat.pow_le_pow_iff_right (by decide)] at few
      have width : Numeral.digitCount (10 ^ (ctx.precision - 1)) = ctx.precision := by
        rw [Numeral.digitCount_pow_ten]
        omega
      simp only [adjusted, digitCount, width]
      simp only [adjusted, digitCount] at highest few some
      omega
    · have width := Numeral.digitCount_le_of_le_pow few
      simp only [adjusted, digitCount]
      simp only [adjusted, digitCount] at highest few some width
      omega

/-- A number whose highest digit is below the highest place is fitted, even if it is rounded up. -/
theorem fit_of_adjusted_lt {x : Number} (positive : 0 < ctx.precision)
    (low : x.adjusted < ctx.emax) : ∃ y, fit ctx x = .ok y := by
  by_cases zero : x.coefficient = 0
  · exact ⟨_, fit_of_coefficient_eq_zero zero⟩
  · have high := adjusted_rounded_le positive x
    have lowest : ctx.etiny ≤ 0 := by
      unfold Context.etiny
      omega
    refine ⟨x.rounded ctx, ?_⟩
    rw [fit_eq zero, if_neg (by omega)]

/-! ## The unary minus -/

/-- The exact result of the unary minus: the other sign, and none on a zero. -/
def opposite (x : Number) : Number := { x with negative := x.coefficient != 0 && !x.negative }

theorem value_opposite (x : Number) : x.opposite.value = -x.value := by
  by_cases zero : x.coefficient = 0
  · rw [value_eq_zero_iff.mpr (show x.opposite.coefficient = 0 from zero),
      value_eq_zero_iff.mpr zero, neg_zero]
  · have sign : x.opposite.negative = !x.negative := by simp [opposite, zero]
    have same : x.opposite.magnitude = x.magnitude := rfl
    rw [value, value, sign, same, signed_not]

theorem fits_of_neg {x y : Number} (positive : 0 < ctx.precision) (minus : x.neg ctx = .ok y) :
    y.Fits ctx :=
  fits_of_fit positive minus

/-- The unary minus is exact on a number with few digits that are all in range. -/
theorem neg_of_isShort {x : Number} (nonzero : x.coefficient ≠ 0) (short : x.IsShort ctx.precision)
    (lowest : ctx.etiny ≤ x.exponent) (highest : x.adjusted ≤ ctx.emax) :
    ∃ y, x.neg ctx = .ok y ∧ y.value = -x.value ∧ x.exponent ≤ y.exponent := by
  obtain ⟨y, fitted, sign, same, higher⟩ :=
    fit_of_isShort (x := x.opposite) nonzero short lowest highest
  exact ⟨y, fitted, (value_eq_of_magnitude_eq sign same).trans x.value_opposite, higher⟩

/-- The unary minus overflows on a number with few digits of which the highest is beyond the
range. -/
theorem neg_overflow_of_isShort {x : Number} (nonzero : x.coefficient ≠ 0)
    (short : x.IsShort ctx.precision) (lowest : ctx.etiny ≤ x.exponent)
    (beyond : ctx.emax < x.adjusted) : x.neg ctx = .error .overflow :=
  fit_overflow_of_isShort (x := x.opposite) nonzero short lowest beyond

/-- A number that fits has an opposite that fits. -/
theorem Fits.exists_neg {x : Number} (positive : 0 < ctx.precision) (fits : x.Fits ctx) :
    ∃ y, x.neg ctx = .ok y ∧ y.Fits ctx := by
  by_cases zero : x.coefficient = 0
  · have minus : x.neg ctx = _ := fit_of_coefficient_eq_zero (x := x.opposite) zero
    exact ⟨_, minus, fits_of_neg positive minus⟩
  · obtain ⟨y, minus, -, -⟩ :=
      neg_of_isShort zero fits.isShort (fits.lowest zero) (fits.highest zero)
    exact ⟨y, minus, fits_of_neg positive minus⟩

end Number

end Reckoner
