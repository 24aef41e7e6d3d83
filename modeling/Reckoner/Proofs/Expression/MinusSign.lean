import Mathlib.Tactic
import Reckoner.Proofs.Decimal.Opposite
import Reckoner.Proofs.Expression.RoundTrip

/-!
# A minus before a number

A number that stands alone is shown with all of its digits. With a minus before it, it is first
rounded to the digits that the context keeps, and shown with what that leaves of it.
-/

namespace Reckoner

variable {ctx : Context} {cs : List Char} {x : Number} {places : ℤ}

/-- A number that stands alone is its value, with all of its digits. -/
theorem evaluate_of_tokens_number (read : tokens cs = .ok [.number x]) :
    evaluate ctx cs = .ok (.finite x) := by
  have parsed : parse ctx cs = .ok (Tree.ofChain ⟨x, []⟩) :=
    parse_of_spelling (s := ⟨⟨[], x⟩, []⟩) read ⟨rfl, .nil⟩
  rw [evaluate, parsed]
  rfl

/-- A minus before it is the operation. -/
theorem evaluate_minus_of_tokens_number {y : Number} (read : tokens cs = .ok [.number x])
    (minus : x.neg ctx = .ok y) : evaluate ctx ('-' :: cs) = .ok (.finite y) := by
  have read' : tokens ('-' :: cs) = .ok [.operator .sub, .number x] := by
    rw [show '-' = Operator.sub.symbol from rfl, tokens_cons_operator, read]
    rfl
  have denotes : SignedNumber.Denotes ctx ⟨[true], x⟩ y := by
    show x.negated ctx 1 = .ok y
    rw [negated_succ 0 minus]
    rfl
  have parsed : parse ctx ('-' :: cs) = .ok (Tree.ofChain ⟨y, []⟩) :=
    parse_of_spelling (s := ⟨⟨[true], x⟩, []⟩) read' ⟨denotes, .nil⟩
  rw [evaluate, parsed]
  rfl

/-- Whether a minus before a text changes only the sign of its result. -/
def MinusChangesSignOnly (places : ℤ) (cs : List Char) : Prop :=
  ∃ text, calculate .standard (.whole places) cs = .ok text ∧
    calculate .standard (.whole places) ('-' :: cs) = .ok (minusText text)

section Literal

variable (read : tokens cs = .ok [.number x]) (small : x.value < 10 ^ 999999) (whole : 0 ≤ places)
  (most : places ≤ 999999)

include read

theorem magnitude_eq_value_of_tokens : x.magnitude = x.value := by
  rw [Number.value, negative_of_mem_tokens read (List.mem_singleton.mpr rfl)]
  rfl

include small

theorem value_rounded_standard_iff :
    (x.rounded .standard).value = x.value ↔ Context.standard.Holds x.value := by
  refine Number.value_rounded_eq_iff (by decide) ?_
  rwa [Number.abs_value, magnitude_eq_value_of_tokens read]

include most

theorem calculate_number :
    calculate .standard (.whole places) cs = .ok (x.atPlaces places).canonical := by
  refine calculate_eq_ok_iff.mpr ⟨_, evaluate_of_tokens_number read, ?_⟩
  refine Number.roundTo_of_small most ?_ fun zero => ?_
  · rwa [magnitude_eq_value_of_tokens read]
  · obtain ⟨run, -, rfl⟩ := exists_ofRun_of_mem_tokens read (List.mem_singleton.mpr rfl)
    have low := exponent_ofRun_nonpos run
    rw [Number.adjusted, Number.digitCount, zero, Numeral.digitCount_zero]
    omega

include whole

theorem calculate_minus_number :
    calculate .standard (.whole places) ('-' :: cs) =
      .ok (minusText ((x.rounded .standard).atPlaces places).canonical) := by
  have unsigned := negative_of_mem_tokens read (List.mem_singleton.mpr rfl)
  obtain ⟨y, minus⟩ : ∃ y, x.neg .standard = .ok y :=
    Number.exists_neg_of_small (by decide) (by rwa [magnitude_eq_value_of_tokens read])
  refine calculate_eq_ok_iff.mpr ⟨_, evaluate_minus_of_tokens_number read minus, ?_⟩
  rw [← Number.canonical_of_neg unsigned minus]
  exact Number.IsFitted.roundTo_eq ⟨_, minus⟩ whole most

/-- The minus changes only the sign exactly where rounding to the digits of the context first does
not change what the number is rounded to. -/
theorem minusChangesSignOnly_iff :
    MinusChangesSignOnly places cs ↔
      ∃ r, IsRounding places x.value r ∧ IsRounding places (x.rounded .standard).value r := by
  have rounding (y : Number) := y.isRounding_atPlaces places
  rw [max_eq_left whole] at rounding
  unfold MinusChangesSignOnly
  rw [calculate_number read small most, calculate_minus_number read small whole most]
  constructor
  · rintro ⟨text, shown, shown'⟩
    injection shown with shown
    injection shown' with shown'
    have same : ((x.rounded .standard).atPlaces places).value = (x.atPlaces places).value := by
      rw [← Number.positionalValue_canonical, minusText_inj.mp shown', ← shown,
        Number.positionalValue_canonical]
    exact ⟨_, rounding x, same ▸ rounding (x.rounded .standard)⟩
  · rintro ⟨r, once, twice⟩
    have same : ((x.rounded .standard).atPlaces places).value = (x.atPlaces places).value := by
      rw [(rounding x).unique once, (rounding (x.rounded .standard)).unique twice]
    exact ⟨_, rfl, by rw [Number.canonical_eq_of_value_eq same]⟩

theorem minusChangesSignOnly_of_holds (held : Context.standard.Holds x.value) :
    MinusChangesSignOnly places cs := by
  have rounding := x.isRounding_atPlaces places
  rw [max_eq_left whole] at rounding
  rw [minusChangesSignOnly_iff read small whole most,
    (value_rounded_standard_iff read small).mpr held]
  exact ⟨_, rounding, rounding⟩

/-- Where every digit has a place, the second rounding does not hide what the first one loses. -/
theorem holds_of_minusChangesSignOnly (lower : -places ≤ x.exponent)
    (only : MinusChangesSignOnly places cs) : Context.standard.Holds x.value := by
  obtain ⟨r, once, twice⟩ := (minusChangesSignOnly_iff read small whole most).mp only
  have lower' : -places ≤ (x.rounded .standard).exponent := lower.trans x.exponent_le_rounded
  rw [← value_rounded_standard_iff read small, (Number.isRounding_self lower').unique twice,
    (Number.isRounding_self lower).unique once]

end Literal

/-- A number that stands alone is rounded to its places once. With a minus before it, it is rounded
to fifty digits first, and with that value `q` to its places. So the minus changes only the sign
exactly where both roundings have the same result. They have if the number is one of fifty digits,
and only then if all of its digits have a place. -/
theorem minus_rounds_number {cs : List Char} {x : Number} {places : ℤ}
    (read : tokens cs = .ok [.number x]) (small : x.value < 10 ^ 999999) (whole : 0 ≤ places)
    (most : places ≤ 999999) :
    ∃ q, IsRounding (min (49 - x.adjusted) 1000048) x.value q ∧
      (∃ text, calculate .standard (.whole places) cs = .ok text ∧
        IsShortestNumeral text ∧ IsRounding places x.value (positionalValue text)) ∧
      (∃ text, calculate .standard (.whole places) ('-' :: cs) = .ok (minusText text) ∧
        IsShortestNumeral text ∧ IsRounding places q (positionalValue text)) ∧
      (MinusChangesSignOnly places cs ↔
        ∃ r, IsRounding places x.value r ∧ IsRounding places q r) ∧
      (Context.standard.Holds x.value → MinusChangesSignOnly places cs) ∧
      (-places ≤ x.exponent → MinusChangesSignOnly places cs → Context.standard.Holds x.value) := by
  have fifty := Number.isRounding_rounded (by decide : 0 < Context.standard.precision) x
  rw [show ((Context.standard.precision : ℕ) : ℤ) - 1 = 49 by decide,
    show -Context.standard.etiny = 1000048 by decide] at fifty
  have shown (y : Number) := (y.eq_canonical_atPlaces_iff places _).mpr rfl
  rw [max_eq_left whole] at shown
  exact ⟨_, fifty, ⟨_, calculate_number read small most, shown x⟩,
    ⟨_, calculate_minus_number read small whole most, shown _⟩,
    minusChangesSignOnly_iff read small whole most,
    minusChangesSignOnly_of_holds read small whole most,
    holds_of_minusChangesSignOnly read small whole most⟩

/-- A tie, with and without a minus. -/
theorem minus_rounds_number_tie :
    tokens "0.125".toList = .ok [.number ⟨false, 125, -3⟩] ∧
      (Number.mk false 125 (-3)).value < 10 ^ 999999 ∧ MinusChangesSignOnly 2 "0.125".toList := by
  have read : tokens "0.125".toList = .ok [.number ⟨false, 125, -3⟩] := by decide +kernel
  have value : (Number.mk false 125 (-3)).value = 125 * 10 ^ (-3 : ℤ) := rfl
  have small : (Number.mk false 125 (-3)).value < 10 ^ 999999 := by
    have large : (10 : ℚ) < 10 ^ 999999 := lt_self_pow₀ (by norm_num) (by decide)
    refine lt_trans ?_ large
    rw [value]
    norm_num
  have held : Context.standard.Holds (Number.mk false 125 (-3)).value := by
    refine Context.holds_standard_iff.mpr ⟨⟨125, -3, by norm_num, by norm_num, value⟩, ?_⟩
    rwa [abs_of_nonneg (by rw [value]; norm_num)]
  have whole : (0 : ℤ) ≤ 2 := by decide
  obtain ⟨q, -, -, -, -, keeps, -⟩ := minus_rounds_number read small whole (by decide)
  exact ⟨read, small, keeps held⟩

/-- A number of fifty-one digits loses the last one to a minus. -/
theorem minus_loses_digits :
    let ones := List.replicate 51 '1'
    tokens ones = .ok [.number ⟨false, Numeral.valueOf ones, 0⟩] ∧
      (Number.mk false (Numeral.valueOf ones) 0).value < 10 ^ 999999 ∧
      calculate .standard (.whole 10) ones = .ok ones ∧
      calculate .standard (.whole 10) ('-' :: ones) =
        .ok ('-' :: (List.replicate 50 '1' ++ ['0'])) ∧
      ¬MinusChangesSignOnly 10 ones := by
  intro ones
  have read : tokens ones = .ok [.number ⟨false, Numeral.valueOf ones, 0⟩] := by decide +kernel
  have whole : calculate .standard (.whole 10) ones = .ok ones := by decide +kernel
  have lost : calculate .standard (.whole 10) ('-' :: ones) =
      .ok ('-' :: (List.replicate 50 '1' ++ ['0'])) := by decide +kernel
  refine ⟨read, ?_, whole, lost, ?_⟩
  · have nonzero : (Number.mk false (Numeral.valueOf ones) 0).coefficient ≠ 0 := by decide +kernel
    have low : (Number.mk false (Numeral.valueOf ones) 0).adjusted < ((999999 : ℕ) : ℤ) := by
      decide +kernel
    have small := (Number.adjusted_lt_iff nonzero _).mp low
    rwa [zpow_natCast] at small
  · rintro ⟨text, same, same'⟩
    rw [whole] at same
    injection same with same
    rw [lost, ← same] at same'
    revert same'
    decide +kernel

end Reckoner
