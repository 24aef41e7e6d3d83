import Mathlib.Tactic
import Reckoner.Proofs.Decimal.Nearest

/-!
# How rounded decimals are shown

A decimal below the largest power of ten is rounded half to even, and what it is rounded to has one
shortest numeral, which is shown. So are zeros, whatever their sign. But the working precision makes
room for the digits down from the place of the highest one, and a zero can have its only digit so
high that there is no such precision.
-/

namespace Reckoner

/-- Whether a text is a positional numeral with no zero that could be left out, and no sign on a
zero. -/
def IsShortestNumeral (cs : List Char) : Prop := ∃ p : Positional, p.IsShortest ∧ p.text = cs

/-- A number has one shortest numeral. -/
theorem IsShortestNumeral.eq_of_value_eq {cs ds : List Char} (first : IsShortestNumeral cs)
    (second : IsShortestNumeral ds) (same : positionalValue cs = positionalValue ds) : cs = ds := by
  obtain ⟨p, shortest, rfl⟩ := first
  obtain ⟨q, shortest', rfl⟩ := second
  rw [Positional.positionalValue_text shortest.whole_plain shortest.whole_ne_nil,
    Positional.positionalValue_text shortest'.whole_plain shortest'.whole_ne_nil] at same
  rw [shortest.eq_of_value_eq shortest' same]

namespace Number

theorem isShortestNumeral_canonical (x : Number) : IsShortestNumeral x.canonical :=
  ⟨x.positional, x.isShortest_positional, x.canonical_eq_text.symm⟩

/-- A decimal at its places is shown as the one shortest numeral of its value rounded so. -/
theorem eq_canonical_atPlaces_iff (places : ℤ) (x : Number) (cs : List Char) :
    IsShortestNumeral cs ∧ IsRounding (max places 0) x.value (positionalValue cs) ↔
      cs = (x.atPlaces places).canonical := by
  have rounding := x.isRounding_atPlaces places
  rw [← positionalValue_canonical (x.atPlaces places)] at rounding
  constructor
  · rintro ⟨shortest, rounding'⟩
    exact shortest.eq_of_value_eq (isShortestNumeral_canonical _) (rounding'.unique rounding)
  · rintro rfl
    exact ⟨isShortestNumeral_canonical _, rounding⟩

/-- The working precision for a zero is within its limit unless the zero's exponent is too high. -/
theorem precisionFor_le_of_zero_iff {x : Number} (zero : x.coefficient = 0) (places : ℤ) :
    x.precisionFor places ≤ precisionLimit ↔ x.exponent + max places 0 + 2 < 10 ^ 18 := by
  have highest : x.adjusted = x.exponent := by
    rw [adjusted, digitCount, zero, Numeral.digitCount_zero]
    omega
  have limit : precisionLimit = 10 ^ 18 - 1 := by decide
  rw [precisionFor, roundingPrecision, limit, highest]
  omega

end Number

/-- A decimal below the largest power of ten is shown, to any number of places, as the one shortest
numeral of its value rounded half to even. Only a zero is not shown, if its exponent is so high that
the working precision for it is out of range. -/
theorem shown_in_one_way {x : Number} {places : ℤ} (most : places ≤ 999999)
    (small : |x.value| < 10 ^ 999999) :
    let shown := (Decimal.finite x).rounded .standard (.whole places)
    ((∃ text, shown = .ok text) ↔
      (x.coefficient = 0 → x.exponent + max places 0 + 2 < 10 ^ 18)) ∧
    ∀ text, shown = .ok text → ∀ cs,
      IsShortestNumeral cs ∧ IsRounding (max places 0) x.value (positionalValue cs) ↔
        cs = text := by
  intro shown
  rw [Number.abs_value] at small
  have room_of_shown {text : List Char} (success : shown = .ok text) :
      x.precisionFor places ≤ Number.precisionLimit :=
    Number.precisionFor_le_of_roundTo success
  have shown_of_room (room : x.precisionFor places ≤ Number.precisionLimit) :
      shown = .ok (x.atPlaces places).canonical := Number.roundTo_of_room most small room
  refine ⟨⟨?_, ?_⟩, ?_⟩
  · rintro ⟨text, success⟩ zero
    exact (Number.precisionFor_le_of_zero_iff zero places).mp (room_of_shown success)
  · intro near
    refine ⟨_, shown_of_room ?_⟩
    by_cases zero : x.coefficient = 0
    · exact (Number.precisionFor_le_of_zero_iff zero places).mpr (near zero)
    · exact Number.precisionFor_le_of_small most small zero
  · intro text success
    rw [shown_of_room (room_of_shown success)] at success
    injection success with same
    subst same
    exact x.eq_canonical_atPlaces_iff places

/-- A tie that carries into a new digit: `-9.95` to one place. -/
theorem shown_in_one_way_carry :
    let x : Number := ⟨true, 995, -2⟩
    (1 : ℤ) ≤ 999999 ∧ |x.value| < 10 ^ 999999 ∧
      (Decimal.finite x).rounded .standard (.whole 1) = .ok "-10".toList ∧
      ∀ cs, IsShortestNumeral cs ∧ IsRounding 1 x.value (positionalValue cs) ↔
        cs = "-10".toList := by
  intro x
  have most : (1 : ℤ) ≤ 999999 := by decide
  have small : |x.value| < 10 ^ 999999 := by
    have large : (10 : ℚ) < 10 ^ 999999 := lt_self_pow₀ (by norm_num) (by decide)
    refine lt_trans ?_ large
    norm_num [x, Number.value, Number.magnitude, signed, abs_lt]
  have shown : (Decimal.finite x).rounded .standard (.whole 1) = .ok "-10".toList := by
    decide +kernel
  obtain ⟨-, unique⟩ := shown_in_one_way most small
  exact ⟨most, small, shown, unique _ shown⟩

/-- A zero that is read, but asks for a working precision out of range. -/
theorem rounded_of_high_zero :
    let x : Number := ⟨false, 0, 999999999999999999⟩
    Decimal.ofText "0E+999999999999999999".toList = .ok (.finite x) ∧ x.value = 0 ∧
      (Decimal.finite x).rounded .standard (.whole 10) = .error (.places .precisionRange) := by
  intro x
  refine ⟨by decide +kernel, ?_, by decide +kernel⟩
  exact Number.value_eq_zero_iff.mpr rfl

end Reckoner
