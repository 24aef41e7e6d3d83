import Mathlib.Data.List.DropRight
import Mathlib.Tactic
import Reckoner.Decimal.Text
import Reckoner.Proofs.Decimal.Value

/-!
# Positional numerals

A positional numeral is a sign, digits, and maybe a point with more digits. It is shortest where no
zero could be left out and no zero has a sign. Every finite decimal is shown as the shortest numeral
of its value, and a value has one shortest numeral only.
-/

namespace Reckoner

/-- The digits before the point. -/
def wholePart (cs : List Char) : List Char := cs.takeWhile (· != '.')

/-- The digits behind the point. -/
def fractionPart (cs : List Char) : List Char := (cs.dropWhile (· != '.')).drop 1

/-- The point does not count for the digits of a numeral. -/
theorem valueOf_parts (cs : List Char) :
    Numeral.valueOf cs = Numeral.valueOf (wholePart cs ++ fractionPart cs) := by
  have point : Text.digitValue? '.' = none := by decide
  have split : wholePart cs ++ cs.dropWhile (· != '.') = cs := List.takeWhile_append_dropWhile
  have behind : (cs.dropWhile (· != '.')).filterMap Text.digitValue? =
      (fractionPart cs).filterMap Text.digitValue? := by
    unfold fractionPart
    cases rest : cs.dropWhile (· != '.') with
    | nil => rfl
    | cons c rest' =>
        have stop := List.head?_dropWhile_not (· != '.') cs
        rw [rest] at stop
        obtain rfl : c = '.' := by simpa using stop
        rw [List.filterMap_cons_none point, List.drop_one, List.tail_cons]
  unfold Numeral.valueOf Numeral.ofChars
  rw [List.filterMap_append, ← behind, ← List.filterMap_append, split]

/-- The number that a numeral without a sign writes: each digit behind the point counts a tenth of
what it would count before it. -/
def magnitudeOf (cs : List Char) : ℚ :=
  Numeral.valueOf (wholePart cs) +
    Numeral.valueOf (fractionPart cs) / 10 ^ (fractionPart cs).length

/-- The number that a positional numeral writes. -/
def positionalValue : List Char → ℚ
  | '-' :: cs => -magnitudeOf cs
  | cs => magnitudeOf cs

/-- A positional numeral in its parts. -/
structure Positional where
  negative : Bool
  whole : List Char
  fraction : List Char

namespace Positional

/-- The numeral without its sign. A point stands only before a digit. -/
def unsigned (p : Positional) : List Char :=
  p.whole ++ if p.fraction = [] then [] else '.' :: p.fraction

/-- The text of a numeral. -/
def text (p : Positional) : List Char := Number.withSign p.negative p.unsigned

/-- The number that a numeral without its sign denotes. -/
def magnitude (p : Positional) : ℚ :=
  Numeral.valueOf p.whole + Numeral.valueOf p.fraction / 10 ^ p.fraction.length

/-- The number that a numeral denotes. -/
def value (p : Positional) : ℚ := signed p.negative p.magnitude

/-- Whether a numeral consists of digits, has no zero that could be left out, and no sign on a
zero. -/
structure IsShortest (p : Positional) : Prop where
  whole_plain : ∀ c ∈ p.whole, Text.isPlainDigit c = true
  whole_ne_nil : p.whole ≠ []
  whole_leading : p.whole = ['0'] ∨ p.whole.head? ≠ some '0'
  fraction_plain : ∀ c ∈ p.fraction, Text.isPlainDigit c = true
  fraction_trailing : p.fraction.getLast? ≠ some '0'
  sign : p.negative = true → p.whole = ['0'] → p.fraction ≠ []

/-! ## The value of a text -/

theorem ne_point_of_plain {c : Char} (plain : Text.isPlainDigit c = true) : c ≠ '.' := by
  rintro rfl
  exact absurd plain (by decide)

theorem count_point_of_plain {cs : List Char} (plain : ∀ c ∈ cs, Text.isPlainDigit c = true) :
    cs.count '.' = 0 :=
  List.count_eq_zero.mpr fun member => ne_point_of_plain (plain '.' member) rfl

theorem wholePart_append {cs ds : List Char} (plain : ∀ c ∈ cs, Text.isPlainDigit c = true) :
    wholePart (cs ++ '.' :: ds) = cs ∧ fractionPart (cs ++ '.' :: ds) = ds := by
  have digits : ∀ c ∈ cs, (c != '.') = true := fun c member => by
    simpa using ne_point_of_plain (plain c member)
  unfold wholePart fractionPart
  rw [List.takeWhile_append_of_pos digits, List.dropWhile_append_of_pos digits]
  simp

theorem wholePart_of_plain {cs : List Char} (plain : ∀ c ∈ cs, Text.isPlainDigit c = true) :
    wholePart cs = cs ∧ fractionPart cs = [] := by
  have digits : ∀ c ∈ cs, (c != '.') = true := fun c member => by
    simpa using ne_point_of_plain (plain c member)
  unfold wholePart fractionPart
  rw [List.takeWhile_eq_self_iff.mpr digits, List.dropWhile_eq_nil_iff.mpr digits]
  simp

theorem parts_unsigned {p : Positional} (plain : ∀ c ∈ p.whole, Text.isPlainDigit c = true) :
    wholePart p.unsigned = p.whole ∧ fractionPart p.unsigned = p.fraction := by
  unfold unsigned
  split
  · rename_i none
    rw [List.append_nil, none]
    exact wholePart_of_plain plain
  · exact wholePart_append plain

theorem magnitudeOf_unsigned {p : Positional}
    (plain : ∀ c ∈ p.whole, Text.isPlainDigit c = true) : magnitudeOf p.unsigned = p.magnitude := by
  obtain ⟨whole, fraction⟩ := parts_unsigned plain
  rw [magnitudeOf, whole, fraction, magnitude]

theorem positionalValue_text {p : Positional} (plain : ∀ c ∈ p.whole, Text.isPlainDigit c = true)
    (filled : p.whole ≠ []) : positionalValue p.text = p.value := by
  unfold text value signed Number.withSign
  split
  · rw [positionalValue, magnitudeOf_unsigned plain]
  · obtain ⟨c, rest, shape⟩ := List.exists_cons_of_ne_nil filled
    have digit := plain c (by simp [shape])
    have notMinus : c ≠ '-' := by
      rintro rfl
      exact absurd digit (by decide)
    rw [← magnitudeOf_unsigned plain]
    unfold unsigned
    rw [shape, List.cons_append]
    unfold positionalValue
    split
    · rename_i same
      injection same with head
      exact absurd head notMinus
    · rfl

theorem magnitude_of_zero {p : Positional} (whole : p.whole = ['0']) (fraction : p.fraction = []) :
    p.magnitude = 0 := by
  have digit : Numeral.valueOf ['0'] = 0 := rfl
  simp [magnitude, whole, fraction, digit]

/-! ## One value, one shortest numeral -/

theorem magnitude_nonneg (p : Positional) : 0 ≤ p.magnitude := by
  unfold magnitude
  positivity

theorem abs_value (p : Positional) : |p.value| = p.magnitude := abs_signed _ p.magnitude_nonneg

theorem floor_magnitude (p : Positional) : ⌊p.magnitude⌋ = (Numeral.valueOf p.whole : ℤ) := by
  have below : (Numeral.valueOf p.fraction : ℚ) < 10 ^ p.fraction.length := by
    exact_mod_cast Numeral.valueOf_lt p.fraction
  rw [Int.floor_eq_iff, magnitude]
  constructor
  · push_cast
    have : (0 : ℚ) ≤ Numeral.valueOf p.fraction / 10 ^ p.fraction.length := by positivity
    linarith
  · push_cast
    have : (Numeral.valueOf p.fraction : ℚ) / 10 ^ p.fraction.length < 1 := by
      rw [div_lt_one (by positivity)]
      exact below
    linarith

/-- A fraction that ends in no zero is no longer than any other that writes the same. -/
theorem length_fraction_le {ds es : List Char} (plain : ∀ c ∈ es, Text.isPlainDigit c = true)
    (trailing : es.getLast? ≠ some '0')
    (same : Numeral.valueOf ds * 10 ^ es.length = Numeral.valueOf es * 10 ^ ds.length) :
    es.length ≤ ds.length := by
  by_contra longer
  obtain ⟨before, last, rfl⟩ : ∃ before last, es = before ++ [last] := by
    rcases List.eq_nil_or_concat es with rfl | ⟨before, last, shape⟩
    · simp at longer
    · exact ⟨before, last, by simpa using shape⟩
  have digit := plain last (by simp)
  have small := (Numeral.isPlainDigit_iff last).mp digit
  have tens : Numeral.valueOf (before ++ [last]) =
      Numeral.valueOf ds * 10 ^ ((before ++ [last]).length - ds.length - 1) * 10 := by
    apply Nat.eq_of_mul_eq_mul_right (Nat.pow_pos (n := ds.length) (show 0 < 10 by decide))
    rw [← same, mul_assoc, mul_assoc, ← pow_succ', ← pow_add]
    congr 2
    omega
  have digits : ∀ c ∈ [last], Text.isDigit c = true := by
    simpa only [List.mem_singleton, forall_eq] using Numeral.isDigit_of_plain digit
  have value := Numeral.valueOf_append before digits
  rw [Numeral.valueOf_singleton digit, List.length_singleton, pow_one] at value
  have zero : last.toNat - 48 = '0'.toNat - 48 := by
    simp
    omega
  apply trailing
  rw [List.getLast?_concat, Numeral.eq_of_toNat_sub_eq digit (by decide) zero]

/-- A shortest numeral of zero has no sign. -/
theorem IsShortest.not_negative_of_zero {p : Positional} (shortest : p.IsShortest)
    (zero : p.magnitude = 0) : p.negative = false := by
  have wholeValue : Numeral.valueOf p.whole = 0 := by
    have floor := p.floor_magnitude
    rw [zero, Int.floor_zero] at floor
    exact_mod_cast floor.symm
  have whole : p.whole = ['0'] := by
    rw [Numeral.eq_digits_valueOf shortest.whole_plain shortest.whole_ne_nil
      shortest.whole_leading, wholeValue, Numeral.digits_zero]
  have fractionValue : Numeral.valueOf p.fraction = 0 := by
    unfold magnitude at zero
    rw [wholeValue] at zero
    have power : (10 : ℚ) ^ p.fraction.length ≠ 0 := by positivity
    simpa [power] using zero
  have fraction : p.fraction = [] := by
    have none : p.fraction.length ≤ ([] : List Char).length :=
      length_fraction_le shortest.fraction_plain shortest.fraction_trailing
        (by simp [fractionValue])
    exact List.length_eq_zero_iff.mp (Nat.le_zero.mp none)
  by_contra negative
  exact shortest.sign (by simpa using negative) whole fraction

theorem IsShortest.eq_of_value_eq {p q : Positional} (hp : p.IsShortest) (hq : q.IsShortest)
    (same : p.value = q.value) : p = q := by
  have magnitudes : p.magnitude = q.magnitude := by rw [← abs_value, ← abs_value, same]
  have wholeValues : Numeral.valueOf p.whole = Numeral.valueOf q.whole := by
    have := congrArg Int.floor magnitudes
    rw [p.floor_magnitude, q.floor_magnitude] at this
    exact_mod_cast this
  have whole : p.whole = q.whole := by
    rw [Numeral.eq_digits_valueOf hp.whole_plain hp.whole_ne_nil hp.whole_leading, wholeValues,
      ← Numeral.eq_digits_valueOf hq.whole_plain hq.whole_ne_nil hq.whole_leading]
  have fractions : Numeral.valueOf p.fraction * 10 ^ q.fraction.length =
      Numeral.valueOf q.fraction * 10 ^ p.fraction.length := by
    have : (Numeral.valueOf p.fraction : ℚ) / 10 ^ p.fraction.length =
        Numeral.valueOf q.fraction / 10 ^ q.fraction.length := by
      unfold magnitude at magnitudes
      rw [wholeValues] at magnitudes
      linarith
    rw [div_eq_div_iff (by positivity) (by positivity)] at this
    exact_mod_cast this
  have lengths : p.fraction.length = q.fraction.length :=
    le_antisymm (length_fraction_le hp.fraction_plain hp.fraction_trailing fractions.symm)
      (length_fraction_le hq.fraction_plain hq.fraction_trailing fractions)
  have fraction : p.fraction = q.fraction := by
    apply Numeral.eq_of_valueOf_eq hp.fraction_plain hq.fraction_plain lengths
    rw [lengths] at fractions
    exact Nat.eq_of_mul_eq_mul_right (by positivity) fractions
  have sign : p.negative = q.negative := by
    by_cases zero : p.magnitude = 0
    · rw [hp.not_negative_of_zero zero, hq.not_negative_of_zero (magnitudes ▸ zero)]
    · rw [value, value, ← magnitudes] at same
      exact signed_inj zero same
  cases p
  cases q
  simp_all

end Positional

/-! ## How decimals are shown -/

namespace Number

/-- The numeral that a decimal is shown as. -/
def positional (x : Number) : Positional :=
  if x.coefficient = 0 then ⟨false, ['0'], []⟩
  else if 0 ≤ x.exponent then
    ⟨x.negative, Numeral.digits x.coefficient ++ List.replicate x.exponent.toNat '0', []⟩
  else
    ⟨x.negative, Numeral.digits (x.coefficient / 10 ^ (-x.exponent).toNat),
      (Numeral.padded (-x.exponent).toNat
        (x.coefficient % 10 ^ (-x.exponent).toNat)).rdropWhile (· == '0')⟩

theorem trimFraction_eq (fraction : List Char) :
    trimFraction fraction =
      if fraction.rdropWhile (· == '0') = [] then []
      else '.' :: fraction.rdropWhile (· == '0') := by
  have left : (fraction.reverse.dropWhile (· == '0')).reverse =
      fraction.rdropWhile (· == '0') := rfl
  rw [trimFraction, left]
  cases fraction.rdropWhile (· == '0') with
  | nil => rfl
  | cons c ds => rfl

theorem canonical_eq_text (x : Number) : x.canonical = x.positional.text := by
  unfold canonical positional Positional.text Positional.unsigned
  split
  · rfl
  · split
    · simp
    · simp [trimFraction_eq]

/-- A fraction is what is left of it, with the zeros that are dropped behind. -/
theorem rdropWhile_append_zeros (cs : List Char) :
    ∃ k, cs.rdropWhile (· == '0') ++ List.replicate k '0' = cs := by
  refine ⟨(cs.rtakeWhile (· == '0')).length, ?_⟩
  have zeros : cs.rtakeWhile (· == '0') = List.replicate (cs.rtakeWhile (· == '0')).length '0' := by
    apply List.eq_replicate_of_mem
    intro c member
    simpa using List.mem_rtakeWhile_imp member
  rw [← zeros]
  exact List.rdropWhile_append_rtakeWhile

theorem getLast?_rdropWhile_ne (cs : List Char) :
    (cs.rdropWhile (· == '0')).getLast? ≠ some '0' := by
  intro last
  have filled : cs.rdropWhile (· == '0') ≠ [] := by
    intro empty
    rw [empty] at last
    simp at last
  apply List.rdropWhile_last_not (· == '0') cs filled
  rw [List.getLast?_eq_getLast_of_ne_nil filled] at last
  simpa using last

theorem valueOf_rdropWhile (cs : List Char) :
    (Numeral.valueOf (cs.rdropWhile (· == '0')) : ℚ) / 10 ^ (cs.rdropWhile (· == '0')).length =
      Numeral.valueOf cs / 10 ^ cs.length := by
  obtain ⟨k, split⟩ := rdropWhile_append_zeros cs
  generalize cs.rdropWhile (· == '0') = ds at split
  subst split
  rw [Numeral.valueOf_append_zeros, List.length_append, List.length_replicate, pow_add]
  push_cast
  rw [mul_div_mul_right _ _ (by positivity)]

theorem magnitude_positional (x : Number) : x.positional.magnitude = x.magnitude := by
  unfold positional Positional.magnitude
  split
  · rename_i zero
    have digit : Numeral.valueOf ['0'] = 0 := rfl
    simp [magnitude, zero, digit]
  · split
    · rename_i _ whole
      have power : (10 : ℚ) ^ x.exponent.toNat = 10 ^ x.exponent := by
        rw [← zpow_natCast, Int.toNat_of_nonneg whole]
      simp [magnitude, Numeral.valueOf_append_zeros, power]
    · rename_i _ fraction
      have places : x.exponent = -((-x.exponent).toNat : ℤ) := by omega
      have split := Nat.div_add_mod x.coefficient (10 ^ (-x.exponent).toNat)
      generalize (-x.exponent).toNat = width at places split
      have power : (10 : ℚ) ^ width ≠ 0 := by positivity
      rw [valueOf_rdropWhile, Numeral.valueOf_digits, Numeral.valueOf_padded, Nat.mod_mod,
        Numeral.length_padded, magnitude, places, zpow_neg, zpow_natCast]
      generalize x.coefficient / 10 ^ width = quotient at split
      generalize x.coefficient % 10 ^ width = rest at split
      rw [← split]
      push_cast
      field_simp

/-- A decimal is shown without a zero that could be left out. -/
theorem isShortest_positional (x : Number) : x.positional.IsShortest := by
  have magnitude := x.magnitude_positional
  unfold positional at magnitude ⊢
  split
  · exact ⟨List.forall_mem_singleton.mpr rfl, by simp, Or.inl rfl, by simp, by simp, by simp⟩
  · rename_i nonzero
    have positive : x.magnitude ≠ 0 := mt magnitude_eq_zero_iff.mp nonzero
    rw [if_neg nonzero] at magnitude
    split
    · rename_i whole
      rw [if_pos whole] at magnitude
      refine ⟨?_, ?_, Or.inr ?_, by simp, by simp, ?_⟩
      · intro c member
        rcases List.mem_append.mp member with member | member
        · exact Numeral.isPlainDigit_of_mem_digits member
        · rw [List.eq_of_mem_replicate member]
          decide
      · simp [Numeral.digits_ne_nil]
      · rw [List.head?_append_of_ne_nil _ (Numeral.digits_ne_nil _)]
        exact Numeral.head_digits_ne_zero nonzero
      · intro _ zero _
        exact positive (magnitude ▸ Positional.magnitude_of_zero zero rfl)
    · rename_i whole
      rw [if_neg whole] at magnitude
      refine ⟨?_, Numeral.digits_ne_nil _, ?_, ?_, getLast?_rdropWhile_ne _, ?_⟩
      · exact fun c member => Numeral.isPlainDigit_of_mem_digits member
      · by_cases zero : x.coefficient / 10 ^ (-x.exponent).toNat = 0
        · left
          rw [zero, Numeral.digits_zero]
        · exact Or.inr (Numeral.head_digits_ne_zero zero)
      · intro c member
        have prefixed := List.rdropWhile_prefix (· == '0') (l := Numeral.padded (-x.exponent).toNat
          (x.coefficient % 10 ^ (-x.exponent).toNat))
        exact Numeral.isPlainDigit_of_mem_padded (prefixed.subset member)
      · intro _ zero empty
        exact positive (magnitude ▸ Positional.magnitude_of_zero zero empty)

theorem value_positional (x : Number) : x.positional.value = x.value := by
  by_cases zero : x.coefficient = 0
  · rw [Positional.value, value, magnitude_positional, magnitude_eq_zero_iff.mpr zero, signed_zero,
      signed_zero]
  · have sign : x.positional.negative = x.negative := by
      unfold positional
      rw [if_neg zero]
      split <;> rfl
    rw [Positional.value, value, magnitude_positional, sign]

/-- The text of a decimal writes its value. -/
theorem positionalValue_canonical (x : Number) : positionalValue x.canonical = x.value := by
  have shortest := x.isShortest_positional
  rw [canonical_eq_text, Positional.positionalValue_text shortest.whole_plain shortest.whole_ne_nil,
    value_positional]

/-- Decimals of one value are shown as one text. -/
theorem canonical_eq_of_value_eq {x y : Number} (same : x.value = y.value) :
    x.canonical = y.canonical := by
  rw [canonical_eq_text, canonical_eq_text,
    x.isShortest_positional.eq_of_value_eq y.isShortest_positional
      (by rw [value_positional, value_positional, same])]

end Number

end Reckoner
