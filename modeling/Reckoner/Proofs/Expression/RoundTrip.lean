import Mathlib.Tactic
import Reckoner.Proofs.Decimal.Places
import Reckoner.Proofs.Expression.ZeroDivisor

/-!
# Reading results back

A shortest numeral is an expression: a number, maybe with one minus before it. The number is read
exactly, and the minus is exact where the numeral has few digits. A result that is negative has been
fitted before it was rounded to its places, so it has few digits; its text therefore has the value
of the result, and no place more than the result was rounded to.
-/

namespace Reckoner

open Spelling SignedNumber

variable {ctx : Context}

namespace Positional

/-- The expression that a numeral spells. -/
def spelling (p : Positional) : Spelling :=
  ⟨⟨if p.negative then [true] else [], Number.ofRun p.unsigned⟩, []⟩

namespace IsShortest

variable {p : Positional}

/-- A shortest numeral has the tokens of its expression. -/
theorem tokens_text (shortest : p.IsShortest) : tokens p.text = .ok p.spelling.tokens := by
  have parts : p.unsigned = p.whole ∨ ∃ es, (∀ c ∈ es, Text.isPlainDigit c = true) ∧
      p.unsigned = p.whole ++ '.' :: es := by
    unfold unsigned
    split
    · exact .inl (List.append_nil _)
    · exact .inr ⟨p.fraction, shortest.fraction_plain, rfl⟩
  have number : tokens p.unsigned = .ok [.number (Number.ofRun p.unsigned)] := by
    have run : tokens (p.unsigned ++ []) = _ :=
      tokens_append_number shortest.whole_ne_nil shortest.whole_plain parts (by simp)
    rw [List.append_nil] at run
    exact run
  unfold text spelling Number.withSign
  split
  · rw [show '-' = Operator.sub.symbol from rfl, tokens_cons_operator, number]
    rfl
  · exact number

/-! ## The number of a run -/

theorem exponent_ofRun (shortest : p.IsShortest) :
    (Number.ofRun p.unsigned).exponent = -p.fraction.length := by
  show -((fractionPart p.unsigned).length : ℤ) = _
  rw [(parts_unsigned shortest.whole_plain).2]

/-- A run of digits with a point is read exactly. -/
theorem magnitude_ofRun (shortest : p.IsShortest) :
    (Number.ofRun p.unsigned).magnitude = p.magnitude := by
  rw [← magnitudeOf_unsigned shortest.whole_plain]
  refine value_ofRun fun c member => ?_
  rw [(parts_unsigned shortest.whole_plain).2] at member
  exact Numeral.isDigit_of_plain (shortest.fraction_plain c member)

/-- The expression of a numeral has the value of the numeral, if its minus loses nothing. The point
stands as far left as in the numeral, but for a zero, before the first digit or behind it. -/
theorem exists_denotes (shortest : p.IsShortest)
    (short : p.negative = true → (Number.ofRun p.unsigned).IsShort ctx.precision)
    (lowest : ctx.etiny ≤ -p.fraction.length)
    (highest : (Number.ofRun p.unsigned).coefficient ≠ 0 →
      (Number.ofRun p.unsigned).adjusted ≤ ctx.emax) :
    ∃ x, p.spelling.Denotes ctx ⟨x, []⟩ ∧ x.value = p.value ∧
      -(p.fraction.length : ℤ) ≤ x.exponent ∧ (x.coefficient = 0 → x.exponent ≤ 0) := by
  have exponent := shortest.exponent_ofRun
  have unsigned : (Number.ofRun p.unsigned).value = p.magnitude := shortest.magnitude_ofRun
  cases sign : p.negative with
  | false =>
      refine ⟨Number.ofRun p.unsigned, ⟨?_, .nil⟩, ?_, exponent.ge, fun _ => by omega⟩
      · simp [SignedNumber.Denotes, spelling, sign, SignedNumber.minuses, Number.negated]
      · rw [unsigned, value, sign, signed, if_neg (by decide)]
  | true =>
      have nonzero : (Number.ofRun p.unsigned).coefficient ≠ 0 := by
        intro zero
        have := shortest.not_negative_of_zero (shortest.magnitude_ofRun ▸
          Number.magnitude_eq_zero_iff.mpr zero)
        rw [sign] at this
        cases this
      obtain ⟨x, minus, opposite, higher⟩ :=
        Number.neg_of_isShort nonzero (short sign) (exponent ▸ lowest) (highest nonzero)
      have nonzero' : x.coefficient ≠ 0 := by
        rwa [Ne, ← Number.value_eq_zero_iff, opposite, neg_eq_zero, Number.value_eq_zero_iff]
      refine ⟨x, ⟨?_, .nil⟩, ?_, exponent ▸ higher, fun zero => absurd zero nonzero'⟩
      · simp [SignedNumber.Denotes, spelling, sign, SignedNumber.minuses, Number.negated, minus]
      · rw [opposite, unsigned, value, sign, signed, if_pos rfl]

end IsShortest

end Positional

/-- A text whose tokens spell an expression with a value is parsed to its tree. -/
theorem parse_of_spelling {cs : List Char} {s : Spelling} {chain : Chain}
    (read : tokens cs = .ok s.tokens) (denotes : s.Denotes ctx chain) :
    parse ctx cs = .ok (Tree.ofChain chain) := by
  rw [parse_of_tokens read, Tree.ofTokens, (ofTokens_eq_ok_iff _ _).mpr ⟨s, rfl, denotes⟩]
  rfl

namespace Number

/-- Trimming leaves no more digits behind the point than there are places. -/
theorem length_fraction_le (x : Number) :
    (x.positional.fraction.length : ℤ) ≤ max 0 (-x.exponent) := by
  unfold positional
  split
  · simp
  · split
    · simp
    · have shorter := (List.rdropWhile_prefix (· == '0') (l := Numeral.padded (-x.exponent).toNat
        (x.coefficient % 10 ^ (-x.exponent).toNat))).length_le
      rw [Numeral.length_padded] at shorter
      simp only
      omega

/-- The text of a decimal is read as a number with the value of the decimal, if the decimal has few
digits or no sign and lies in the range. -/
theorem exists_parse_canonical {z : Number}
    (short : z.negative = true → z.IsShort ctx.precision) (lowest : ctx.etiny ≤ min 0 z.exponent)
    (highest : z.coefficient ≠ 0 → z.adjusted ≤ ctx.emax) :
    ∃ x, parse ctx z.canonical = .ok (.leaf x) ∧ x.value = z.value ∧
      min 0 z.exponent ≤ x.exponent ∧ x.adjusted ≤ ctx.emax := by
  have shortest := z.isShortest_positional
  have places := z.length_fraction_le
  have same : z.magnitude = (Number.ofRun z.positional.unsigned).magnitude := by
    rw [shortest.magnitude_ofRun, magnitude_positional]
  have sign : z.positional.negative = true → z.negative = true := by
    unfold positional
    split
    · intro impossible
      cases impossible
    · split <;> exact id
  obtain ⟨x, denotes, value, higher, low⟩ := shortest.exists_denotes
    (fun negative => (short (sign negative)).of_magnitude_eq same) (by omega) (fun nonzero => by
      have nonzero' := mt (coefficient_eq_zero_iff_of_magnitude_eq same).mp nonzero
      rw [← adjusted_eq_of_magnitude_eq nonzero' same]
      exact highest nonzero')
  rw [value_positional] at value
  refine ⟨x, ?_, value, by omega, ?_⟩
  · rw [canonical_eq_text]
    exact parse_of_spelling shortest.tokens_text denotes
  · by_cases zero : x.coefficient = 0
    · have := low zero
      rw [adjusted, digitCount, zero, Numeral.digitCount_zero]
      omega
    · have same := magnitude_eq_of_value_eq value
      rw [adjusted_eq_of_magnitude_eq zero same]
      exact highest (mt (coefficient_eq_zero_iff_of_magnitude_eq same).mpr zero)

end Number

/-! ## Results -/

theorem calculate_eq_ok_iff {places : Places} {cs r : List Char} :
    calculate ctx places cs = .ok r ↔
      ∃ v, evaluate ctx cs = .ok v ∧ v.rounded ctx places = .ok r := by
  constructor
  · intro calculated
    unfold calculate at calculated
    split at calculated
    · cases calculated
    · split at calculated
      · cases calculated
      · rename_i v evaluated
        exact ⟨v, evaluated, calculated⟩
  · rintro ⟨v, evaluated, rounded⟩
    have unrefused := dividesByLiteralZero_of_evaluate evaluated
    rw [calculate, unrefused, if_neg (by decide), evaluated]
    exact rounded

/-- A result is the text of a number at its places, with few digits if it is negative. -/
theorem exists_canonical_of_calculate {places : ℤ} {cs r : List Char} (most : places ≤ 999999)
    (calculated : calculate .standard (.whole places) cs = .ok r) :
    ∃ z : Number, r = z.canonical ∧ z.exponent = -max places 0 ∧
      (z.negative = true → z.IsShort 50) ∧ (z.coefficient ≠ 0 → z.adjusted ≤ 999999) := by
  obtain ⟨v, evaluated, rounded⟩ := calculate_eq_ok_iff.mp calculated
  obtain ⟨y, rfl, written⟩ := exists_number_of_evaluate evaluated
  obtain ⟨text, highest⟩ := Number.eq_canonical_of_roundTo most rounded
  refine ⟨y.atPlaces places, text, rfl, fun negative => ?_, highest⟩
  rcases written with ⟨run, -, rfl⟩ | fitted
  · cases negative
  · exact Number.isShort_atPlaces (fitted.fits (by decide)).digits places

/-- A result is an expression of one number with its value, and calculating it at as many places or
more gives it again. -/
theorem calculate_of_calculate {places more : ℤ} {cs r : List Char} (whole : 0 ≤ places)
    (atLeast : places ≤ more) (most : more ≤ 999999)
    (calculated : calculate .standard (.whole places) cs = .ok r) :
    (∃ x, parse .standard r = .ok (.leaf x) ∧ x.value = positionalValue r) ∧
      calculate .standard (.whole more) r = .ok r := by
  obtain ⟨z, rfl, exponent, short, highest⟩ :=
    exists_canonical_of_calculate (by omega) calculated
  have lowest : Context.standard.etiny ≤ min 0 z.exponent := by
    rw [show Context.standard.etiny = -1000048 by decide]
    omega
  have largest : ((Context.standard.emax : ℕ) : ℤ) = 999999 := rfl
  obtain ⟨x, parsed, value, higher, top⟩ :=
    Number.exists_parse_canonical short lowest highest
  have evaluated : evaluate .standard z.canonical = .ok (.finite x) := by
    rw [evaluate, parsed]
    rfl
  refine ⟨⟨x, parsed, by rw [value, Number.positionalValue_canonical]⟩, ?_⟩
  refine calculate_eq_ok_iff.mpr ⟨_, evaluated, ?_⟩
  rw [← Number.canonical_eq_of_value_eq value]
  exact Number.roundTo_of_le_exponent (by omega) most (by omega) (by omega)

end Reckoner
