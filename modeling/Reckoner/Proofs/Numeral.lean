import Mathlib.Tactic
import Reckoner.Numeral
import Reckoner.Text.Digit

/-!
# Numerals and the numbers they write

The search for the width of a numeral starts just below the answer; its result is the number of
digits. A numeral written by halving its width is the numeral written digit by digit, so that it
reads back, holds nothing but plain digits, and starts with a zero only where the number is zero.
Two numerals of one width and one value are the same text.
-/

namespace Reckoner.Numeral

/-- The value of a text of digits. What is no digit is passed over. -/
def valueOf (cs : List Char) : Nat := ofChars Text.digitValue? cs

/-! ## Widths -/

theorem lt_pow_widthFrom (n start : Nat) : n < 10 ^ widthFrom n start := by
  fun_induction widthFrom n start with
  | case1 start below => simpa using below
  | case2 start _ _ ih => exact ih

/-- The width found is the start of the search, or the one before it is too short. -/
theorem widthFrom_eq_or_le (n start : Nat) :
    widthFrom n start = start ∨ 10 ^ (widthFrom n start - 1) ≤ n := by
  fun_induction widthFrom n start with
  | case1 start _ => exact Or.inl rfl
  | case2 start above _ ih =>
      right
      rcases ih with found | found
      · rw [found]
        simpa using above
      · exact found

/-- A fraction below the common logarithm of two turns powers of two into lower powers of ten. -/
theorem pow_ten_le_pow_two {a b : Nat} (positive : 0 < b) (ratio : 10 ^ a ≤ 2 ^ b) (n : Nat) :
    10 ^ (n * a / b) ≤ 2 ^ n := by
  have scaled : (10 ^ (n * a / b)) ^ b ≤ (2 ^ n) ^ b :=
    calc (10 ^ (n * a / b)) ^ b = 10 ^ (n * a / b * b) := by rw [← pow_mul]
      _ ≤ 10 ^ (n * a) := Nat.pow_le_pow_right (by decide) (Nat.div_mul_le_self _ _)
      _ = (10 ^ a) ^ n := by rw [← pow_mul, mul_comm]
      _ ≤ (2 ^ b) ^ n := Nat.pow_le_pow_left ratio _
      _ = (2 ^ n) ^ b := by rw [← pow_mul, ← pow_mul, mul_comm]
  exact (Nat.pow_le_pow_iff_left (by omega)).mp scaled

theorem pow_searchStart_le (n : Nat) (h : n ≠ 0) : 10 ^ (n.log2 * 643 / 2136) ≤ n := by
  have ratio : 10 ^ 643 ≤ 2 ^ 2136 := by decide +kernel
  exact (pow_ten_le_pow_two (by decide) ratio n.log2).trans (Nat.log2_self_le h)

theorem digitCount_pos (n : Nat) : 0 < digitCount n := by
  unfold digitCount
  omega

theorem lt_pow_digitCount (n : Nat) : n < 10 ^ digitCount n := by
  refine (lt_pow_widthFrom n (n.log2 * 643 / 2136)).trans_le ?_
  apply Nat.pow_le_pow_right (by decide)
  unfold digitCount
  omega

theorem pow_digitCount_le (n : Nat) (h : n ≠ 0) : 10 ^ (digitCount n - 1) ≤ n := by
  rcases widthFrom_eq_or_le n (n.log2 * 643 / 2136) with found | found
  · refine le_trans ?_ (pow_searchStart_le n h)
    apply Nat.pow_le_pow_right (by decide)
    unfold digitCount
    omega
  · unfold digitCount
    rcases Nat.le_total 1 (widthFrom n (n.log2 * 643 / 2136)) with wide | narrow
    · rwa [max_eq_right wide]
    · rw [max_eq_left narrow]
      exact Nat.one_le_iff_ne_zero.mpr h

/-- The width of a numeral is the only one that is neither too short nor too long. -/
theorem digitCount_eq {n width : Nat} (positive : 0 < width) (below : n < 10 ^ width)
    (above : 10 ^ (width - 1) ≤ n) : digitCount n = width := by
  have nonzero : n ≠ 0 := by
    have : 0 < 10 ^ (width - 1) := by positivity
    omega
  have first := (Nat.pow_lt_pow_iff_right (by decide)).mp
    ((pow_digitCount_le n nonzero).trans_lt below)
  have second := (Nat.pow_lt_pow_iff_right (by decide)).mp
    (above.trans_lt (lt_pow_digitCount n))
  have := digitCount_pos n
  omega

/-- A power of ten has one digit more than its exponent. -/
theorem digitCount_pow_ten (k : Nat) : digitCount (10 ^ k) = k + 1 :=
  digitCount_eq (Nat.succ_pos k) (Nat.pow_lt_pow_right (by decide) (Nat.lt_succ_self k)) le_rfl

/-- A number other than zero has at most `width` digits exactly when it is below `10 ^ width`. -/
theorem digitCount_le_iff {n width : Nat} (h : n ≠ 0) : digitCount n ≤ width ↔ n < 10 ^ width := by
  constructor
  · intro short
    exact (lt_pow_digitCount n).trans_le (Nat.pow_le_pow_right (by decide) short)
  · intro below
    have := (Nat.pow_lt_pow_iff_right (by decide)).mp ((pow_digitCount_le n h).trans_lt below)
    have := digitCount_pos n
    omega

@[simp] theorem digitCount_zero : digitCount 0 = 1 := by
  simp [digitCount, widthFrom]

theorem digitCount_le_of_le_pow {n width : Nat} (below : n ≤ 10 ^ width) :
    digitCount n ≤ width + 1 := by
  by_cases zero : n = 0
  · rw [zero, digitCount_zero]
    omega
  · apply (digitCount_le_iff zero).mpr
    exact below.trans_lt (Nat.pow_lt_pow_right (by decide) (by omega))

/-- A factor `10 ^ k` adds `k` digits. -/
theorem digitCount_mul_pow (n k : Nat) (h : n ≠ 0) :
    digitCount (n * 10 ^ k) = digitCount n + k := by
  have positive := digitCount_pos n
  apply digitCount_eq (by omega)
  · rw [pow_add]
    exact Nat.mul_lt_mul_of_pos_right (lt_pow_digitCount n) (by positivity)
  · rw [show digitCount n + k - 1 = digitCount n - 1 + k by omega, pow_add]
    exact Nat.mul_le_mul_right _ (pow_digitCount_le n h)

/-! ## Digits -/

theorem toNat_digitChar {d : Nat} (h : d < 10) : (digitChar d).toNat = 48 + d := by
  interval_cases d <;> rfl

theorem isPlainDigit_iff (c : Char) :
    Text.isPlainDigit c = true ↔ 48 ≤ c.toNat ∧ c.toNat < 58 := by
  have low : ('0' ≤ c) ↔ 48 ≤ c.toNat := Char.le_def.trans UInt32.le_iff_toNat_le
  have high : (c ≤ '9') ↔ c.toNat ≤ 57 := Char.le_def.trans UInt32.le_iff_toNat_le
  simp only [Text.isPlainDigit, Bool.and_eq_true, decide_eq_true_eq, low, high]
  omega

theorem isPlainDigit_digitChar {d : Nat} (h : d < 10) : Text.isPlainDigit (digitChar d) = true := by
  rw [isPlainDigit_iff, toNat_digitChar h]
  omega

theorem digitValue?_lt {c : Char} {d : Nat} (value : Text.digitValue? c = some d) : d < 10 := by
  obtain ⟨first, found, rfl⟩ := Option.map_eq_some_iff.mp value
  have range := List.find?_some found
  simp only [Bool.and_eq_true, decide_eq_true_eq] at range
  omega

/-- A plain digit is worth its distance from zero. -/
theorem digitValue?_of_plain {c : Char} (h : Text.isPlainDigit c = true) :
    Text.digitValue? c = some (c.toNat - 48) := by
  rw [isPlainDigit_iff] at h
  have first : 48 ≤ c.toNat ∧ c.toNat < 48 + 10 := by omega
  simp [Text.digitValue?, Text.digitZeros, first]

theorem isDigit_of_plain {c : Char} (h : Text.isPlainDigit c = true) : Text.isDigit c = true := by
  simp [Text.isDigit, digitValue?_of_plain h]

/-- Two plain digits of one value are the same. -/
theorem eq_of_toNat_sub_eq {c e : Char} (hc : Text.isPlainDigit c = true)
    (he : Text.isPlainDigit e = true) (same : c.toNat - 48 = e.toNat - 48) : c = e := by
  rw [isPlainDigit_iff] at hc he
  apply Char.toNat_inj.mp
  omega

/-! ## Texts of digits -/

theorem ofDigits_append (xs ys : List Nat) :
    ofDigits (xs ++ ys) = ofDigits xs * 10 ^ ys.length + ofDigits ys := by
  induction ys using List.reverseRecOn with
  | nil => simp [ofDigits]
  | append_singleton ys d ih =>
      simp only [ofDigits] at ih
      simp only [ofDigits, ← List.append_assoc, List.foldl_append, List.foldl_cons, List.foldl_nil,
        ih, List.length_append, List.length_cons, List.length_nil]
      ring

theorem ofDigits_lt {ds : List Nat} (digits : ∀ d ∈ ds, d < 10) : ofDigits ds < 10 ^ ds.length := by
  induction ds using List.reverseRecOn with
  | nil => simp [ofDigits]
  | append_singleton ds d ih =>
      have front := ih fun e member => digits e (List.mem_append_left _ member)
      have last : ofDigits [d] < 10 := by simpa [ofDigits] using digits d (by simp)
      rw [ofDigits_append, List.length_append, List.length_singleton, pow_one, pow_succ]
      omega

@[simp] theorem valueOf_nil : valueOf [] = 0 := rfl

theorem length_filterMap_digitValue? {cs : List Char}
    (digits : ∀ c ∈ cs, Text.isDigit c = true) :
    (cs.filterMap Text.digitValue?).length = cs.length := by
  induction cs with
  | nil => rfl
  | cons c cs ih =>
      obtain ⟨d, value⟩ := Option.isSome_iff_exists.mp (digits c (by simp))
      rw [List.filterMap_cons_some value]
      simp [ih fun e member => digits e (by simp [member])]

/-- Digits behind shift the value of what stands before them. -/
theorem valueOf_append (cs : List Char) {ds : List Char}
    (digits : ∀ c ∈ ds, Text.isDigit c = true) :
    valueOf (cs ++ ds) = valueOf cs * 10 ^ ds.length + valueOf ds := by
  unfold valueOf ofChars
  rw [List.filterMap_append, ofDigits_append, length_filterMap_digitValue? digits]

theorem valueOf_singleton {c : Char} (plain : Text.isPlainDigit c = true) :
    valueOf [c] = c.toNat - 48 := by
  simp [valueOf, ofChars, digitValue?_of_plain plain, ofDigits]

theorem valueOf_cons {c : Char} {cs : List Char}
    (plain : ∀ e ∈ c :: cs, Text.isPlainDigit e = true) :
    valueOf (c :: cs) = (c.toNat - 48) * 10 ^ cs.length + valueOf cs := by
  have digits : ∀ e ∈ cs, Text.isDigit e = true := fun e member =>
    isDigit_of_plain (plain e (by simp [member]))
  rw [← List.singleton_append, valueOf_append [c] digits, valueOf_singleton (plain c (by simp))]

/-- A text is worth less than the power of ten with as many zeros as it has characters. -/
theorem valueOf_lt (cs : List Char) : valueOf cs < 10 ^ cs.length := by
  have digits : ∀ d ∈ cs.filterMap Text.digitValue?, d < 10 := by
    intro d member
    obtain ⟨c, -, value⟩ := List.mem_filterMap.mp member
    exact digitValue?_lt value
  calc valueOf cs < 10 ^ (cs.filterMap Text.digitValue?).length := ofDigits_lt digits
    _ ≤ 10 ^ cs.length := Nat.pow_le_pow_right (by decide) (List.length_filterMap_le _ _)

@[simp] theorem valueOf_replicate_zero (k : Nat) : valueOf (List.replicate k '0') = 0 := by
  induction k with
  | zero => rfl
  | succ k ih =>
      rw [List.replicate_succ, valueOf_cons, ih]
      · simp
      · intro c member
        rw [← List.replicate_succ] at member
        rw [List.eq_of_mem_replicate member]
        decide

/-- Zeros behind shift the value. -/
theorem valueOf_append_zeros (cs : List Char) (k : Nat) :
    valueOf (cs ++ List.replicate k '0') = valueOf cs * 10 ^ k := by
  rw [valueOf_append, List.length_replicate, valueOf_replicate_zero, Nat.add_zero]
  intro c member
  rw [List.eq_of_mem_replicate member]
  decide

/-- One width and one value leave one text. -/
theorem eq_of_valueOf_eq {cs ds : List Char} (plain : ∀ c ∈ cs, Text.isPlainDigit c = true)
    (plain' : ∀ c ∈ ds, Text.isPlainDigit c = true) (length : cs.length = ds.length)
    (value : valueOf cs = valueOf ds) : cs = ds := by
  induction cs generalizing ds with
  | nil => exact (List.length_eq_zero_iff.mp length.symm).symm
  | cons c cs ih =>
      cases ds with
      | nil => simp at length
      | cons e ds =>
          have lengths : cs.length = ds.length := by simpa using length
          have rest := fun d member => plain d (List.mem_cons_of_mem c member)
          have rest' := fun d member => plain' d (List.mem_cons_of_mem e member)
          have below := valueOf_lt cs
          have below' := valueOf_lt ds
          rw [valueOf_cons plain, valueOf_cons plain', lengths] at value
          rw [lengths] at below
          have heads : c.toNat - 48 = e.toNat - 48 := by
            have := congrArg (· / 10 ^ ds.length) value
            simpa [Nat.add_div_of_dvd_right, Nat.div_eq_of_lt below,
              Nat.div_eq_of_lt below'] using this
          have tails : valueOf cs = valueOf ds := by
            rw [heads] at value
            omega
          rw [eq_of_toNat_sub_eq (plain c (by simp)) (plain' e (by simp)) heads,
            ih rest rest' lengths tails]

/-! ## Writing -/

theorem lowDigits_append (width n : Nat) (tail : List Char) :
    lowDigits width n tail = lowDigits width n [] ++ tail := by
  induction width generalizing n tail with
  | zero => rfl
  | succ width ih =>
      rw [lowDigits, ih, lowDigits, ih _ [_], List.append_assoc]
      rfl

@[simp] theorem length_lowDigits (width n : Nat) : (lowDigits width n []).length = width := by
  induction width generalizing n with
  | zero => rfl
  | succ width ih =>
      rw [lowDigits, lowDigits_append]
      simp [ih]

theorem isPlainDigit_of_mem_lowDigits {width n : Nat} {c : Char}
    (member : c ∈ lowDigits width n []) : Text.isPlainDigit c = true := by
  induction width generalizing n with
  | zero => simp [lowDigits] at member
  | succ width ih =>
      rw [lowDigits, lowDigits_append, List.mem_append] at member
      rcases member with before | last
      · exact ih before
      · rw [List.mem_singleton.mp last]
        exact isPlainDigit_digitChar (Nat.mod_lt _ (by decide))

theorem valueOf_lowDigits (width n : Nat) : valueOf (lowDigits width n []) = n % 10 ^ width := by
  induction width generalizing n with
  | zero => simp [lowDigits, Nat.mod_one]
  | succ width ih =>
      have digit : n % 10 < 10 := Nat.mod_lt _ (by decide)
      have plain := isPlainDigit_digitChar digit
      rw [lowDigits, lowDigits_append, valueOf_append _ (by simpa using isDigit_of_plain plain), ih,
        valueOf_singleton plain, toNat_digitChar digit, pow_succ', Nat.mod_mul]
      simp only [List.length_singleton, pow_one]
      omega

/-- Halving the width changes nothing of what is written. -/
theorem padded_eq_lowDigits (width n : Nat) : padded width n = lowDigits width n [] := by
  fun_induction padded width n with
  | case1 => rfl
  | case2 width n _ unit high low =>
      rw [high, low]
      apply eq_of_valueOf_eq
      · intro c member
        rcases List.mem_append.mp member with member | member
        · exact isPlainDigit_of_mem_lowDigits member
        · exact isPlainDigit_of_mem_lowDigits member
      · exact fun c member => isPlainDigit_of_mem_lowDigits member
      · simp only [List.length_append, length_lowDigits]
        omega
      · rw [valueOf_append _ fun c member =>
          isDigit_of_plain (isPlainDigit_of_mem_lowDigits member)]
        simp only [valueOf_lowDigits, length_lowDigits]
        have split : 10 ^ width = 10 ^ (width / 2) * 10 ^ (width - width / 2) := by
          rw [← pow_add]
          congr 1
          omega
        rw [split, Nat.mod_mul, show unit = 10 ^ (width / 2) from rfl, Nat.mod_mod]
        ring

@[simp] theorem length_padded (width n : Nat) : (padded width n).length = width := by
  rw [padded_eq_lowDigits, length_lowDigits]

theorem isPlainDigit_of_mem_padded {width n : Nat} {c : Char} (member : c ∈ padded width n) :
    Text.isPlainDigit c = true := by
  rw [padded_eq_lowDigits] at member
  exact isPlainDigit_of_mem_lowDigits member

theorem valueOf_padded (width n : Nat) : valueOf (padded width n) = n % 10 ^ width := by
  rw [padded_eq_lowDigits, valueOf_lowDigits]

/-- A numeral reads back. -/
@[simp] theorem valueOf_digits (n : Nat) : valueOf (digits n) = n := by
  rw [digits, valueOf_padded, Nat.mod_eq_of_lt (lt_pow_digitCount n)]

theorem isPlainDigit_of_mem_digits {n : Nat} {c : Char} (member : c ∈ digits n) :
    Text.isPlainDigit c = true :=
  isPlainDigit_of_mem_padded member

theorem digits_ne_nil (n : Nat) : digits n ≠ [] := by
  apply List.ne_nil_of_length_pos
  rw [digits, length_padded]
  exact digitCount_pos n

@[simp] theorem digits_zero : digits 0 = ['0'] := by
  rw [digits, digitCount_zero, padded_eq_lowDigits]
  rfl

/-- Only the numeral of zero starts with a zero. -/
theorem head_digits_ne_zero {n : Nat} (h : n ≠ 0) : (digits n).head? ≠ some '0' := by
  intro zero
  obtain ⟨rest, text⟩ := List.head?_eq_some_iff.mp zero
  have plain : ∀ c ∈ '0' :: rest, Text.isPlainDigit c = true := by
    intro c member
    exact isPlainDigit_of_mem_digits (text ▸ member)
  have width : (digits n).length = digitCount n := by rw [digits, length_padded]
  have short := valueOf_lt rest
  have value := valueOf_cons plain
  rw [← text, valueOf_digits] at value
  have long := pow_digitCount_le n h
  rw [← width, text, List.length_cons, Nat.add_sub_cancel] at long
  have : n = valueOf rest := by simpa using value
  omega

/-- A number is written with no more digits than it was read from. -/
theorem length_digits_valueOf_le {cs : List Char} {width : Nat} (positive : 0 < width)
    (short : cs.length ≤ width) : (digits (valueOf cs)).length ≤ width := by
  rw [digits, length_padded]
  by_cases zero : valueOf cs = 0
  · rw [zero, digitCount_zero]
    exact positive
  · rw [digitCount_le_iff zero]
    exact (valueOf_lt cs).trans_le (Nat.pow_le_pow_right (by decide) short)

/-- A text of digits that starts with no zero, unless it is one, is the numeral of its value. -/
theorem eq_digits_valueOf {cs : List Char} (plain : ∀ c ∈ cs, Text.isPlainDigit c = true)
    (filled : cs ≠ []) (leading : cs = ['0'] ∨ cs.head? ≠ some '0') :
    cs = digits (valueOf cs) := by
  rcases leading with rfl | leading
  · simp [valueOf_singleton (show Text.isPlainDigit '0' = true by decide)]
  · obtain ⟨c, rest, rfl⟩ := List.exists_cons_of_ne_nil filled
    have digit := (isPlainDigit_iff c).mp (plain c (by simp))
    have notZero : c ≠ '0' := by simpa using leading
    have positive : 1 ≤ c.toNat - 48 := by
      by_contra small
      exact notZero (eq_of_toNat_sub_eq (plain c (by simp)) (by decide) (by simp; omega))
    apply eq_of_valueOf_eq plain fun e member => isPlainDigit_of_mem_digits member
    · rw [digits, length_padded]
      apply Eq.symm
      apply digitCount_eq (by simp) (valueOf_lt _)
      rw [valueOf_cons plain, List.length_cons, Nat.add_sub_cancel]
      have := Nat.mul_le_mul_right (10 ^ rest.length) positive
      omega
    · rw [valueOf_digits]

end Reckoner.Numeral
