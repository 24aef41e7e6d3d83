import Mathlib.Tactic
import Reckoner.Proofs.Expression.Lexemes
import Reckoner.Proofs.Expression.ZeroDivisor

/-!
# The check for literal zero divisors

The check of a text looks for a slash, blanks and zeros that no digit and no point continues, and it
may look anywhere and stop at any zero. Where a text has tokens it finds exactly the slashes that
come right before a number which is written as a literal zero: what ends a match ends the number.
-/

namespace Reckoner

/-! ## Literal zeros -/

/-- Whether a text is a literal zero: ASCII zeros, at least one, and maybe a point and any number of
ASCII zeros behind it. -/
inductive IsLiteralZero : List Char → Prop
  | whole (m : ℕ) : IsLiteralZero (List.replicate (m + 1) '0')
  | pointed (m n : ℕ) : IsLiteralZero (List.replicate (m + 1) '0' ++ '.' :: List.replicate n '0')

@[simp] theorem isNumeral_zero : Piece.isNumeral '0' = true := by decide

namespace IsLiteralZero

variable {zero : List Char}

theorem exists_cons (literal : IsLiteralZero zero) : ∃ rest, zero = '0' :: rest := by
  cases literal with
  | whole m => exact ⟨_, List.replicate_succ⟩
  | pointed m n => exact ⟨List.replicate m '0' ++ '.' :: List.replicate n '0', rfl⟩

theorem isNumeral (literal : IsLiteralZero zero) : ∀ c ∈ zero, Piece.isNumeral c = true := by
  intro c member
  cases literal with
  | whole m =>
      rw [List.eq_of_mem_replicate member]
      exact isNumeral_zero
  | pointed m n =>
      simp only [List.mem_append, List.mem_cons, List.mem_replicate] at member
      rcases member with ⟨-, rfl⟩ | rfl | ⟨-, rfl⟩
      · exact isNumeral_zero
      · exact isNumeral_point
      · exact isNumeral_zero

end IsLiteralZero

theorem exists_replicate_skipZeros (cs : List Char) :
    ∃ n, cs = List.replicate n '0' ++ skipZeros cs := by
  obtain ⟨zeros, all, shape⟩ := skipZeros_append cs
  exact ⟨zeros.length, by rw [← List.eq_replicate_of_mem all, ← shape]⟩

theorem skipZeros_replicate (n : ℕ) (cs : List Char) :
    skipZeros (List.replicate n '0' ++ cs) = skipZeros cs :=
  List.dropWhile_append_of_pos (by simp)

theorem skipZeros_of_endsNumber {cs : List Char} (ends : endsNumber cs = true) :
    skipZeros cs = cs := by
  cases cs with
  | nil => rfl
  | cons c cs =>
      have mark := endsNumber_iff.mp ends c rfl
      have other : c ≠ '0' := by
        rintro rfl
        simp at mark
      simp [skipZeros, other]

/-- The check for a literal zero finds one if there is any that ends a number, however many zeros a
match may take. -/
theorem startsWithZero_iff {cs : List Char} :
    startsWithZero cs = true ↔
      ∃ zero after, cs = zero ++ after ∧ IsLiteralZero zero ∧ endsNumber after = true := by
  constructor
  · intro found
    unfold startsWithZero at found
    split at found
    · rename_i cs
      obtain ⟨m, shape⟩ := exists_replicate_skipZeros cs
      split at found
      · rename_i rest point
        obtain ⟨n, shape'⟩ := exists_replicate_skipZeros rest
        refine ⟨_, skipZeros rest, ?_, .pointed m n, found⟩
        rw [List.replicate_succ, List.append_assoc, List.cons_append, List.cons_append, ← shape',
          ← point, ← shape]
      · refine ⟨_, skipZeros cs, ?_, .whole m, found⟩
        rw [List.replicate_succ, List.cons_append, ← shape]
    · cases found
  · rintro ⟨zero, after, rfl, literal, ends⟩
    have stays := skipZeros_of_endsNumber ends
    cases literal with
    | whole m =>
        have noPoint : ∀ rest, after ≠ '.' :: rest := by
          rintro rest rfl
          simpa using endsNumber_iff.mp ends '.' rfl
        rw [List.replicate_succ, List.cons_append, startsWithZero, skipZeros_replicate, stays]
        split
        · exact absurd rfl (noPoint _)
        · exact ends
    | pointed m n =>
        have atPoint : skipZeros ('.' :: (List.replicate n '0' ++ after)) =
            '.' :: (List.replicate n '0' ++ after) := rfl
        rw [List.replicate_succ, List.append_assoc, List.cons_append, List.cons_append,
          startsWithZero, skipZeros_replicate, atPoint]
        show endsNumber (skipZeros _) = true
        rw [skipZeros_replicate, stays, ends]

/-! ## Matches in a text -/

theorem dividesByLiteralZero_cons_iff {c : Char} {cs : List Char} :
    dividesByLiteralZero (c :: cs) = true ↔
      c = '/' ∧ startsWithZero (cs.dropWhile Text.isBlank) = true ∨
        dividesByLiteralZero cs = true := by
  rw [dividesByLiteralZero, Bool.or_eq_true, Bool.and_eq_true, beq_iff_eq]

/-- Nothing is found inside a part without a slash. -/
theorem dividesByLiteralZero_append_of_notMem {front : List Char} (absent : '/' ∉ front)
    (back : List Char) : dividesByLiteralZero (front ++ back) = dividesByLiteralZero back := by
  induction front with
  | nil => rfl
  | cons c front ih =>
      have other : c ≠ '/' := fun same => absent (by simp [same])
      rw [Bool.eq_iff_iff, List.cons_append, dividesByLiteralZero_cons_iff,
        ih fun member => absent (.tail c member)]
      simp [other]

theorem dividesByLiteralZero_of_append {back : List Char} (front : List Char)
    (found : dividesByLiteralZero back = true) : dividesByLiteralZero (front ++ back) = true := by
  induction front with
  | nil => exact found
  | cons c front ih => exact dividesByLiteralZero_cons_iff.mpr (.inr ih)

theorem isBlank_eq_false_of_isNumeral {c : Char} (numeral : Piece.isNumeral c = true) :
    Text.isBlank c = false := by
  rw [Bool.eq_false_iff]
  intro blank
  rw [isNumeral_of_isBlank blank] at numeral
  cases numeral

/-- The check of a text finds a match if there is any: a slash, blanks and a literal zero, with no
digit and no point next. -/
theorem dividesByLiteralZero_iff_exists_match {cs : List Char} :
    dividesByLiteralZero cs = true ↔
      ∃ before blanks zero after, cs = before ++ '/' :: (blanks ++ (zero ++ after)) ∧
        (∀ c ∈ blanks, Text.isBlank c = true) ∧ IsLiteralZero zero ∧
          endsNumber after = true := by
  constructor
  · intro found
    obtain ⟨before, behind, rfl, next⟩ := exists_slash found
    obtain ⟨zero, after, shape, literal, ends⟩ := startsWithZero_iff.mp next
    refine ⟨before, behind.takeWhile Text.isBlank, zero, after, ?_, ?_, literal, ends⟩
    · rw [← shape, List.takeWhile_append_dropWhile]
    · exact fun c member => List.mem_takeWhile_imp member
  · rintro ⟨before, blanks, zero, after, rfl, blank, literal, ends⟩
    apply dividesByLiteralZero_of_append
    refine dividesByLiteralZero_cons_iff.mpr (.inl ⟨rfl, ?_⟩)
    have stop : (zero ++ after).dropWhile Text.isBlank = zero ++ after := by
      obtain ⟨rest, rfl⟩ := literal.exists_cons
      rfl
    rw [List.dropWhile_append_of_pos blank, stop]
    exact startsWithZero_iff.mpr ⟨zero, after, rfl, literal, ends⟩

/-! ## Matches and tokens -/

/-- A longest run in front is determined by the text. -/
theorem IsRun.unique {run rest run' rest' : List Char} (longest : IsRun [] run rest)
    (longest' : IsRun [] run' rest') (same : run ++ rest = run' ++ rest') : run = run' := by
  have taken {run rest : List Char} (longest : IsRun [] run rest) :
      (run ++ rest).takeWhile Piece.isNumeral = run := by
    have stop : rest.takeWhile Piece.isNumeral = [] := by
      cases rest with
      | nil => rfl
      | cons c rest => simp [longest.ends c rfl]
    rw [List.takeWhile_append_of_pos longest.numerals, stop, List.append_nil]
  rw [← taken longest, same, taken longest']

/-- At a run the check finds a literal zero exactly when the whole run is one. -/
theorem IsRun.startsWithZero_iff {run rest : List Char} (longest : IsRun [] run rest) :
    startsWithZero (run ++ rest) = true ↔ IsLiteralZero run := by
  rw [Reckoner.startsWithZero_iff]
  constructor
  · rintro ⟨zero, after, same, literal, ends⟩
    have filled : zero ≠ [] := by
      obtain ⟨rest, rfl⟩ := literal.exists_cons
      simp
    have longest' : IsRun [] zero after :=
      ⟨filled, literal.isNumeral, by simp, endsNumber_iff.mp ends⟩
    rwa [longest.unique longest' same]
  · intro literal
    exact ⟨run, rest, rfl, literal, endsNumber_iff.mpr longest.ends⟩

theorem IsRun.dropWhile_isBlank {run rest : List Char} (longest : IsRun [] run rest) :
    (run ++ rest).dropWhile Text.isBlank = run ++ rest := by
  obtain ⟨c, run, rfl⟩ := List.exists_cons_of_ne_nil longest.filled
  have filled := isBlank_eq_false_of_isNumeral (longest.numerals c (by simp))
  simp [filled]

theorem IsRun.slash_notMem {run rest : List Char} (longest : IsRun [] run rest) : '/' ∉ run := by
  intro member
  exact absurd (longest.numerals '/' member) (by decide)

/-- A literal zero comes first, after blanks, exactly when it is the first lexeme. -/
theorem Lexes.startsWithZero_iff {cs : List Char} {ls : List Lexeme} (lexes : Lexes cs ls) :
    startsWithZero (cs.dropWhile Text.isBlank) = true ↔
      ∃ x zero back, ls = ⟨.number x, zero⟩ :: back ∧ IsLiteralZero zero := by
  induction lexes with
  | nil => simp [startsWithZero]
  | space rest ih => exact ih
  | operator op rest ih => cases op <;> simp [startsWithZero, Operator.symbol, Text.isBlank]
  | @number run cs x ls longest writes rest ih =>
      rw [longest.dropWhile_isBlank, longest.startsWithZero_iff]
      constructor
      · intro literal
        exact ⟨x, run, ls, rfl, literal⟩
      · rintro ⟨_, _, _, same, literal⟩
        cases same
        exact literal

/-- Whether some division sign comes right before a number that is written as a literal zero. -/
def DividesByZeroText (ls : List Lexeme) : Prop :=
  ∃ front x zero back,
    ls = front ++ ⟨.operator .div, ['/']⟩ :: ⟨.number x, zero⟩ :: back ∧ IsLiteralZero zero

theorem dividesByZeroText_nil : ¬DividesByZeroText [] := by
  rintro ⟨front, x, zero, back, impossible, -⟩
  simp at impossible

theorem dividesByZeroText_cons_iff {l : Lexeme} {ls : List Lexeme} :
    DividesByZeroText (l :: ls) ↔
      l = ⟨.operator .div, ['/']⟩ ∧
          (∃ x zero back, ls = ⟨.number x, zero⟩ :: back ∧ IsLiteralZero zero) ∨
        DividesByZeroText ls := by
  constructor
  · rintro ⟨front, x, zero, back, shape, literal⟩
    cases front with
    | nil =>
        injection shape with first rest
        exact .inl ⟨first, x, zero, back, rest, literal⟩
    | cons _ front =>
        injection shape with _ rest
        exact .inr ⟨front, x, zero, back, rest, literal⟩
  · rintro (⟨rfl, x, zero, back, rfl, literal⟩ | ⟨front, x, zero, back, rfl, literal⟩)
    · exact ⟨[], x, zero, back, rfl, literal⟩
    · exact ⟨l :: front, x, zero, back, rfl, literal⟩

/-- The check of a text says of its lexemes whether they divide by a literal zero. -/
theorem Lexes.dividesByLiteralZero_iff {cs : List Char} {ls : List Lexeme} (lexes : Lexes cs ls) :
    dividesByLiteralZero cs = true ↔ DividesByZeroText ls := by
  induction lexes with
  | nil => simp [dividesByLiteralZero, dividesByZeroText_nil]
  | space rest ih =>
      rw [dividesByLiteralZero_cons_iff, ih]
      simp
  | operator op rest ih =>
      rw [dividesByLiteralZero_cons_iff, dividesByZeroText_cons_iff, ih, rest.startsWithZero_iff]
      cases op <;> simp [Operator.symbol]
  | @number run cs x ls longest writes rest ih =>
      rw [dividesByLiteralZero_append_of_notMem longest.slash_notMem, dividesByZeroText_cons_iff,
        ih]
      simp

/-- The check for literal zero divisors is exact on every text that is an expression: it finds one
exactly when among the tokens a division sign comes right before a number whose text is a literal
zero. -/
theorem literal_zero_check_is_exact {ctx : Context} {cs : List Char} {tree : Tree}
    (parsed : parse ctx cs = .ok tree) :
    (∃ ls, Lexes cs ls) ∧
    ∀ ls, Lexes cs ls → tokens cs = .ok (ls.map Lexeme.token) ∧
      (dividesByLiteralZero cs = true ↔ DividesByZeroText ls) := by
  constructor
  · unfold parse at parsed
    split at parsed
    · cases parsed
    · rename_i ts read
      obtain ⟨ls, lexes, -⟩ := tokens_eq_ok_iff.mp read
      exact ⟨ls, lexes⟩
  · intro ls lexes
    exact ⟨tokens_eq_ok_iff.mpr ⟨ls, lexes, rfl⟩, lexes.dividesByLiteralZero_iff⟩

/-- The first zero is an Arabic one, which the check takes for a digit but not for a zero. -/
theorem literal_zero_check_is_exact_spaced :
    (∃ tree, parse .standard "6/٠-4/ 00.0 *2".toList = .ok tree) ∧
      ∃ ls, Lexes "6/٠-4/ 00.0 *2".toList ls ∧ DividesByZeroText ls := by
  have found : dividesByLiteralZero "6/٠-4/ 00.0 *2".toList = true := by decide +kernel
  have parsed : parse .standard "6/٠-4/ 00.0 *2".toList = .ok
      (.node .sub (.node .div (.leaf ⟨false, 6, 0⟩) (.leaf ⟨false, 0, 0⟩))
        (.node .mul (.node .div (.leaf ⟨false, 4, 0⟩) (.leaf ⟨false, 0, -1⟩))
          (.leaf ⟨false, 2, 0⟩))) := by
    decide +kernel
  obtain ⟨⟨ls, lexes⟩, exactly⟩ := literal_zero_check_is_exact parsed
  exact ⟨⟨_, parsed⟩, ls, lexes, (exactly ls lexes).2.mp found⟩

end Reckoner
