import Mathlib.Tactic
import Reckoner.Proofs.Decimal.Shown
import Reckoner.Proofs.Editor.Containment
import Reckoner.Proofs.Editor.Equals
import Reckoner.Proofs.Expression.MinusSign

/-!
# Typing a number

Digits and points that are typed from the initial state on leave a numeral: the digits before the
first point, without zeros in front of them, then that point and the digits behind it. The state is
that of a result with this text, and an equals shows the number rounded to its places.
-/

namespace Reckoner.Editor

/-- What an action types, if it is a digit or a point. -/
def Action.typed : Action → List Char
  | .digit text => text
  | .decimal => ['.']
  | _ => []

/-- Digits without the zeros in front, but for the last zero where there is no other digit. -/
def withoutZeros (ds : List Char) : List Char :=
  match skipZeros ds with
  | [] => ['0']
  | ds => ds

/-- The numeral that typed digits and points come to. Only the first point counts. -/
def typedNumeral (keys : List Char) : List Char :=
  withoutZeros (wholePart keys) ++
    if '.' ∈ keys then '.' :: (fractionPart keys).filter (· != '.') else []

/-! ## Zeros in front -/

theorem head?_skipZeros (ds : List Char) : (skipZeros ds).head? ≠ some '0' := by
  have stop := List.head?_dropWhile_not (· == '0') ds
  intro zero
  rw [skipZeros] at zero
  rw [zero] at stop
  cases stop

/-- Another digit takes the place of a lone zero, and comes behind other digits. -/
theorem withoutZeros_append (ds : List Char) (c : Char) :
    withoutZeros (ds ++ [c]) =
      if withoutZeros ds = ['0'] then [c] else withoutZeros ds ++ [c] := by
  have longer : skipZeros (ds ++ [c]) =
      if (skipZeros ds).isEmpty then skipZeros [c] else skipZeros ds ++ [c] :=
    List.dropWhile_append
  unfold withoutZeros
  rw [longer]
  cases rest : skipZeros ds with
  | nil =>
      by_cases zero : c = '0'
      · simp [skipZeros, zero]
      · simp [skipZeros, zero]
  | cons d rest' =>
      have other : d ≠ '0' := by
        rintro rfl
        exact head?_skipZeros ds (by rw [rest]; rfl)
      simp [other]

theorem withoutZeros_ne_nil (ds : List Char) : withoutZeros ds ≠ [] := by
  unfold withoutZeros
  split
  · simp
  · assumption

theorem mem_withoutZeros {ds : List Char} {c : Char} (member : c ∈ withoutZeros ds) :
    c = '0' ∨ c ∈ ds := by
  unfold withoutZeros at member
  split at member
  · exact .inl (List.mem_singleton.mp member)
  · exact .inr ((List.dropWhile_sublist _).mem member)

/-! ## One more digit, one more point -/

section Keys

variable {keys ds : List Char}

theorem typedNumeral_of_notMem (noPoint : '.' ∉ ds) : typedNumeral ds = withoutZeros ds := by
  have whole : wholePart ds = ds :=
    List.takeWhile_eq_self_iff.mpr fun c member => by
      simp only [bne_iff_ne]
      rintro rfl
      exact noPoint member
  rw [typedNumeral, whole, if_neg noPoint, List.append_nil]

theorem typedNumeral_pointed (noPoint : '.' ∉ ds) (es : List Char) :
    typedNumeral (ds ++ '.' :: es) = withoutZeros ds ++ '.' :: es.filter (· != '.') := by
  have digits : ∀ c ∈ ds, (c != '.') = true := fun c member => by
    simp only [bne_iff_ne]
    rintro rfl
    exact noPoint member
  have whole : wholePart (ds ++ '.' :: es) = ds := by
    rw [wholePart, List.takeWhile_append_of_pos digits]
    simp
  have fraction : fractionPart (ds ++ '.' :: es) = es := by
    rw [fractionPart, List.dropWhile_append_of_pos digits]
    simp
  rw [typedNumeral, whole, fraction, if_pos (by simp)]

/-- The point of a numeral is the first one that was typed. -/
theorem point_mem_typedNumeral : '.' ∈ typedNumeral keys ↔ '.' ∈ keys := by
  constructor
  · intro member
    by_contra noPoint
    rw [typedNumeral_of_notMem noPoint] at member
    rcases mem_withoutZeros member with zero | member
    · cases zero
    · exact noPoint member
  · intro member
    obtain ⟨ds, es, rfl, noPoint⟩ := List.eq_append_cons_of_mem member
    rw [typedNumeral_pointed noPoint]
    simp

theorem typedNumeral_append_digit {c : Char} (digit : c ≠ '.') :
    typedNumeral (keys ++ [c]) =
      if typedNumeral keys = ['0'] then [c] else typedNumeral keys ++ [c] := by
  by_cases pointed : '.' ∈ keys
  · obtain ⟨ds, es, rfl, noPoint⟩ := List.eq_append_cons_of_mem pointed
    have long : typedNumeral (ds ++ '.' :: es) ≠ ['0'] := by
      intro zero
      have member := point_mem_typedNumeral.mpr pointed
      rw [zero] at member
      revert member
      decide
    rw [if_neg long, List.append_assoc, List.cons_append, typedNumeral_pointed noPoint,
      typedNumeral_pointed noPoint, List.filter_append]
    simp [digit]
  · have noPoint : '.' ∉ keys ++ [c] := by simp [pointed, digit.symm]
    rw [typedNumeral_of_notMem noPoint, typedNumeral_of_notMem pointed, withoutZeros_append]

theorem typedNumeral_append_point :
    typedNumeral (keys ++ ['.']) =
      if '.' ∈ keys then typedNumeral keys else typedNumeral keys ++ ['.'] := by
  split
  · rename_i pointed
    obtain ⟨ds, es, rfl, noPoint⟩ := List.eq_append_cons_of_mem pointed
    rw [List.append_assoc, List.cons_append, typedNumeral_pointed noPoint,
      typedNumeral_pointed noPoint, List.filter_append]
    simp
  · rename_i noPoint
    rw [typedNumeral_pointed noPoint, typedNumeral_of_notMem noPoint]
    rfl

/-- A numeral that is typed is a number of the editor. -/
theorem typedNumeral_mem_run (chars : ∀ c ∈ keys, Text.isPlainDigit c = true ∨ c = '.') :
    typedNumeral keys ∈ Shape.run := by
  have plain {ds : List Char} (chars : ∀ c ∈ ds, Text.isPlainDigit c = true ∨ c = '.')
      (noPoint : '.' ∉ ds) : ∀ c ∈ withoutZeros ds, Text.isPlainDigit c = true := by
    intro c member
    rcases mem_withoutZeros member with rfl | member
    · decide
    · refine (chars c member).resolve_right ?_
      rintro rfl
      exact noPoint member
  refine (Shape.mem_run _).mpr ?_
  by_cases pointed : '.' ∈ keys
  · obtain ⟨ds, es, rfl, noPoint⟩ := List.eq_append_cons_of_mem pointed
    rw [typedNumeral_pointed noPoint]
    refine ⟨_, withoutZeros_ne_nil ds, plain (fun c member => chars c (by simp [member])) noPoint,
      .inr ⟨_, fun c member => ?_, rfl⟩⟩
    obtain ⟨member, digit⟩ := List.mem_filter.mp member
    exact (chars c (by simp [member])).resolve_right (by simpa using digit)
  · rw [typedNumeral_of_notMem pointed]
    exact ⟨_, withoutZeros_ne_nil keys, plain chars pointed, .inl rfl⟩

end Keys

namespace State

/-! ## The state -/

theorem enterDigit_ofResult (buffer : List Char) {c : Char} (digit : c ≠ '.') :
    (ofResult buffer).enterDigit [c] =
      ofResult (if buffer = ['0'] then [c] else buffer ++ [c]) := by
  by_cases zero : buffer = ['0']
  · subst zero
    simp [enterDigit, ofResult, digit.symm]
  · simp [enterDigit, ofResult, zero, digit.symm]

theorem enterDecimal_ofResult (buffer : List Char) :
    (ofResult buffer).enterDecimal =
      ofResult (if '.' ∈ buffer then buffer else buffer ++ ['.']) := by
  by_cases pointed : '.' ∈ buffer
  · simp [enterDecimal, ofResult, pointed]
  · have noPoint : '.' ∉ lastNumber buffer := fun member =>
      pointed (List.mem_reverse.mp ((List.takeWhile_sublist _).mem (List.mem_reverse.mp member)))
    simp [enterDecimal, ofResult, pointed, endsInFraction, noPoint]

/-- Digits and points lead to the state of the numeral that they come to. -/
theorem run_typed {steps : List (Places × Action)}
    (typing : ∀ step ∈ steps, step.2.Checked ∧ (step.2.kind = .digit ∨ step.2.kind = .decimal)) :
    initial.run steps = ofResult (typedNumeral (steps.flatMap (·.2.typed))) ∧
      ∀ c ∈ steps.flatMap (·.2.typed), Text.isPlainDigit c = true ∨ c = '.' := by
  induction steps using List.reverseRecOn with
  | nil => exact ⟨rfl, by simp⟩
  | append_singleton steps step ih =>
      obtain ⟨places, action⟩ := step
      obtain ⟨before, chars⟩ := ih fun step member => typing step (by simp [member])
      obtain ⟨checked, kind⟩ := typing (places, action) (by simp)
      rw [run_concat, before, apply_of_running rfl, List.flatMap_append, List.flatMap_singleton]
      cases checked with
      | @digit c plain =>
          have digit := Positional.ne_point_of_plain plain
          constructor
          · show (ofResult _).enterDigit [c] = ofResult (typedNumeral (_ ++ [c]))
            rw [enterDigit_ofResult _ digit, typedNumeral_append_digit digit]
          · exact List.forall_mem_append.mpr ⟨chars, List.forall_mem_singleton.mpr (.inl plain)⟩
      | decimal =>
          constructor
          · show (ofResult _).enterDecimal = ofResult (typedNumeral (_ ++ ['.']))
            rw [enterDecimal_ofResult, typedNumeral_append_point]
            simp only [point_mem_typedNumeral]
          · exact List.forall_mem_append.mpr ⟨chars, List.forall_mem_singleton.mpr (.inr rfl)⟩
      | operator op => simp [Action.kind] at kind
      | equals | clear | backspace => simp [Action.kind] at kind

/-! ## The number -/

theorem isDigit_fractionPart {r : List Char} (run : r ∈ Shape.run) :
    ∀ c ∈ fractionPart r, Text.isDigit c = true := by
  obtain ⟨ds, -, plain, rfl | ⟨es, plain', rfl⟩⟩ := (Shape.mem_run r).mp run
  · rw [(Positional.wholePart_of_plain plain).2]
    simp
  · rw [(Positional.wholePart_append plain).2]
    exact fun c member => Numeral.isDigit_of_plain (plain' c member)

/-- A buffer that is one number is evaluated to that number, rounded to its places. -/
theorem apply_equals_of_run {s : State} (running : s.errorState = false)
    (run : s.buffer ∈ Shape.run) {places : ℤ} (most : places ≤ 999999)
    (small : magnitudeOf s.buffer < 10 ^ 999999) :
    ∃ text, IsShortestNumeral text ∧
      IsRounding (max places 0) (magnitudeOf s.buffer) (positionalValue text) ∧
      (s.apply (.whole places) .equals).state = ofResult text := by
  have value := value_ofRun (isDigit_fractionPart run)
  have read : tokens s.buffer = .ok [.number (Number.ofRun s.buffer)] := by
    have alone : tokens (s.buffer ++ []) = _ := Shape.tokens_append_of_run run (by simp)
    rw [List.append_nil] at alone
    exact alone
  have kept : stripOperators s.buffer = s.buffer :=
    Shape.stripOperators_eq_self (Shape.endsInOperator_run run [])
  rw [← value] at small ⊢
  obtain ⟨shortest, rounding⟩ :=
    ((Number.ofRun s.buffer).eq_canonical_atPlaces_iff places _).mpr rfl
  have calculated : calculate .standard (.whole places) (stripOperators s.buffer) =
      .ok ((Number.ofRun s.buffer).atPlaces places).canonical := by
    rw [kept]
    exact calculate_number read small most
  exact ⟨_, shortest, rounding, apply_equals_of_calculate running calculated⟩

/-- Digits and points from the initial state on, in any order, leave a numeral: the digits before
the first point without the zeros in front of them, and, if there is a point, one point and all
digits that were typed behind the first one. If its number is below the largest power of ten, an
equals then shows the one shortest numeral of that number rounded half to even. -/
theorem typed_number_is_shown {steps : List (Places × Action)}
    (typing : ∀ step ∈ steps, step.2.Checked ∧ (step.2.kind = .digit ∨ step.2.kind = .decimal)) :
    let numeral := typedNumeral (steps.flatMap (·.2.typed))
    (initial.run steps).buffer = numeral ∧ initial.run steps = ofResult numeral ∧
    ∀ places : ℤ, 0 ≤ places → places ≤ 999999 → magnitudeOf numeral < 10 ^ 999999 →
      ∃ text, IsShortestNumeral text ∧
        IsRounding places (magnitudeOf numeral) (positionalValue text) ∧
        ((initial.run steps).apply (.whole places) .equals).state = ofResult text ∧
        ((initial.run steps).apply (.whole places) .equals).state.display =
          some (String.ofList text) := by
  intro numeral
  obtain ⟨typed, chars⟩ := run_typed typing
  refine ⟨congrArg State.buffer typed, typed, fun places whole most small => ?_⟩
  have run : (ofResult numeral).buffer ∈ Shape.run := typedNumeral_mem_run chars
  obtain ⟨text, shortest, rounding, shown⟩ := apply_equals_of_run rfl run most small
  rw [max_eq_left whole] at rounding
  rw [typed, shown]
  exact ⟨text, shortest, rounding, rfl, rfl⟩

/-- Zeros in front, a point without effect, and a tie: `7.505` to two places. -/
theorem typed_number_is_shown_tie :
    let press (c : Char) := (Places.standard, if c = '.' then Action.decimal else .digit [c])
    let steps := "007.5.05".toList.map press
    (∀ step ∈ steps, step.2.Checked ∧ (step.2.kind = .digit ∨ step.2.kind = .decimal)) ∧
      (initial.run steps).buffer = "7.505".toList ∧
      magnitudeOf "7.505".toList = 7505 / 1000 ∧
      ∃ text, IsRounding 2 (7505 / 1000) (positionalValue text) ∧
        ((initial.run steps).apply (.whole 2) .equals).state = ofResult text := by
  intro press steps
  have typing : ∀ step ∈ steps,
      step.2.Checked ∧ (step.2.kind = .digit ∨ step.2.kind = .decimal) := by
    refine List.forall_mem_map.mpr fun c member => ?_
    have keys : "007.5.05".toList.all (fun c => c == '.' || Text.isPlainDigit c) = true := by decide
    have key := List.all_eq_true.mp keys c member
    by_cases point : c = '.'
    · simp only [press, if_pos point]
      exact ⟨.decimal, .inr rfl⟩
    · have plain : Text.isPlainDigit c = true := by simpa [point] using key
      simp only [press, if_neg point]
      exact ⟨.digit plain, .inl rfl⟩
  have numeral : typedNumeral (steps.flatMap (·.2.typed)) = "7.505".toList := by decide
  obtain ⟨buffer, -, shown⟩ := typed_number_is_shown typing
  rw [numeral] at buffer shown
  have value : magnitudeOf "7.505".toList = 7505 / 1000 := by
    have whole : Numeral.valueOf (wholePart "7.505".toList) = 7 := by decide
    have fraction : Numeral.valueOf (fractionPart "7.505".toList) = 505 := by decide
    have length : (fractionPart "7.505".toList).length = 3 := by decide
    rw [magnitudeOf, whole, fraction, length]
    norm_num
  have small : magnitudeOf "7.505".toList < 10 ^ 999999 := by
    have large : (10 : ℚ) < 10 ^ 999999 := lt_self_pow₀ (by norm_num) (by decide)
    refine lt_trans ?_ large
    rw [value]
    norm_num
  obtain ⟨text, -, rounding, result, -⟩ := shown 2 (by decide) (by decide) small
  rw [value] at rounding
  exact ⟨typing, buffer, value, text, rounding, result⟩

end State

end Reckoner.Editor
