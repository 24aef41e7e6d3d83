import Mathlib.Tactic
import Reckoner.Proofs.Expression.Failure

/-!
# What is reported

An expression that has no result is reported with its text, as a division by zero, as no expression,
or as no finite result. The last is reported only where a unary minus or an operation overflows, or
where the value is too large to be shown. Nothing else can go wrong, but that the digits of a number
outrun the working precision, which takes a text of nearly `10 ^ 18` characters.
-/

namespace Reckoner

open SignedNumber

/-! ## Texts that are no expression -/

/-- The errors of texts that are no expression. -/
inductive CalculationError.OfReading : CalculationError → Prop where
  | secondPoint : OfReading .secondPoint
  | lonePoint : OfReading .lonePoint
  | strayCharacter (c : Char) : OfReading (.strayCharacter c)
  | strayToken (token : Token) : OfReading (.strayToken token)
  | emptyExpression : OfReading .emptyExpression
  | missingNumber : OfReading .missingNumber

variable {ctx : Context} {cs : List Char} {e : CalculationError}

theorem ofReading_of_token? {piece : Piece} (failed : piece.token? = .error e) : e.OfReading := by
  cases piece with
  | run cs =>
      have failed : runToken cs = .error e := Results.map_eq_error_iff.mp failed
      unfold runToken at failed
      split at failed
      · cases failed
        exact .secondPoint
      · split at failed <;> cases failed
        exact .lonePoint
  | mark c =>
      change markToken? c = .error e at failed
      unfold markToken? at failed
      split at failed
      · cases failed
      · split at failed <;> cases failed
        exact .strayCharacter c

theorem ofReading_of_tokens (failed : tokens cs = .error e) : e.OfReading := by
  unfold tokens at failed
  generalize pieces cs = ps at failed
  induction ps with
  | nil => cases failed
  | cons piece ps ih =>
      rw [tokensOf_cons] at failed
      rcases Results.bind_eq_error_iff.mp failed with here | ⟨token?, -, there⟩
      · exact ofReading_of_token? here
      · exact ih (Results.map_eq_error_iff.mp there)

/-- Only the first of any minuses can overflow: its result fits. -/
theorem neg_of_negated_error (positive : 0 < ctx.precision) {count : ℕ} {x : Number}
    (failed : x.negated ctx count = .error e) :
    e = .arithmetic .overflow ∧ x.neg ctx = .error .overflow := by
  cases count with
  | zero => cases failed
  | succ count =>
      cases minus : x.neg ctx with
      | error signal =>
          obtain rfl : signal = .overflow := Number.signal_of_fit minus
          rw [Number.negated, minus] at failed
          injection failed with same
          exact ⟨same.symm, rfl⟩
      | ok y =>
          obtain ⟨z, negated⟩ :=
            exists_negated_of_fits positive count (Number.fits_of_neg positive minus)
          rw [negated_succ count minus, negated] at failed
          cases failed

/-- Reading tokens fails because they are no expression, or because a unary minus overflows. -/
theorem reading_error (positive : 0 < ctx.precision) (ts : List Token) :
    (∀ minuses e, Chain.ofOperand ctx minuses ts = .error e → e.OfReading ∨
      e = .arithmetic .overflow ∧ ∃ x, .number x ∈ ts ∧ x.neg ctx = .error .overflow) ∧
    (∀ e, Chain.linksOf ctx ts = .error e → e.OfReading ∨
      e = .arithmetic .overflow ∧ ∃ x, .number x ∈ ts ∧ x.neg ctx = .error .overflow) := by
  induction ts with
  | nil =>
      constructor
      · intro minuses e failed
        cases failed
        exact .inl .missingNumber
      · intro e failed
        cases failed
  | cons token rest ih =>
      obtain ⟨operands, others⟩ := ih
      -- An error further on is about a number further on.
      have later {e : CalculationError}
          (behind : e.OfReading ∨ e = .arithmetic .overflow ∧
            ∃ x, .number x ∈ rest ∧ x.neg ctx = .error .overflow) :
          e.OfReading ∨ e = .arithmetic .overflow ∧
            ∃ x, .number x ∈ token :: rest ∧ x.neg ctx = .error .overflow :=
        behind.imp_right fun ⟨same, x, member, minus⟩ => ⟨same, x, .tail _ member, minus⟩
      constructor
      · intro minuses e failed
        cases token with
        | number x =>
            rw [ofOperand_number] at failed
            rcases Results.bind_eq_error_iff.mp failed with here | ⟨y, -, there⟩
            · obtain ⟨same, minus⟩ := neg_of_negated_error positive here
              exact .inr ⟨same, x, .head _, minus⟩
            · exact later (others e (Results.map_eq_error_iff.mp there))
        | operator op =>
            rcases sign_or_product op with ⟨minus, sign⟩ | product
            · rw [sign, ofOperand_sign] at failed
              exact later (operands _ e failed)
            · rw [ofOperand_product minuses product] at failed
              cases failed
              exact .inl (.strayToken _)
      · intro e failed
        cases token with
        | number x =>
            cases failed
            exact .inl (.strayToken _)
        | operator op =>
            rw [linksOf_operator] at failed
            exact later (operands 0 e (Results.map_eq_error_iff.mp failed))

/-- Whether a unary minus overflows on a number of a text. -/
def MinusOverflow (ctx : Context) (cs : List Char) : Prop :=
  ∃ ts x, tokens cs = .ok ts ∧ .number x ∈ ts ∧ x.neg ctx = .error .overflow

theorem parse_error (positive : 0 < ctx.precision) (failed : parse ctx cs = .error e) :
    e.OfReading ∨ e = .arithmetic .overflow ∧ MinusOverflow ctx cs := by
  cases read : tokens cs with
  | error e' =>
      rw [parse, read] at failed
      injection failed with same
      exact .inl (same ▸ ofReading_of_tokens read)
  | ok ts =>
      rw [parse_of_tokens read, Tree.ofTokens] at failed
      have failed := Results.map_eq_error_iff.mp failed
      unfold Chain.ofTokens at failed
      split at failed
      · cases failed
        exact .inl .emptyExpression
      · refine ((reading_error positive ts).1 0 e failed).imp_right ?_
        rintro ⟨same, x, member, minus⟩
        exact ⟨same, ts, x, read, member, minus⟩

/-- An evaluation fails because the text is no expression, divides by zero, or overflows in a unary
minus or in an operation. -/
theorem evaluate_error_cases (positive : 0 < ctx.precision) (failed : evaluate ctx cs = .error e) :
    e.OfReading ∨ e = .divisionByZero ∨
      e = .arithmetic .overflow ∧ (MinusOverflow ctx cs ∨ OperationOverflow ctx cs) := by
  rcases evaluate_error failed with unread | zero | ⟨overflow, operation⟩
  · rcases parse_error positive unread with reading | ⟨overflow, minus⟩
    · exact .inl reading
    · exact .inr (.inr ⟨overflow, .inl minus⟩)
  · exact .inr (.inl zero)
  · exact .inr (.inr ⟨overflow, .inr operation⟩)

/-! ## Values that cannot be shown -/

theorem flatMap_chars_pieces (cs : List Char) : (pieces cs).flatMap Piece.chars = cs := by
  induction cs with
  | nil => rfl
  | cons c cs ih =>
      show (Piece.push c (pieces cs)).flatMap Piece.chars = _
      unfold Piece.push
      split
      · split
        · rename_i run rest shape
          rw [shape] at ih
          simpa [Piece.chars] using ih
        · simpa [Piece.chars] using ih
      · simpa [Piece.chars] using ih

theorem length_le_of_mem_pieces {run : List Char} (member : .run run ∈ pieces cs) :
    run.length ≤ cs.length := by
  have inside : run ∈ (pieces cs).map Piece.chars := List.mem_map.mpr ⟨_, member, rfl⟩
  have sublist := List.sublist_flatten_of_mem inside
  rw [← List.flatMap_def, flatMap_chars_pieces] at sublist
  exact sublist.length_le

/-- The highest digit of a number lies no higher than its run is long. -/
theorem adjusted_ofRun_le (run : List Char) : (Number.ofRun run).adjusted ≤ run.length := by
  have width := Numeral.digitCount_le_of_le_pow (Numeral.valueOf_lt run).le
  have places := exponent_ofRun_nonpos run
  have digits : (Number.ofRun run).digitCount ≤ run.length + 1 := width
  unfold Number.adjusted
  omega

/-- The highest digit of a value lies within the range, or no higher than the text is long. -/
theorem adjusted_le_max_of_evaluate {x : Number} (positive : 0 < ctx.precision)
    (evaluated : evaluate ctx cs = .ok (.finite x)) : x.adjusted ≤ max ctx.emax cs.length := by
  obtain ⟨y, same, written⟩ := exists_number_of_evaluate evaluated
  injection same with same
  subst same
  rcases written with ⟨run, member, rfl⟩ | fitted
  · have high := adjusted_ofRun_le run
    have long := length_le_of_mem_pieces member
    omega
  · have high := fitted.adjusted_le positive
    omega

/-- Rounding to places fails where the result is beyond the range, or where the digits outrun the
working precision. -/
theorem roundTo_error {x : Number} {places : ℤ} (most : places ≤ 999999)
    (failed : x.roundTo .standard places = .error e) :
    e = .arithmetic .invalidOperation ∨
      e.kind = .general ∧ e.code = "9999" ∧ Number.precisionLimit < x.precisionFor places := by
  by_cases room : x.precisionFor places ≤ Number.precisionLimit
  · rw [Number.roundTo_eq most room] at failed
    split at failed <;> cases failed
    exact .inl rfl
  · unfold Number.roundTo at failed
    simp only at failed
    split at failed
    · cases failed
      exact .inr ⟨rfl, rfl, not_le.mp room⟩
    · rw [if_pos (not_le.mp room)] at failed
      cases failed
      exact .inr ⟨rfl, rfl, not_le.mp room⟩

/-! ## Reports -/

/-- The kinds and codes under which calculations are reported. -/
def reportedAs : List (ErrorKind × String) :=
  [(.divisionByZero, "3003"), (.invalidExpression, "3008"), (.invalidExpression, "3011"),
    (.invalidExpression, "3027"), (.invalidResult, "3026")]

theorem CalculationError.OfReading.reported (reading : e.OfReading) :
    (e.kind, e.code) ∈ reportedAs ∧ e.kind = .invalidExpression := by
  have twoPoints : (.invalidExpression, "3008") ∈ reportedAs := by decide
  have unexpected : (.invalidExpression, "3011") ∈ reportedAs := by decide
  have missing : (.invalidExpression, "3027") ∈ reportedAs := by decide
  cases reading with
  | secondPoint => exact ⟨twoPoints, rfl⟩
  | lonePoint => exact ⟨unexpected, rfl⟩
  | strayCharacter c => exact ⟨unexpected, rfl⟩
  | strayToken token => exact ⟨unexpected, rfl⟩
  | emptyExpression => exact ⟨missing, rfl⟩
  | missingNumber => exact ⟨missing, rfl⟩

/-- Every reason why a calculation has no result. -/
inductive Fails (places : ℤ) (cs : List Char) : CalculationError → Prop where
  | zeroDivisor : Fails places cs .zeroDivisor
  | divisionByZero : Fails places cs .divisionByZero
  | reading {e : CalculationError} : e.OfReading → Fails places cs e
  | overflow : MinusOverflow .standard cs ∨ OperationOverflow .standard cs →
      Fails places cs (.arithmetic .overflow)
  | tooLarge : IsTooLarge places cs → Fails places cs (.arithmetic .invalidOperation)
  | outrun {e : CalculationError} : e.kind = .general → e.code = "9999" →
      10 ^ 18 ≤ cs.length + 1000001 → Fails places cs e

theorem fails_of_calculate {places : ℤ} (most : places ≤ 999999)
    (failed : calculate .standard (.whole places) cs = .error e) : Fails places cs e := by
  rcases calculate_error_cases failed with rfl | stopped | ⟨v, evaluated, unshown⟩
  · exact .zeroDivisor
  · rcases evaluate_error_cases (by decide) stopped with reading | rfl | ⟨rfl, overflow⟩
    · exact .reading reading
    · exact .divisionByZero
    · exact .overflow overflow
  · have large := isTooLarge_of_rounded most evaluated unshown
    obtain ⟨x, rfl, -⟩ := exists_number_of_evaluate evaluated
    rcases roundTo_error most unshown with rfl | ⟨kind, code, beyond⟩
    · exact .tooLarge large
    · have high := adjusted_le_max_of_evaluate (by decide) evaluated
      have limit : Number.precisionLimit = 10 ^ 18 - 1 := by decide
      have largest : Context.standard.emax = 999999 := rfl
      rw [Number.precisionFor, Number.roundingPrecision, limit] at beyond
      exact .outrun kind code (by omega)

/-- The kinds and codes of failures. Only digits that outrun the working precision have another. -/
theorem Fails.reported {places : ℤ} (fails : Fails places cs e) :
    (e.kind, e.code) ∈ reportedAs ∨ e.code = "9999" ∧ 10 ^ 18 ≤ cs.length + 1000001 := by
  cases fails with
  | zeroDivisor => exact .inl (by decide)
  | divisionByZero => exact .inl (by decide)
  | reading reading => exact .inl reading.reported.1
  | overflow _ => exact .inl (by decide)
  | tooLarge _ => exact .inl (by decide)
  | outrun _ code long => exact .inr ⟨code, long⟩

/-- A calculation that has no result is reported with its text, as a division by zero, as no
expression, or as no finite result, and as the last only where a unary minus or an operation
overflows, or where the rounded value is too large to be shown. The one exception are texts of
nearly `10 ^ 18` characters, more than any memory holds: their digits may outrun the working
precision. Values are finite, so that the check of this never fails; no operation signals a division
by zero, and no operator is unknown. -/
theorem calculation_fails_as_reported {places : ℤ} (most : places ≤ 999999) (cs : List Char) :
    (∀ report, calculation .standard (.whole places) cs = .error report →
      report.equation = some cs ∧
      ((report.kind, report.code) ∈ reportedAs ∨
        report.code = "9999" ∧ 10 ^ 18 ≤ cs.length + 1000001) ∧
      (report.kind = .invalidResult →
        MinusOverflow .standard cs ∨ OperationOverflow .standard cs ∨ IsTooLarge places cs)) ∧
    (∀ v, evaluate .standard cs = .ok v → ∃ x, v = .finite x) ∧
    calculate .standard (.whole places) cs ≠ .error .notFinite ∧
    calculate .standard (.whole places) cs ≠ .error (.arithmetic .divisionByZero) ∧
    ∀ name, calculate .standard (.whole places) cs ≠ .error (.unknownOperator name) := by
  refine ⟨fun report failed => ?_, fun v evaluated => ?_, fun failed => ?_, fun failed => ?_,
    fun name failed => ?_⟩
  · obtain ⟨e, stopped, rfl⟩ := Results.mapError_eq_error_iff.mp failed
    refine ⟨rfl, ?_⟩
    show ((e.kind, e.code) ∈ reportedAs ∨ e.code = "9999" ∧ _) ∧ (e.kind = .invalidResult → _)
    cases fails_of_calculate most stopped with
    | zeroDivisor => exact ⟨.inl (by decide), by simp [CalculationError.kind]⟩
    | divisionByZero => exact ⟨.inl (by decide), by simp [CalculationError.kind]⟩
    | reading reading =>
        obtain ⟨reported, kind⟩ := reading.reported
        exact ⟨.inl reported, by simp [kind]⟩
    | overflow overflow => exact ⟨.inl (by decide), fun _ => by tauto⟩
    | tooLarge large => exact ⟨.inl (by decide), fun _ => .inr (.inr large)⟩
    | outrun kind code long => exact ⟨.inr ⟨code, long⟩, by simp [kind]⟩
  · obtain ⟨x, same, -⟩ := exists_number_of_evaluate evaluated
    exact ⟨x, same⟩
  all_goals
    cases fails_of_calculate most failed with
    | reading reading => cases reading
    | outrun kind code long => cases kind

/-- A division by a zero that only the evaluation finds. -/
theorem calculation_fails_as_reported_signed_zero :
    (2 : ℤ) ≤ 999999 ∧
    ∃ report, calculation .standard (.whole 2) "7/-0".toList = .error report ∧
      report.equation = some "7/-0".toList ∧ (report.kind, report.code) ∈ reportedAs := by
  have most : (2 : ℤ) ≤ 999999 := by decide
  have failed : calculation .standard (.whole 2) "7/-0".toList =
      .error (CalculationError.divisionByZero.report (some "7/-0".toList)) := by
    decide +kernel
  obtain ⟨equation, kind | ⟨code, -⟩, -⟩ := (calculation_fails_as_reported most _).1 _ failed
  · exact ⟨most, _, failed, equation, kind⟩
  · exact absurd code (by decide)

end Reckoner
