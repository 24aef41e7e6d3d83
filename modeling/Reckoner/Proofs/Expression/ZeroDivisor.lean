import Mathlib.Tactic
import Reckoner.Proofs.Expression.Evaluation

/-!
# Division by zero

An expression has a zero divisor where a slash comes before a signed number that denotes zero. Then
it has no result: the text is refused, or the evaluation stops at a zero divisor, unless an overflow
stops it before. Without one, neither the check of the text nor the evaluation reports a division by
zero; so the check refuses nothing that has a value.
-/

namespace Reckoner

open Spelling SignedNumber

variable {ctx : Context}

/-- Whether tokens divide by a signed number. -/
def Divides (tokens : List Token) (divisor : SignedNumber) : Prop :=
  ∃ before after, tokens = before ++ .operator .div :: (divisor.tokens ++ after)

/-- Whether tokens divide by a number that is zero once its signs are applied. -/
def HasZeroDivisor (ctx : Context) (tokens : List Token) : Prop :=
  ∃ divisor y, Divides tokens divisor ∧ divisor.Denotes ctx y ∧ y.value = 0

/-! ## Divisors of expressions -/

theorem SignedNumber.div_notMem_tokens (n : SignedNumber) : .operator .div ∉ n.tokens := by
  intro member
  simp only [SignedNumber.tokens, List.mem_append, List.mem_map, List.mem_singleton] at member
  rcases member with ⟨minus, -, sign⟩ | impossible
  · cases minus <;> cases sign
  · cases impossible

/-- What does not occur in the front of a list occurs in the rest. -/
theorem eq_append_of_notMem {α : Type} {front back before after : List α} {x : α}
    (absent : x ∉ front) (same : front ++ back = before ++ x :: after) :
    ∃ between, back = between ++ x :: after := by
  rcases List.append_eq_append_iff.mp same with ⟨between, -, rest⟩ | ⟨between, inside, rest⟩
  · exact ⟨between, rest⟩
  · cases between with
    | nil => exact ⟨[], rest.symm⟩
    | cons y between =>
        injection rest with head
        rw [inside, head] at absent
        simp at absent

/-- A slash in an expression is the operator of a link. -/
theorem mem_links_of_divides {links : List (Operator × SignedNumber)} {d : SignedNumber}
    (divides : Divides (linkTokens links) d) : (.div, d) ∈ links := by
  obtain ⟨before, after, shape⟩ := divides
  induction links generalizing before with
  | nil => simp [linkTokens] at shape
  | cons link links ih =>
      change .operator link.1 :: (link.2.tokens ++ linkTokens links) = _ at shape
      cases before with
      | nil =>
          injection shape with operator operand
          injection operator with op
          have same : link = (.div, d) :=
            Prod.ext op (SignedNumber.eq_of_tokens_append operand)
          rw [same]
          exact .head _
      | cons token before =>
          injection shape with _ shape
          obtain ⟨between, shape⟩ := eq_append_of_notMem link.2.div_notMem_tokens shape
          exact .tail _ (ih between shape)

theorem divides_iff_mem_links (s : Spelling) (d : SignedNumber) :
    Divides s.tokens d ↔ (.div, d) ∈ s.links := by
  constructor
  · rintro ⟨before, after, shape⟩
    obtain ⟨between, shape⟩ := eq_append_of_notMem s.first.div_notMem_tokens shape
    exact mem_links_of_divides ⟨between, after, shape⟩
  · intro member
    obtain ⟨front, back, links⟩ := List.mem_iff_append.mp member
    refine ⟨s.first.tokens ++ linkTokens front, linkTokens back, ?_⟩
    simp [Spelling.tokens, links, linkTokens]

/-- The signed numbers of links and what they denote, link by link. -/
theorem LinksDenote.exists_mem {spelled : List (Operator × SignedNumber)}
    {links : List (Operator × Number)} (denote : LinksDenote ctx spelled links) (op : Operator)
    (P : Number → Prop) :
    (∃ d y, (op, d) ∈ spelled ∧ d.Denotes ctx y ∧ P y) ↔ ∃ y, (op, y) ∈ links ∧ P y := by
  induction denote with
  | nil => simp
  | @cons s link spelled links head tail ih =>
      obtain ⟨same, denotes⟩ := head
      constructor
      · rintro ⟨d, y, member, denotes', holds⟩
        rcases List.mem_cons.mp member with here | there
        · subst here
          rw [SignedNumber.Denotes] at denotes denotes'
          rw [denotes] at denotes'
          injection denotes' with value
          exact ⟨y, by rw [← value]; exact List.mem_cons.mpr (.inl (Prod.ext same rfl)), holds⟩
        · obtain ⟨y, member, holds⟩ := ih.mp ⟨d, y, there, denotes', holds⟩
          exact ⟨y, .tail _ member, holds⟩
      · rintro ⟨y, member, holds⟩
        rcases List.mem_cons.mp member with here | there
        · subst here
          exact ⟨s.2, y, List.mem_cons.mpr (.inl (Prod.ext same.symm rfl)), denotes, holds⟩
        · obtain ⟨d, y, member, denotes, holds⟩ := ih.mpr ⟨y, there, holds⟩
          exact ⟨d, y, .tail _ member, denotes, holds⟩

/-- An expression has a zero divisor where a link of its chain divides by a zero. -/
theorem hasZeroDivisor_iff {s : Spelling} {chain : Chain} (denotes : s.Denotes ctx chain) :
    HasZeroDivisor ctx s.tokens ↔ ∃ link ∈ chain.links, DividesByZero link := by
  have links := LinksDenote.exists_mem denotes.2 .div fun y => y.coefficient = 0
  simp only [HasZeroDivisor, divides_iff_mem_links, Number.value_eq_zero_iff, links]
  constructor
  · rintro ⟨y, member, zero⟩
    exact ⟨_, member, rfl, zero⟩
  · rintro ⟨⟨op, y⟩, member, rfl, zero⟩
    exact ⟨y, member, zero⟩

/-! ## The check of the text -/

/-- What the check of a text finds: a slash, and behind it, after blanks, a literal zero. -/
theorem exists_slash {cs : List Char} (found : dividesByLiteralZero cs = true) :
    ∃ before after, cs = before ++ '/' :: after ∧
      startsWithZero (after.dropWhile Text.isBlank) = true := by
  induction cs with
  | nil => cases found
  | cons c rest ih =>
      rw [dividesByLiteralZero, Bool.or_eq_true, Bool.and_eq_true, beq_iff_eq] at found
      rcases found with ⟨rfl, zero⟩ | later
      · exact ⟨[], rest, rfl, zero⟩
      · obtain ⟨before, after, rfl, zero⟩ := ih later
        exact ⟨c :: before, after, rfl, zero⟩

theorem skipZeros_append (cs : List Char) :
    ∃ zeros, (∀ c ∈ zeros, c = '0') ∧ cs = zeros ++ skipZeros cs :=
  ⟨cs.takeWhile (· == '0'), fun c member => by simpa using List.mem_takeWhile_imp member,
    (List.takeWhile_append_dropWhile).symm⟩

theorem endsNumber_iff {cs : List Char} :
    endsNumber cs = true ↔ ∀ c, cs.head? = some c → Piece.isNumeral c = false := by
  cases cs <;> simp [endsNumber, Piece.isNumeral]

/-- Whether a run is a literal zero: zeros with at most one point, not in front. -/
structure IsZeroRun (run : List Char) : Prop where
  filled : run ≠ []
  chars : ∀ c ∈ run, c = '0' ∨ c = '.'
  points : run.count '.' ≤ 1
  digit : run ≠ ['.']

theorem count_point_zeros {zeros : List Char} (all : ∀ c ∈ zeros, c = '0') :
    zeros.count '.' = 0 :=
  List.count_eq_zero.mpr fun member => absurd (all '.' member) (by decide)

/-- A complete literal zero is a run that is as long as it can be. -/
theorem exists_zeroRun {cs : List Char} (zero : startsWithZero cs = true) :
    ∃ run rest, cs = run ++ rest ∧ IsZeroRun run ∧ endsNumber rest = true := by
  unfold startsWithZero at zero
  split at zero
  · rename_i cs
    obtain ⟨zeros, all, shape⟩ := skipZeros_append cs
    split at zero
    · rename_i rest split
      obtain ⟨zeros', all', shape'⟩ := skipZeros_append rest
      refine ⟨'0' :: (zeros ++ '.' :: zeros'), skipZeros rest, ?_, ⟨by simp, ?_, ?_, by simp⟩, zero⟩
      · rw [shape, split, shape']
        simp [← shape']
      · intro c member
        simp only [List.mem_cons, List.mem_append] at member
        rcases member with rfl | member | rfl | member
        · exact .inl rfl
        · exact .inl (all c member)
        · exact .inr rfl
        · exact .inl (all' c member)
      · simp [count_point_zeros all, count_point_zeros all']
    · refine ⟨'0' :: zeros, skipZeros cs, ?_, ⟨by simp, ?_, ?_, ?_⟩, zero⟩
      · rw [List.cons_append, ← shape]
      · intro c member
        rcases List.mem_cons.mp member with rfl | member
        · exact .inl rfl
        · exact .inl (all c member)
      · simp [count_point_zeros all]
      · simp
  · cases zero

theorem ofDigits_eq_zero {ds : List ℕ} (zeros : ∀ d ∈ ds, d = 0) : Numeral.ofDigits ds = 0 := by
  induction ds with
  | nil => rfl
  | cons d ds ih =>
      have : d = 0 := zeros d (.head _)
      subst this
      exact ih fun d member => zeros d (.tail _ member)

theorem IsZeroRun.coefficient {run : List Char} (zero : IsZeroRun run) :
    (Number.ofRun run).coefficient = 0 := by
  apply ofDigits_eq_zero
  intro d member
  obtain ⟨c, inside, value⟩ := List.mem_filterMap.mp member
  rcases zero.chars c inside with rfl | rfl
  · exact (Option.some.inj value).symm
  · cases value

theorem IsZeroRun.isNumeral {run : List Char} (zero : IsZeroRun run) :
    ∀ c ∈ run, Piece.isNumeral c = true := by
  intro c member
  rcases zero.chars c member with rfl | rfl <;> decide

/-- No digit of any script is blank. -/
theorem isBlank_digit :
    ∀ first ∈ Text.digitZeros, ∀ d < 10, Text.isBlank (Char.ofNat (first + d)) = false := by
  decide +kernel

theorem isNumeral_of_isBlank {c : Char} (blank : Text.isBlank c = true) :
    Piece.isNumeral c = false := by
  rw [Piece.isNumeral, Bool.or_eq_false_iff]
  constructor
  · rw [Text.isDigit, Text.digitValue?, Option.isSome_map, Bool.eq_false_iff]
    intro digit
    obtain ⟨first, found⟩ := Option.isSome_iff_exists.mp digit
    have range := List.find?_some found
    simp only [Bool.and_eq_true, decide_eq_true_eq] at range
    have none := isBlank_digit first (List.mem_of_find?_eq_some found) (c.toNat - first) (by omega)
    rw [show first + (c.toNat - first) = c.toNat by omega, Char.ofNat_toNat, blank] at none
    cases none
  · rw [beq_eq_false_iff_ne]
    rintro rfl
    cases blank

/-- The blanks of a text that has tokens are spaces. -/
theorem eq_space_of_isBlank {c : Char} {cs : List Char} {ts : List Token}
    (blank : Text.isBlank c = true) (read : tokens (c :: cs) = .ok ts) : c = ' ' := by
  rw [tokens, pieces_cons_mark (isNumeral_of_isBlank blank), tokensOf_cons] at read
  obtain ⟨token?, marked, -⟩ := Results.bind_eq_ok_iff.mp read
  simp only [Piece.token?, markToken?] at marked
  split at marked
  · rename_i op symbol
    unfold Operator.ofChar? at symbol
    split at symbol <;> first | cases blank | cases symbol
  · split at marked
    · assumption
    · cases marked

theorem tokens_dropWhile_isBlank {cs : List Char} {ts : List Token} (read : tokens cs = .ok ts) :
    tokens (cs.dropWhile Text.isBlank) = .ok ts := by
  induction cs with
  | nil => exact read
  | cons c cs ih =>
      rw [List.dropWhile_cons]
      split
      · rename_i blank
        have space := eq_space_of_isBlank blank read
        rw [space, tokens_cons_blank] at read
        exact ih read
      · exact read

/-- What the check of a text finds is a zero divisor among the tokens. -/
theorem hasZeroDivisor_of_dividesByLiteralZero {cs : List Char} {ts : List Token}
    (read : tokens cs = .ok ts) (found : dividesByLiteralZero cs = true) :
    HasZeroDivisor ctx ts := by
  obtain ⟨before, after, rfl, zero⟩ := exists_slash found
  obtain ⟨run, rest, shape, zeroRun, ends⟩ := exists_zeroRun zero
  have split := tokens_append_operator .div before after
  change tokens (before ++ '/' :: after) = _ at split
  rw [split] at read
  obtain ⟨front, -, read⟩ := Results.bind_eq_ok_iff.mp read
  obtain ⟨back, behind, rfl⟩ := Results.map_eq_ok_iff.mp read
  have behind := tokens_dropWhile_isBlank behind
  rw [shape, tokens_append_run zeroRun.filled zeroRun.isNumeral (endsNumber_iff.mp ends),
    runToken_eq_number zeroRun.points zeroRun.digit] at behind
  obtain ⟨others, -, rfl⟩ := Results.map_eq_ok_iff.mp behind
  refine ⟨⟨[], Number.ofRun run⟩, Number.ofRun run, ⟨front, others, rfl⟩, rfl, ?_⟩
  exact Number.value_eq_zero_iff.mpr zeroRun.coefficient

/-! ## Rounding divides by nothing -/

theorem kind_arithmetic {signal : Signal} (other : signal ≠ .divisionByZero) :
    (CalculationError.arithmetic signal).kind = .invalidResult := by
  cases signal <;> first | rfl | exact absurd rfl other

theorem ne_divisionByZero_of_powerOfTen {power : ℤ} {signal : Signal}
    (failed : Number.powerOfTen ctx power = .error signal) : signal ≠ .divisionByZero := by
  unfold Number.powerOfTen at failed
  split at failed
  · injection failed with same
    simp [← same]
  · simp [Number.signal_of_fit failed]

theorem ne_divisionByZero_of_quantize {x : Number} {exponent : ℤ} {signal : Signal}
    (failed : x.quantize ctx exponent = .error signal) : signal ≠ .divisionByZero := by
  have invalid : signal = .invalidOperation := by
    unfold Number.quantize at failed
    simp only at failed
    split_ifs at failed <;> injection failed with same <;> exact same.symm
  simp [invalid]

section Kinds

variable {x : Number} {e : CalculationError}

theorem kind_of_roundWith {precision : ℕ} {places : ℤ}
    (failed : x.roundWith ctx precision places = .error e) :
    e.kind = .invalidResult ∨ e.kind = .general := by
  unfold Number.roundWith at failed
  simp only at failed
  split at failed
  · rename_i signal unit
    injection failed with same
    rw [← same]
    split at unit
    · cases unit
    · exact .inl (kind_arithmetic (ne_divisionByZero_of_powerOfTen unit))
  · split at failed
    · cases failed
      exact .inr rfl
    · split at failed
      · rename_i signal quantized
        injection failed with same
        rw [← same]
        exact .inl (kind_arithmetic (ne_divisionByZero_of_quantize quantized))
      · cases failed

theorem kind_of_roundTo {places : ℤ} (failed : x.roundTo ctx places = .error e) :
    e.kind = .invalidResult ∨ e.kind = .general := by
  unfold Number.roundTo at failed
  simp only at failed
  split at failed
  · cases failed
    exact .inr rfl
  · split at failed
    · cases failed
      exact .inr rfl
    · exact kind_of_roundWith failed

theorem kind_of_roundToFraction {places : Float}
    (failed : x.roundToFraction ctx places = .error e) :
    e.kind = .invalidResult ∨ e.kind = .general := by
  unfold Number.roundToFraction at failed
  split_ifs at failed
  · exact kind_of_roundTo failed
  · cases failed
    exact .inr rfl
  · cases failed
    exact .inr rfl
  · exact kind_of_roundWith failed

/-- A value that cannot be rounded is reported as no finite result, or as an unexpected error. -/
theorem kind_cases_of_rounded {places : Places} {v : Decimal}
    (failed : v.rounded ctx places = .error e) : e.kind = .invalidResult ∨ e.kind = .general := by
  unfold Decimal.rounded at failed
  split at failed
  · split at failed
    · exact kind_of_roundTo failed
    · exact kind_of_roundToFraction failed
    · cases failed
      exact .inr rfl
  · cases failed
    exact .inl rfl

/-- Rounding a value fails in other ways than by a division by zero. -/
theorem kind_of_rounded {places : Places} {v : Decimal} (failed : v.rounded ctx places = .error e) :
    e.kind ≠ .divisionByZero := by
  rcases kind_cases_of_rounded failed with kind | kind <;> simp [kind]

end Kinds

/-! ## Division by zero is reported exactly where there is a zero divisor -/

/-- The evaluation of an expression fails if it has a zero divisor, and otherwise by overflow
only. -/
theorem evaluate_zeroDivisor {cs : List Char} {ts : List Token} {tree : Tree}
    (read : tokens cs = .ok ts) (parsed : parse ctx cs = .ok tree) :
    (HasZeroDivisor ctx ts → ∃ e, tree.evaluate ctx = .error e) ∧
    ∀ e, tree.evaluate ctx = .error e →
      (e = .divisionByZero ∧ HasZeroDivisor ctx ts) ∨ e = .arithmetic .overflow := by
  obtain ⟨s, chain, spelled, denotes, rfl⟩ := exists_spelling_of_parse parsed
  rw [read] at spelled
  injection spelled with same
  rw [same, hasZeroDivisor_iff denotes, evaluate_ofChain]
  constructor
  · rintro ⟨link, member, zero⟩
    cases passed : (Registers.start chain.first).run ctx chain.links with
    | error e => exact ⟨e, rfl⟩
    | ok y => exact absurd zero ((Registers.run_ok passed).1 link member)
  · intro e failed
    exact Registers.run_error (Results.map_eq_error_iff.mp failed)

/-- The check of the text refuses nothing that has a value. -/
theorem dividesByLiteralZero_of_evaluate {cs : List Char} {v : Decimal}
    (evaluated : evaluate ctx cs = .ok v) : dividesByLiteralZero cs = false := by
  unfold evaluate at evaluated
  cases parsed : parse ctx cs with
  | error e =>
      rw [parsed] at evaluated
      cases evaluated
  | ok tree =>
      rw [parsed] at evaluated
      obtain ⟨s, chain, read, -, -⟩ := exists_spelling_of_parse parsed
      by_contra found
      rw [Bool.not_eq_false] at found
      obtain ⟨e, failed⟩ := (evaluate_zeroDivisor read parsed).1
        (hasZeroDivisor_of_dividesByLiteralZero read found)
      change tree.evaluate ctx = .ok v at evaluated
      rw [failed] at evaluated
      cases evaluated

/-- An expression that divides by a literal or a signed zero has no result at any number of places:
it reports a division by zero, unless the evaluation has overflowed before. An expression that does
not never reports one. And the check of the text refuses none that the evaluation gives a value. -/
theorem calculate_reports_zero_divisors {cs : List Char} {ts : List Token} {tree : Tree}
    (read : tokens cs = .ok ts) (parsed : parse .standard cs = .ok tree) (places : Places) :
    (HasZeroDivisor .standard ts → ∃ e, calculate .standard places cs = .error e ∧
      (e.kind = .divisionByZero ∨
        e = .arithmetic .overflow ∧ tree.evaluate .standard = .error e)) ∧
    (¬HasZeroDivisor .standard ts → ∀ e, calculate .standard places cs = .error e →
      e.kind ≠ .divisionByZero) ∧
    (∀ v, tree.evaluate .standard = .ok v → dividesByLiteralZero cs = false) := by
  obtain ⟨fails, errors⟩ := evaluate_zeroDivisor read parsed
  have evaluated : evaluate .standard cs = tree.evaluate .standard := by rw [evaluate, parsed]
  refine ⟨fun zero => ?_, fun none e failed => ?_, fun v value => ?_⟩
  · unfold calculate
    split
    · exact ⟨_, rfl, .inl rfl⟩
    · obtain ⟨e, failed⟩ := fails zero
      rw [evaluated, failed]
      refine ⟨e, rfl, ?_⟩
      rcases errors e failed with ⟨rfl, -⟩ | overflow
      · exact .inl rfl
      · exact .inr ⟨overflow, rfl⟩
  · unfold calculate at failed
    split at failed
    · rename_i found
      exact absurd (hasZeroDivisor_of_dividesByLiteralZero read found) none
    · rw [evaluated] at failed
      split at failed
      · rename_i e' stopped
        injection failed with same
        subst same
        rcases errors e' stopped with ⟨-, zero⟩ | rfl
        · exact absurd zero none
        · simp [CalculationError.kind]
      · exact kind_of_rounded failed
  · exact dividesByLiteralZero_of_evaluate (evaluated.trans value)

theorem calculate_reports_signed_zero :
    HasZeroDivisor .standard
      [.number ⟨false, 6, 0⟩, .operator .div, .operator .sub, .number ⟨false, 0, 0⟩] ∧
    ∃ e, calculate .standard .standard "6/-0".toList = .error e ∧
      (e.kind = .divisionByZero ∨
        e = .arithmetic .overflow ∧
          (Tree.node .div (.leaf ⟨false, 6, 0⟩) (.leaf ⟨false, 0, 0⟩)).evaluate .standard =
            .error e) := by
  have read : tokens "6/-0".toList = .ok
      [.number ⟨false, 6, 0⟩, .operator .div, .operator .sub, .number ⟨false, 0, 0⟩] := by
    decide
  have parsed : parse .standard "6/-0".toList = .ok
      (.node .div (.leaf ⟨false, 6, 0⟩) (.leaf ⟨false, 0, 0⟩)) := by
    decide
  have zero : HasZeroDivisor .standard
      [.number ⟨false, 6, 0⟩, .operator .div, .operator .sub, .number ⟨false, 0, 0⟩] := by
    refine ⟨⟨[true], ⟨false, 0, 0⟩⟩, ⟨false, 0, 0⟩, ⟨[.number ⟨false, 6, 0⟩], [], rfl⟩, ?_, ?_⟩
    · show Number.negated _ 1 _ = _
      decide
    · simp [Number.value, Number.magnitude]
  exact ⟨zero, (calculate_reports_zero_divisors read parsed .standard).1 zero⟩

end Reckoner
