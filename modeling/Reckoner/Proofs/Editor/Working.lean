import Mathlib.Tactic
import Reckoner.Proofs.Editor.Reachable
import Reckoner.Proofs.Expression.Failure

/-!
# What equals evaluates

Without the operators at its end, the buffer of a state that can be reached is empty, or numbers
with single operators between them and maybe one in front. A plus or a minus in front is a sign, but
a star or a slash is not: it takes the place of the minus that is left where a negative result is
taken back. Such a text is the only one that equals finds invalid; every other failure is a division
by zero or a number that is too large.
-/

namespace Reckoner.Editor

open Spelling SignedNumber

open scoped Computability

/-! ## The tokens of complete texts -/

/-- Links whose numbers have no signs. -/
def bareLinks (links : List (Operator × Number)) : List (Operator × SignedNumber) :=
  links.map fun link => (link.1, ⟨[], link.2⟩)

theorem linksDenote_bareLinks (ctx : Context) (links : List (Operator × Number)) :
    LinksDenote ctx (bareLinks links) links := by
  induction links with
  | nil => exact .nil
  | cons link links ih => exact .cons ⟨rfl, rfl⟩ ih

namespace Shape

/-- Numbers with operators between them. -/
def unsigned : Language Char := run * (operator * run)∗

theorem complete_eq_unsigned : complete = (1 + operator) * unsigned := by
  rw [complete, unsigned, mul_assoc]

theorem tokens_append_of_run {r rest : List Char} (run : r ∈ run)
    (ends : ∀ c, rest.head? = some c → Piece.isNumeral c = false) :
    tokens (r ++ rest) = (tokens rest).map (.number (Number.ofRun r) :: ·) := by
  obtain ⟨ds, filled, plain, parts⟩ := (mem_run r).mp run
  exact tokens_append_number filled plain parts ends

theorem exists_tokens_links {cs : List Char} (member : cs ∈ (operator * run)∗) :
    (∃ links, tokens cs = .ok (linkTokens (bareLinks links))) ∧
      ∀ c, cs.head? = some c → Piece.isNumeral c = false := by
  obtain ⟨parts, rfl, all⟩ := Language.mem_kstar.mp member
  clear member
  induction parts with
  | nil => exact ⟨⟨[], rfl⟩, by simp⟩
  | cons part parts ih =>
      obtain ⟨⟨links, read⟩, ends⟩ := ih fun part inside => all part (.tail _ inside)
      obtain ⟨_, ⟨op, rfl⟩, r, run, rfl⟩ := Language.mem_mul.mp (all part (.head _))
      constructor
      · refine ⟨(op, Number.ofRun r) :: links, ?_⟩
        rw [List.flatten_cons, List.append_assoc, List.singleton_append, tokens_cons_operator,
          tokens_append_of_run run ends, read]
        rfl
      · intro c first
        injection first with same
        rw [← same]
        exact isNumeral_symbol op

/-- Numbers with operators between them are read as such. -/
theorem exists_tokens_unsigned {cs : List Char} (member : cs ∈ unsigned) :
    ∃ x links, tokens cs = .ok (.number x :: linkTokens (bareLinks links)) := by
  obtain ⟨r, run, rest, others, rfl⟩ := Language.mem_mul.mp member
  obtain ⟨⟨links, read⟩, ends⟩ := exists_tokens_links others
  refine ⟨Number.ofRun r, links, ?_⟩
  rw [tokens_append_of_run run ends, read]
  rfl

end Shape

/-! ## How complete texts are parsed -/

theorem exists_parse_of_bareLinks {cs : List Char} {n : SignedNumber} {y : Number}
    {links : List (Operator × Number)}
    (read : tokens cs = .ok (n.tokens ++ linkTokens (bareLinks links)))
    (denotes : n.Denotes .standard y) : ∃ tree, parse .standard cs = .ok tree := by
  have spelled : Spelling.Denotes .standard ⟨n, bareLinks links⟩ ⟨y, links⟩ :=
    ⟨denotes, linksDenote_bareLinks .standard links⟩
  exact ⟨_, parse_of_spelling (s := ⟨n, bareLinks links⟩) read spelled⟩

/-- Whether a text begins with an operator that cannot be a sign. -/
def BeginsWithProduct (op : Operator) (cs : List Char) : Prop :=
  op.isProduct = true ∧ ∃ rest, cs = op.symbol :: rest

/-- Whether a text begins with a minus and a number that is too large for it. -/
def MinusOverflows (cs : List Char) : Prop :=
  ∃ rest x further, cs = '-' :: rest ∧ tokens rest = .ok (.number x :: further) ∧
    10 ^ 999999 ≤ x.value ∧ x.neg .standard = .error .overflow

/-- A minus overflows on large numbers only. -/
theorem le_value_of_neg {cs : List Char} {ts : List Token} (read : tokens cs = .ok ts) {x : Number}
    (member : .number x ∈ ts) {signal : Signal} (failed : x.neg .standard = .error signal) :
    10 ^ 999999 ≤ x.value := by
  by_contra small
  obtain ⟨y, negated⟩ := exists_negated_of_small read member (not_le.mp small) 1
  rw [Number.negated, failed] at negated
  cases negated

theorem parse_of_product {op : Operator} (product : op.isProduct = true) {cs : List Char}
    {ts : List Token} (read : tokens cs = .ok (.operator op :: ts)) :
    parse .standard cs = .error (.strayToken (.operator op)) := by
  rw [parse_of_tokens read, Tree.ofTokens, Chain.ofTokens, if_neg (by simp),
    ofOperand_product 0 product]
  rfl

theorem parse_of_minus {cs : List Char} {x : Number} {ts : List Token} {signal : Signal}
    (read : tokens cs = .ok (.operator .sub :: .number x :: ts))
    (minus : x.neg .standard = .error signal) :
    parse .standard cs = .error (.arithmetic signal) := by
  rw [parse_of_tokens read, Tree.ofTokens]
  show (Chain.ofOperand .standard 1 (.number x :: ts)).map _ = _
  rw [ofOperand_number, Number.negated, minus]
  rfl

/-- A complete text is parsed, unless it begins with an operator that is no sign, or with a minus
that overflows. -/
theorem parse_of_complete {cs : List Char} (complete : cs ∈ Shape.complete) :
    (∃ tree, parse .standard cs = .ok tree) ∨
    (∃ op, BeginsWithProduct op cs ∧ parse .standard cs = .error (.strayToken (.operator op))) ∨
    MinusOverflows cs ∧ parse .standard cs = .error (.arithmetic .overflow) := by
  rw [Shape.complete_eq_unsigned] at complete
  obtain ⟨front, leads, rest, member, rfl⟩ := Language.mem_mul.mp complete
  obtain ⟨x, links, read⟩ := Shape.exists_tokens_unsigned member
  rcases (Language.mem_add _ _ _).mp leads with empty | ⟨op, rfl⟩
  · rw [(Language.mem_one _).mp empty, List.nil_append]
    exact .inl (exists_parse_of_bareLinks (n := ⟨[], x⟩) read rfl)
  · have led : tokens ([op.symbol] ++ rest) =
        .ok (.operator op :: .number x :: linkTokens (bareLinks links)) := by
      rw [List.singleton_append, tokens_cons_operator, read]
      rfl
    cases op with
    | add => exact .inl (exists_parse_of_bareLinks (n := ⟨[false], x⟩) led rfl)
    | sub =>
        cases minus : x.neg .standard with
        | ok y =>
            have denotes : SignedNumber.Denotes .standard ⟨[true], x⟩ y := by
              show Number.negated .standard 1 x = .ok y
              rw [negated_succ 0 minus, Number.negated]
            exact .inl (exists_parse_of_bareLinks (n := ⟨[true], x⟩) led denotes)
        | error signal =>
            obtain rfl : signal = .overflow := Number.signal_of_fit minus
            have large := le_value_of_neg read (.head _) minus
            exact .inr (.inr ⟨⟨rest, x, _, rfl, read, large, minus⟩, parse_of_minus led minus⟩)
    | mul => exact .inr (.inl ⟨.mul, ⟨rfl, rest, rfl⟩, parse_of_product rfl led⟩)
    | div => exact .inr (.inl ⟨.div, ⟨rfl, rest, rfl⟩, parse_of_product rfl led⟩)

/-! ## How equals fails -/

namespace State

variable {s : State} {places : Places}

/-- Equals fails where there is something to evaluate and it has no result. -/
theorem apply_equals_error (failed : (s.apply places .equals).state.errorState = true) :
    stripOperators s.buffer ≠ [] ∧
      ∃ e, calculate .standard places (stripOperators s.buffer) = .error e ∧
        s.apply places .equals =
          { state := s.failed e
            notes := readingNotes (stripOperators s.buffer) ++
              [.failed (e.report (some (stripOperators s.buffer)))] } := by
  unfold State.apply at failed ⊢
  split at failed
  · cases failed
  · rename_i running
    rw [if_neg running]
    change (s.equals places).state.errorState = true at failed
    show _ ∧ ∃ e, _ ∧ s.equals places = _
    unfold State.equals at failed ⊢
    split at failed
    · exact absurd failed running
    · rename_i filled
      unfold State.evaluate at failed ⊢
      split at failed
      · cases failed
      · rename_i e stopped
        exact ⟨filled, e, stopped, rfl⟩

/-- In every state that can be reached, what equals evaluates is empty or can be parsed, unless it
begins with an operator that is no sign, or with a minus that overflows. Equals reports an invalid
expression in the first of these two cases only. Otherwise it fails by a division by zero, by an
overflow, or because the value is too large to be shown. -/
theorem equals_of_reachable (reachable : s.Reachable) :
    (stripOperators s.buffer = [] ∨
      (∃ tree, parse .standard (stripOperators s.buffer) = .ok tree) ∨
      (∃ op, BeginsWithProduct op (stripOperators s.buffer) ∧
        parse .standard (stripOperators s.buffer) = .error (.strayToken (.operator op))) ∨
      MinusOverflows (stripOperators s.buffer) ∧
        parse .standard (stripOperators s.buffer) = .error (.arithmetic .overflow)) ∧
    ∀ n : ℤ, n ≤ 999999 → (s.apply (.whole n) .equals).state.errorState = true →
      ∃ e, s.apply (.whole n) .equals =
          { state := s.failed e
            notes := readingNotes (stripOperators s.buffer) ++
              [.failed (e.report (some (stripOperators s.buffer)))] } ∧
        ((∃ op, BeginsWithProduct op (stripOperators s.buffer) ∧
            e = .strayToken (.operator op)) ∨
          e.kind = .divisionByZero ∨ e = .arithmetic .overflow ∨
          IsTooLarge n (stripOperators s.buffer) ∧
            (e.kind = .invalidResult ∨ e.kind = .general)) := by
  have working := (Shape.stripOperators_buffer reachable.wellFormed.shape).imp
    And.left parse_of_complete
  refine ⟨working, fun n most failed => ?_⟩
  obtain ⟨filled, e, stopped, outcome⟩ := apply_equals_error failed
  refine ⟨e, outcome, ?_⟩
  rcases calculate_error most stopped with unread | others
  · rcases working with empty | ⟨tree, parsed⟩ | ⟨op, begins, stray⟩ | ⟨-, overflow⟩
    · exact absurd empty filled
    · rw [parsed] at unread
      cases unread
    · rw [stray] at unread
      injection unread with same
      exact .inl ⟨op, begins, same.symm⟩
    · rw [overflow] at unread
      injection unread with same
      exact .inr (.inr (.inl same.symm))
  · exact .inr others

/-- A division by a zero with a point behind it, as it is typed. -/
def divided : State := { buffer := "6/0.".toList, hasDecimal := true }

theorem reachable_divided : divided.Reachable := by
  have plain : Text.isPlainDigit '6' = true := by decide
  have six := Reachable.initial.apply (.whole 10) (.digit plain)
  have slash := six.apply (.whole 10) (.operator .div)
  exact slash.apply (.whole 10) .decimal

theorem equals_of_reachable_divided :
    divided.Reachable ∧ (divided.apply (.whole 10) .equals).state.errorState = true ∧
      ∃ e, (divided.apply (.whole 10) .equals).state = divided.failed e ∧
        ((∃ op, BeginsWithProduct op "6/0.".toList ∧ e = .strayToken (.operator op)) ∨
          e.kind = .divisionByZero ∨ e = .arithmetic .overflow ∨
          IsTooLarge 10 "6/0.".toList ∧ (e.kind = .invalidResult ∨ e.kind = .general)) := by
  have failed : (divided.apply (.whole 10) .equals).state.errorState = true := by decide +kernel
  have working : stripOperators divided.buffer = "6/0.".toList := by decide
  obtain ⟨e, outcome, reason⟩ := (equals_of_reachable reachable_divided).2 10 (by decide) failed
  rw [working] at reason
  exact ⟨reachable_divided, failed, e, congrArg Outcome.state outcome, reason⟩

/-! ## What is no expression -/

/-- A star in place of the minus of a negative result, and a number behind it. -/
def starred : State := { buffer := "*0.".toList, hasDecimal := true }

theorem reachable_starred : starred.Reachable := by
  have result : (seed (.whole 10) "-5".toList).state = { buffer := "-5".toList } := by
    decide +kernel
  have seeded := Reachable.initial.seed (.whole 10) "-5".toList
  rw [result] at seeded
  have minus := seeded.apply (.whole 10) .backspace
  have star := minus.apply (.whole 10) (.operator .mul)
  exact star.apply (.whole 10) .decimal

/-- A minus before a power of ten. -/
def minusPower (n : ℕ) : State := { buffer := '-' :: '1' :: List.replicate n '0' }

theorem reachable_minusPower (n : ℕ) : (minusPower n).Reachable := by
  induction n with
  | zero =>
      have result : (seed (.whole 10) "-1".toList).state = minusPower 0 := by decide +kernel
      exact result ▸ Reachable.initial.seed (.whole 10) "-1".toList
  | succ n ih =>
      have plain : Text.isPlainDigit '0' = true := by decide
      have longer : ((minusPower n).apply (.whole 10) (.digit ['0'])).state =
          minusPower (n + 1) := by
        simp [minusPower, State.apply, State.step, State.enterDigit, List.replicate_succ']
      exact longer ▸ ih.apply (.whole 10) (.digit plain)

/-- The minus before a power of ten beyond the range overflows. -/
theorem parse_minusPower {n : ℕ} (beyond : 999999 < n) :
    parse .standard (stripOperators (minusPower n).buffer) = .error (.arithmetic .overflow) := by
  have complete := (reachable_minusPower n).wellFormed.complete rfl
  rw [Shape.stripOperators_complete complete]
  show parse .standard ('-' :: ('1' :: List.replicate n '0')) = _
  have plain : ∀ c ∈ '1' :: List.replicate n '0', Text.isPlainDigit c = true := by
    intro c member
    rcases List.mem_cons.mp member with rfl | member
    · decide
    · rw [List.eq_of_mem_replicate member]
      decide
  have digits : (Number.ofRun ('1' :: List.replicate n '0')).coefficient = 1 * 10 ^ n :=
    Numeral.valueOf_append_zeros ['1'] n
  have whole : (Number.ofRun ('1' :: List.replicate n '0')).exponent = 0 := by
    show -((fractionPart ('1' :: List.replicate n '0')).length : ℤ) = 0
    rw [(Positional.wholePart_of_plain plain).2]
    rfl
  have run : '1' :: List.replicate n '0' ∈ Shape.run := Shape.run_of_digits (by simp) plain
  generalize '1' :: List.replicate n '0' = r at run digits whole
  have read : tokens ('-' :: r) = .ok [.operator .sub, .number (Number.ofRun r)] := by
    have number : tokens (r ++ []) = _ := Shape.tokens_append_of_run run (by simp)
    rw [List.append_nil] at number
    rw [show '-' = Operator.sub.symbol from rfl, tokens_cons_operator, number]
    rfl
  have top : (Number.ofRun r).adjusted = n := by
    rw [Number.adjusted, Number.digitCount, whole, digits, Nat.one_mul, Numeral.digitCount_pow_ten]
    push_cast
    ring
  apply parse_of_minus read
  apply Number.neg_overflow_of_isShort
  · rw [digits]
    positivity
  · exact ⟨1, n, by decide, digits⟩
  · rw [whole]
    decide
  · rw [top]
    exact_mod_cast beyond

/-- A star in front is not parsed, and equals reports an invalid expression; a minus may overflow
where nothing else is wrong. -/
theorem parse_fails_of_starred :
    starred.Reachable ∧ starred.errorState = false ∧
      parse .standard (stripOperators starred.buffer) = .error (.strayToken (.operator .mul)) ∧
      (starred.apply (.whole 10) .equals).state =
        starred.failed (.strayToken (.operator .mul)) ∧
      (CalculationError.strayToken (.operator .mul)).kind = .invalidExpression ∧
    (minusPower 1000000).Reachable ∧ (minusPower 1000000).errorState = false ∧
      parse .standard (stripOperators (minusPower 1000000).buffer) =
        .error (.arithmetic .overflow) := by
  refine ⟨reachable_starred, rfl, ?_, ?_, rfl, reachable_minusPower _, rfl,
    parse_minusPower (by decide)⟩
  · decide +kernel
  · decide +kernel

end State

end Reckoner.Editor
