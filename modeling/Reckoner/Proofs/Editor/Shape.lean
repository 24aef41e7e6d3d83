import Mathlib.Computability.Language
import Mathlib.Tactic
import Reckoner.Editor.State
import Reckoner.Proofs.Decimal.Positional

/-!
# The shape of buffers

A buffer is a lone operator, or numbers with single operators between them, maybe with an operator
in front and one behind. This is a regular language. Its words can be taken apart at the last
number, and that shows that typing at the end of a word and taking back its last character stay in
the language.
-/

namespace Reckoner.Editor.Shape

open scoped Computability

/-- One ASCII digit. -/
def digit : Language Char := {cs | ∃ c, Text.isPlainDigit c = true ∧ cs = [c]}

/-- One operator. -/
def operator : Language Char := {cs | ∃ op : Operator, cs = [op.symbol]}

/-- The point. -/
def point : Language Char := {['.']}

/-- A number as it is typed: digits, maybe a point, and maybe digits behind it. -/
def run : Language Char := digit * digit∗ * (1 + point * digit∗)

/-- Numbers with operators between them, maybe with an operator in front. -/
def complete : Language Char := (1 + operator) * run * (operator * run)∗

/-- What a buffer may hold. -/
def buffer : Language Char := operator + complete * (1 + operator)

/-- What may stand before the last number. -/
def leading : Language Char := 1 + operator + complete * operator

/-! ## Numbers -/

theorem mem_digits (cs : List Char) : cs ∈ digit∗ ↔ ∀ c ∈ cs, Text.isPlainDigit c = true := by
  rw [Language.mem_kstar]
  constructor
  · rintro ⟨parts, rfl, digits⟩ c member
    obtain ⟨part, inside, member⟩ := List.mem_flatten.mp member
    obtain ⟨d, plain, rfl⟩ := digits part inside
    rw [List.mem_singleton.mp member]
    exact plain
  · intro plain
    refine ⟨cs.map fun c => [c], by simp [← List.flatMap_def], ?_⟩
    intro part member
    obtain ⟨c, inside, rfl⟩ := List.mem_map.mp member
    exact ⟨c, plain c inside, rfl⟩

/-- A number is its digits, maybe with a point and further digits behind them. -/
theorem mem_run (cs : List Char) :
    cs ∈ run ↔ ∃ ds, ds ≠ [] ∧ (∀ c ∈ ds, Text.isPlainDigit c = true) ∧
      (cs = ds ∨ ∃ es, (∀ c ∈ es, Text.isPlainDigit c = true) ∧ cs = ds ++ '.' :: es) := by
  constructor
  · intro member
    obtain ⟨ds, whole, tail, fraction, rfl⟩ := Language.mem_mul.mp member
    obtain ⟨_, ⟨c, plain, rfl⟩, ds, digits, rfl⟩ := Language.mem_mul.mp whole
    have digits := (mem_digits ds).mp digits
    refine ⟨c :: ds, by simp, by simpa using ⟨plain, digits⟩, ?_⟩
    rcases (Language.mem_add _ _ _).mp fraction with empty | pointed
    · left
      rw [(Language.mem_one _).mp empty, List.append_nil]
      rfl
    · right
      obtain ⟨_, rfl, es, digits, rfl⟩ := Language.mem_mul.mp pointed
      exact ⟨es, (mem_digits es).mp digits, rfl⟩
  · rintro ⟨ds, filled, plain, fraction⟩
    obtain ⟨c, rest, rfl⟩ := List.exists_cons_of_ne_nil filled
    have whole : c :: rest ∈ digit * digit∗ :=
      Language.append_mem_mul (a := [c]) ⟨c, plain c (by simp), rfl⟩
        ((mem_digits rest).mpr fun d member => plain d (by simp [member]))
    rcases fraction with rfl | ⟨es, digits, rfl⟩
    · rw [← List.append_nil (c :: rest)]
      exact Language.append_mem_mul whole (.inl rfl)
    · refine Language.append_mem_mul whole (.inr ?_)
      exact Language.append_mem_mul (a := ['.']) rfl ((mem_digits es).mpr digits)

theorem run_of_digits {ds : List Char} (filled : ds ≠ [])
    (plain : ∀ c ∈ ds, Text.isPlainDigit c = true) : ds ∈ run :=
  (mem_run ds).mpr ⟨ds, filled, plain, .inl rfl⟩

theorem run_ne_nil {r : List Char} (run : r ∈ run) : r ≠ [] := by
  obtain ⟨ds, filled, -, rfl | ⟨es, -, rfl⟩⟩ := (mem_run r).mp run
  · exact filled
  · simp

theorem run_chars {r : List Char} (run : r ∈ run) :
    ∀ c ∈ r, Text.isPlainDigit c = true ∨ c = '.' := by
  intro c member
  obtain ⟨ds, -, plain, rfl | ⟨es, plain', rfl⟩⟩ := (mem_run r).mp run
  · exact .inl (plain c member)
  · rcases List.mem_append.mp member with member | member
    · exact .inl (plain c member)
    · rcases List.mem_cons.mp member with rfl | member
      · exact .inr rfl
      · exact .inl (plain' c member)

theorem isSymbol_of_run {r : List Char} (run : r ∈ run) : ∀ c ∈ r, Operator.isSymbol c = false := by
  intro c member
  by_contra symbol
  rw [Bool.not_eq_false] at symbol
  rcases run_chars run c member with plain | rfl
  · unfold Operator.isSymbol Operator.ofChar? at symbol
    split at symbol <;> first | exact absurd plain (by decide) | cases symbol
  · cases symbol

theorem run_append_digit {r : List Char} (run : r ∈ run) {c : Char}
    (plain : Text.isPlainDigit c = true) : r ++ [c] ∈ Shape.run := by
  have longer {ds : List Char} (digits : ∀ d ∈ ds, Text.isPlainDigit d = true) :
      ∀ d ∈ ds ++ [c], Text.isPlainDigit d = true := by
    intro d member
    rcases List.mem_append.mp member with member | member
    · exact digits d member
    · rw [List.mem_singleton.mp member]
      exact plain
  obtain ⟨ds, filled, digits, rfl | ⟨es, digits', rfl⟩⟩ := (mem_run r).mp run
  · exact run_of_digits (by simp) (longer digits)
  · exact (mem_run _).mpr ⟨ds, filled, digits, .inr ⟨es ++ [c], longer digits', by simp⟩⟩

theorem run_append_point {r : List Char} (run : r ∈ run) (noPoint : '.' ∉ r) :
    r ++ ['.'] ∈ Shape.run := by
  obtain ⟨ds, filled, digits, rfl | ⟨es, digits', rfl⟩⟩ := (mem_run r).mp run
  · exact (mem_run _).mpr ⟨r, filled, digits, .inr ⟨[], by simp, rfl⟩⟩
  · simp at noPoint

/-- Without its last character a number is a number again, if anything is left of it. -/
theorem run_dropLast {r : List Char} (run : r ∈ run) (filled : r.dropLast ≠ []) :
    r.dropLast ∈ Shape.run := by
  obtain ⟨ds, filled', digits, rfl | ⟨es, digits', rfl⟩⟩ := (mem_run r).mp run
  · exact run_of_digits filled fun c member => digits c (List.mem_of_mem_dropLast member)
  · cases es using List.reverseRecOn with
    | nil =>
        rw [List.dropLast_concat]
        exact run_of_digits filled' digits
    | append_singleton es c =>
        rw [← List.cons_append, ← List.append_assoc, List.dropLast_concat]
        exact (mem_run _).mpr ⟨ds, filled', digits, .inr
          ⟨es, fun d member => digits' d (by simp [member]), rfl⟩⟩

/-! ## The last number -/

/-- Every complete text ends in a number, with a word of `leading` before it. -/
theorem complete_eq : complete = leading * run := by
  have last : (1 : Language Char) + operator + complete * operator =
      (1 + operator) * (1 + run * (operator * run)∗ * operator) := by
    rw [complete, mul_add, mul_one]
    simp only [mul_assoc]
  have star : run * (operator * run)∗ = (1 + run * (operator * run)∗ * operator) * run := by
    conv_lhs => rw [← Language.one_add_kstar_mul_self_eq_kstar]
    simp only [mul_add, add_mul, mul_one, one_mul, mul_assoc]
  rw [leading, last, complete, mul_assoc, mul_assoc, ← star]

theorem isSymbol_symbol (op : Operator) : Operator.isSymbol op.symbol = true := by
  cases op <;> rfl

theorem endsInOperator_append (cs : List Char) (op : Operator) :
    endsInOperator (cs ++ [op.symbol]) = true := by
  simp [endsInOperator, isSymbol_symbol]

/-- What stands before the last number is nothing or ends in an operator. -/
theorem leading_cases {cs : List Char} (leading : cs ∈ leading) :
    cs = [] ∨
      ∃ before op, cs = before ++ [Operator.symbol op] ∧ (before = [] ∨ before ∈ complete) := by
  rcases (Language.mem_add _ _ _).mp leading with first | later
  · rcases (Language.mem_add _ _ _).mp first with empty | ⟨op, lone⟩
    · exact .inl empty
    · exact .inr ⟨[], op, lone, .inl rfl⟩
  · obtain ⟨before, complete, _, ⟨op, rfl⟩, rfl⟩ := Language.mem_mul.mp later
    exact .inr ⟨before, op, rfl, .inr complete⟩

theorem leading_of_complete {cs : List Char} (complete : cs ∈ complete) (op : Operator) :
    cs ++ [op.symbol] ∈ leading :=
  .inr (Language.append_mem_mul complete ⟨op, rfl⟩)

theorem lastNumber_append {before r : List Char} (leading : before ∈ leading) (run : r ∈ run) :
    lastNumber (before ++ r) = r := by
  have others : ∀ c ∈ r.reverse, (!Operator.isSymbol c) = true := fun c member => by
    rw [isSymbol_of_run run c (List.mem_reverse.mp member)]
    rfl
  rw [lastNumber, List.reverse_append, List.takeWhile_append_of_pos others]
  rcases leading_cases leading with rfl | ⟨before, op, rfl, -⟩
  · simp
  · simp [isSymbol_symbol]

theorem endsInOperator_run {r : List Char} (run : r ∈ run) (before : List Char) :
    endsInOperator (before ++ r) = false := by
  have filled := run_ne_nil run
  rw [endsInOperator, List.getLast?_append_of_ne_nil _ filled,
    List.getLast?_eq_getLast_of_ne_nil filled, Option.any_some]
  exact isSymbol_of_run run _ (List.getLast_mem filled)

/-- A complete text in front of its last number. -/
theorem exists_run {cs : List Char} (complete : cs ∈ complete) :
    ∃ before r, before ∈ leading ∧ r ∈ run ∧ cs = before ++ r := by
  rw [complete_eq] at complete
  obtain ⟨before, leading, r, run, rfl⟩ := Language.mem_mul.mp complete
  exact ⟨before, r, leading, run, rfl⟩

theorem complete_of_run {before r : List Char} (leading : before ∈ leading) (run : r ∈ run) :
    before ++ r ∈ complete := by
  rw [complete_eq]
  exact Language.append_mem_mul leading run

/-- A buffer is complete, or a word of `leading` with an operator at its end. -/
theorem buffer_cases {cs : List Char} (shape : cs ∈ buffer) :
    cs ∈ complete ∧ endsInOperator cs = false ∨
      ∃ before op, cs = before ++ [Operator.symbol op] ∧ cs ∈ leading ∧
        (before = [] ∨ before ∈ complete) := by
  rcases (Language.mem_add _ _ _).mp shape with ⟨op, lone⟩ | shape
  · exact .inr ⟨[], op, lone, .inl (.inr ⟨op, lone⟩), .inl rfl⟩
  · obtain ⟨before, complete, _, empty | ⟨op, rfl⟩, rfl⟩ := Language.mem_mul.mp shape
    · rw [(Language.mem_one _).mp empty, List.append_nil]
      refine .inl ⟨complete, ?_⟩
      obtain ⟨before, r, -, run, rfl⟩ := exists_run complete
      exact endsInOperator_run run before
    · exact .inr ⟨before, op, rfl, leading_of_complete complete op, .inr complete⟩

theorem buffer_of_complete {cs : List Char} (complete : cs ∈ complete) : cs ∈ buffer := by
  rw [← List.append_nil cs]
  exact .inr (Language.append_mem_mul complete (.inl rfl))

/-- One operator may follow a complete text, or stand alone. -/
theorem buffer_append_operator {cs : List Char} (complete : cs = [] ∨ cs ∈ complete)
    (op : Operator) : cs ++ [op.symbol] ∈ buffer := by
  rcases complete with rfl | complete
  · exact .inl ⟨op, rfl⟩
  · exact .inr (Language.append_mem_mul complete (.inr ⟨op, rfl⟩))

/-! ## Typing and taking back -/

theorem complete_append_digit {cs : List Char} (complete : cs ∈ complete) {c : Char}
    (plain : Text.isPlainDigit c = true) :
    cs ++ [c] ∈ Shape.complete ∧ lastNumber (cs ++ [c]) = lastNumber cs ++ [c] := by
  obtain ⟨before, r, leading, run, rfl⟩ := exists_run complete
  have longer := run_append_digit run plain
  rw [List.append_assoc, lastNumber_append leading run, lastNumber_append leading longer]
  exact ⟨complete_of_run leading longer, rfl⟩

theorem complete_append_point {cs : List Char} (complete : cs ∈ complete)
    (noPoint : '.' ∉ lastNumber cs) :
    cs ++ ['.'] ∈ Shape.complete ∧ lastNumber (cs ++ ['.']) = lastNumber cs ++ ['.'] := by
  obtain ⟨before, r, leading, run, rfl⟩ := exists_run complete
  rw [lastNumber_append leading run] at noPoint
  have longer := run_append_point run noPoint
  rw [List.append_assoc, lastNumber_append leading run, lastNumber_append leading longer]
  exact ⟨complete_of_run leading longer, rfl⟩

/-- Without its last character a buffer is a buffer again, if anything is left of it. -/
theorem buffer_dropLast {cs : List Char} (shape : cs ∈ buffer) (filled : cs.dropLast ≠ []) :
    cs.dropLast ∈ buffer := by
  rcases buffer_cases shape with ⟨complete, -⟩ | ⟨before, op, rfl, -, complete⟩
  · obtain ⟨before, r, leading, run, rfl⟩ := exists_run complete
    rw [List.dropLast_append_of_ne_nil (run_ne_nil run)] at filled ⊢
    by_cases last : r.dropLast = []
    · rw [last, List.append_nil] at filled ⊢
      rcases leading_cases leading with rfl | ⟨front, op, rfl, rest⟩
      · exact absurd rfl filled
      · exact buffer_append_operator rest op
    · exact buffer_of_complete (complete_of_run leading (run_dropLast run last))
  · rw [List.dropLast_concat] at filled ⊢
    rcases complete with rfl | complete
    · exact absurd rfl filled
    · exact buffer_of_complete complete

theorem lastNumber_of_endsInOperator {cs : List Char} (operator : endsInOperator cs = true) :
    lastNumber cs = [] := by
  cases cs using List.reverseRecOn with
  | nil => rfl
  | append_singleton cs c =>
      have symbol : Operator.isSymbol c = true := by simpa [endsInOperator] using operator
      simp [lastNumber, symbol]

/-! ## Complete texts -/

theorem complete_ne_nil {cs : List Char} (complete : cs ∈ complete) : cs ≠ [] := by
  obtain ⟨before, r, -, run, rfl⟩ := exists_run complete
  simp [run_ne_nil run]

theorem buffer_ne_nil {cs : List Char} (shape : cs ∈ buffer) : cs ≠ [] := by
  rcases buffer_cases shape with ⟨complete, -⟩ | ⟨before, op, rfl, -⟩
  · exact complete_ne_nil complete
  · simp

theorem endsInOperator_complete {cs : List Char} (complete : cs ∈ complete) :
    endsInOperator cs = false := by
  obtain ⟨before, r, -, run, rfl⟩ := exists_run complete
  exact endsInOperator_run run before

/-- A text that does not end in an operator is kept. -/
theorem stripOperators_eq_self {cs : List Char} (ends : endsInOperator cs = false) :
    stripOperators cs = cs := by
  cases cs using List.reverseRecOn with
  | nil => rfl
  | append_singleton cs c =>
      have last : Operator.isSymbol c = false := by simpa [endsInOperator] using ends
      simp [stripOperators, last]

theorem stripOperators_complete {cs : List Char} (complete : cs ∈ complete) :
    stripOperators cs = cs :=
  stripOperators_eq_self (endsInOperator_complete complete)

theorem stripOperators_append_operator (cs : List Char) (op : Operator) :
    stripOperators (cs ++ [op.symbol]) = stripOperators cs := by
  simp [stripOperators, isSymbol_symbol]

/-- Without the operators at its end a buffer is empty or complete. -/
theorem stripOperators_buffer {cs : List Char} (shape : cs ∈ buffer) :
    stripOperators cs = [] ∧ endsInOperator cs = true ∨ stripOperators cs ∈ complete := by
  rcases buffer_cases shape with ⟨complete, -⟩ | ⟨before, op, rfl, -, rest⟩
  · rw [stripOperators_complete complete]
    exact .inr complete
  · rw [stripOperators_append_operator]
    rcases rest with rfl | complete
    · exact .inl ⟨rfl, endsInOperator_append [] op⟩
    · rw [stripOperators_complete complete]
      exact .inr complete

/-- A buffer ends in one operator at most, so what an operator is put behind is the buffer without
the operators at its end. -/
theorem kept_eq_stripOperators {cs : List Char} (shape : cs ∈ buffer) :
    (if endsInOperator cs then cs.dropLast else cs) = stripOperators cs := by
  rcases buffer_cases shape with ⟨complete, number⟩ | ⟨before, op, rfl, -, rest⟩
  · rw [number, if_neg (by decide), stripOperators_complete complete]
  · rw [endsInOperator_append, if_pos rfl, List.dropLast_concat, stripOperators_append_operator]
    rcases rest with rfl | complete
    · rfl
    · rw [stripOperators_complete complete]

/-! ## Results -/

theorem run_of_isShortest {p : Positional} (shortest : p.IsShortest) : p.unsigned ∈ run := by
  refine (mem_run _).mpr ⟨p.whole, shortest.whole_ne_nil, shortest.whole_plain, ?_⟩
  unfold Positional.unsigned
  split
  · exact .inl (List.append_nil _)
  · exact .inr ⟨p.fraction, shortest.fraction_plain, rfl⟩

/-- The text of a number is its sign, if it has one, and one number. -/
theorem exists_canonical_eq (x : Number) :
    ∃ sign r, x.canonical = sign ++ r ∧ (sign = [] ∨ sign = ['-']) ∧ r ∈ run := by
  refine ⟨if x.positional.negative then ['-'] else [], x.positional.unsigned, ?_, ?_,
    run_of_isShortest x.isShortest_positional⟩
  · rw [Number.canonical_eq_text, Positional.text, Number.withSign]
    split <;> rfl
  · split
    · exact .inr rfl
    · exact .inl rfl

theorem leading_of_sign {sign : List Char} (isSign : sign = [] ∨ sign = ['-']) :
    sign ∈ leading := by
  rcases isSign with rfl | rfl
  · exact .inl (.inl rfl)
  · exact .inl (.inr ⟨.sub, rfl⟩)

theorem complete_canonical (x : Number) : x.canonical ∈ complete := by
  obtain ⟨sign, r, shape, isSign, run⟩ := exists_canonical_eq x
  rw [shape]
  exact complete_of_run (leading_of_sign isSign) run

theorem point_mem_canonical (x : Number) :
    '.' ∈ x.canonical ↔ '.' ∈ lastNumber x.canonical := by
  obtain ⟨sign, r, shape, isSign, run⟩ := exists_canonical_eq x
  rw [shape, lastNumber_append (leading_of_sign isSign) run]
  rcases isSign with rfl | rfl <;> simp

theorem isSafe_canonical (x : Number) : isSafe x.canonical = true := by
  obtain ⟨sign, r, shape, isSign, run⟩ := exists_canonical_eq x
  rw [shape, isSafe, List.all_append, Bool.and_eq_true]
  constructor
  · rcases isSign with rfl | rfl <;> rfl
  · refine List.all_eq_true.mpr fun c member => ?_
    rcases run_chars run c member with plain | rfl
    · simp [plain]
    · rfl

end Reckoner.Editor.Shape
