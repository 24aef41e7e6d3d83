import Mathlib.Tactic
import Reckoner.Editor.State
import Reckoner.Proofs.Editor.Shape
import Reckoner.Proofs.Expression.Reading

/-!
# First expressions and equals

The same text is evaluated in two places: as a first expression, and by equals where it was typed.
Both come to the same result or show the same message; they differ in what an error is shown over,
and in the operators at the end, which equals drops. A first expression is evaluated with them, and
no text that ends in an operator is an expression, so it has no result.
-/

namespace Reckoner

/-! ## Texts that end in an operator -/

/-- An expression ends in a number. -/
theorem Spelling.exists_getLast?_tokens (s : Spelling) :
    ∃ x, s.tokens.getLast? = some (.number x) := by
  obtain ⟨first, links⟩ := s
  cases links using List.reverseRecOn with
  | nil => exact ⟨first.number, by simp [Spelling.tokens, linkTokens, SignedNumber.tokens]⟩
  | append_singleton links link =>
      have parts : (Spelling.mk first (links ++ [link])).tokens =
          first.tokens ++ linkTokens links ++
            (.operator link.1 :: link.2.signs.map SignedNumber.signToken) ++
              [.number link.2.number] := by
        simp [Spelling.tokens, linkTokens, SignedNumber.tokens]
      exact ⟨link.2.number, by rw [parts, List.getLast?_concat]⟩

/-- No text that ends in an operator is parsed. -/
theorem parse_append_operator_ne_ok (ctx : Context) (cs : List Char) (op : Operator)
    (tree : Tree) : parse ctx (cs ++ [op.symbol]) ≠ .ok tree := by
  intro parsed
  obtain ⟨s, -, read, -, -⟩ := exists_spelling_of_parse parsed
  rw [tokens_append_operator op cs []] at read
  obtain ⟨front, -, same⟩ := Results.bind_eq_ok_iff.mp read
  have last : s.tokens.getLast? = some (.operator op) := by
    rw [← Except.ok.inj same]
    exact List.getLast?_concat
  obtain ⟨x, number⟩ := s.exists_getLast?_tokens
  rw [last] at number
  cases number

namespace Editor

theorem exists_symbol_of_isSymbol {c : Char} (symbol : Operator.isSymbol c = true) :
    ∃ op : Operator, c = op.symbol := by
  unfold Operator.isSymbol Operator.ofChar? at symbol
  split at symbol
  · exact ⟨.add, rfl⟩
  · exact ⟨.sub, rfl⟩
  · exact ⟨.mul, rfl⟩
  · exact ⟨.div, rfl⟩
  · cases symbol

theorem exists_append_operator {cs : List Char} (operator : endsInOperator cs = true) :
    ∃ before op, cs = before ++ [Operator.symbol op] := by
  cases cs using List.reverseRecOn with
  | nil => cases operator
  | append_singleton before c =>
      have symbol : Operator.isSymbol c = true := by simpa [endsInOperator] using operator
      obtain ⟨op, rfl⟩ := exists_symbol_of_isSymbol symbol
      exact ⟨before, op, rfl⟩

/-- A text that ends in an operator has no result. -/
theorem exists_error_of_endsInOperator (places : Places) {cs : List Char}
    (operator : endsInOperator cs = true) : ∃ e, calculate .standard places cs = .error e := by
  obtain ⟨before, op, rfl⟩ := exists_append_operator operator
  unfold calculate
  split
  · exact ⟨_, rfl⟩
  · cases parsed : parse .standard (before ++ [op.symbol]) with
    | ok tree => exact absurd parsed (parse_append_operator_ne_ok _ before op tree)
    | error e => exact ⟨e, by rw [evaluate, parsed]⟩

/-! ## What equals drops -/

/-- What is dropped is all of the operators at the end. -/
theorem exists_operators (cs : List Char) :
    ∃ operators, cs = stripOperators cs ++ operators ∧
      (∀ c ∈ operators, Operator.isSymbol c = true) ∧
      endsInOperator (stripOperators cs) = false := by
  refine ⟨cs.rtakeWhile Operator.isSymbol, ?_, fun c => List.mem_rtakeWhile_imp, ?_⟩
  · rw [List.rtakeWhile, stripOperators, ← List.reverse_append, List.takeWhile_append_dropWhile,
      List.reverse_reverse]
  · rw [endsInOperator, stripOperators, List.getLast?_reverse]
    cases rest : (cs.reverse.dropWhile Operator.isSymbol).head? with
    | none => rfl
    | some c =>
        have kept := List.head?_dropWhile_not Operator.isSymbol cs.reverse
        rw [rest] at kept
        simpa using kept

namespace State

variable {s : State} {places : Places}

/-- Equals evaluates what is left without the operators at the end. -/
theorem apply_equals_of_running (running : s.errorState = false)
    (filled : stripOperators s.buffer ≠ []) :
    s.apply places .equals = s.evaluate places (stripOperators s.buffer) := by
  rw [apply_of_running running]
  show s.equals places = _
  unfold equals
  split
  · contradiction
  · rfl

/-- Equals evaluates the whole buffer where it does not end in an operator. -/
theorem apply_equals_of_ends (running : s.errorState = false) (filled : s.buffer ≠ [])
    (ends : endsInOperator s.buffer = false) :
    s.apply places .equals = s.evaluate places s.buffer := by
  have kept := Shape.stripOperators_eq_self ends
  rw [apply_equals_of_running running (by rwa [kept]), kept]

/-- Where only operators are left equals shows a zero. -/
theorem apply_equals_of_nothing (running : s.errorState = false)
    (nothing : stripOperators s.buffer = []) :
    (s.apply places .equals).state = { s with buffer := ['0'] } := by
  rw [apply_of_running running]
  show (s.equals places).state = _
  rw [equals, nothing, running]

theorem display_of_running (running : s.errorState = false) :
    s.display = some (String.ofList s.buffer) := by
  rw [display, running, if_neg (by decide)]

theorem seed_of_isSafe {text : List Char} (filled : text ≠ []) (safe : isSafe text = true) :
    seed places text = initial.evaluate places text := by
  rw [seed, if_neg filled, if_pos safe]

theorem evaluate_of_error {text : List Char} {e : CalculationError}
    (stopped : calculate .standard places text = .error e) :
    (s.evaluate places text).state = s.failed e := by
  rw [evaluate, stopped]

theorem evaluate_of_ok {text result : List Char}
    (calculated : calculate .standard places text = .ok result) :
    (s.evaluate places text).state = ofResult result := by
  rw [evaluate, calculated]

/-- Two states evaluate a text alike, but for the state that an error is shown over. -/
theorem evaluate_agrees (s t : State) (places : Places) (text : List Char) :
    (s.evaluate places text).state.display = (t.evaluate places text).state.display ∧
    (∀ result, calculate .standard places text = .ok result →
      (s.evaluate places text).state = ofResult result ∧
      (t.evaluate places text).state = ofResult result) ∧
    ∀ e, calculate .standard places text = .error e →
      (s.evaluate places text).state = s.failed e ∧
      (t.evaluate places text).state = t.failed e := by
  cases calculated : calculate .standard places text with
  | ok result =>
      have first : (s.evaluate places text).state = ofResult result := evaluate_of_ok calculated
      have second : (t.evaluate places text).state = ofResult result := evaluate_of_ok calculated
      refine ⟨by rw [first, second], ?_, nofun⟩
      rintro _ ⟨⟩
      exact ⟨first, second⟩
  | error e =>
      have first : (s.evaluate places text).state = s.failed e := evaluate_of_error calculated
      have second : (t.evaluate places text).state = t.failed e := evaluate_of_error calculated
      refine ⟨by rw [first, second]; rfl, nofun, ?_⟩
      rintro _ ⟨⟩
      exact ⟨first, second⟩

/-- Only an error shows which buffer stood there when a text was evaluated. -/
theorem evaluate_of_buffer (s : State) (places : Places) (buffer text : List Char) :
    let other := ({ s with buffer := buffer }.evaluate places text).state
    (s.evaluate places text).state =
      if other.errorState then { other with buffer := s.buffer } else other := by
  intro other
  obtain ⟨-, results, errors⟩ := evaluate_agrees s { s with buffer := buffer } places text
  cases calculated : calculate .standard places text with
  | ok result =>
      obtain ⟨first, second⟩ := results result calculated
      rw [first, show other = ofResult result from second]
      rfl
  | error e =>
      obtain ⟨first, second⟩ := errors e calculated
      rw [first, show other = { s with buffer := buffer }.failed e from second]
      rfl

/-- A safe text is evaluated alike as a first expression and by equals where it is the buffer. If it
does not end in an operator both show the same: the state of its result, or the message of its
error, over the initial state in one case and over the buffer in the other. If it ends in operators
it is an error as a first expression, while equals does what it does without them: where nothing is
left it shows a zero, and else it leads to the same state, only that an error is shown over the
buffer as it was. -/
theorem seed_agrees_with_equals {text : List Char} (filled : text ≠ []) (safe : isSafe text = true)
    (places : Places) {s : State} (running : s.errorState = false) (typed : s.buffer = text) :
    let seeded := (seed places text).state
    let shown := (s.apply places .equals).state
    (endsInOperator text = false →
      seeded.display = shown.display ∧
      (∀ result, calculate .standard places text = .ok result →
        seeded = ofResult result ∧ shown = ofResult result) ∧
      ∀ e, calculate .standard places text = .error e →
        seeded = { initial with errorState := true, message := some (codeDisplay e.code) } ∧
        shown = { s with errorState := true, message := some (codeDisplay e.code) }) ∧
    (endsInOperator text = true →
      seeded.errorState = true ∧
      ∃ base operators, text = base ++ operators ∧
        (∀ c ∈ operators, Operator.isSymbol c = true) ∧ endsInOperator base = false ∧
        (base = [] → shown = { s with buffer := ['0'] } ∧ shown.display = some "0") ∧
        (base ≠ [] →
          let bare := ({ s with buffer := base }.apply places .equals).state
          shown = if bare.errorState then { bare with buffer := text } else bare)) := by
  subst typed
  intro seeded shown
  have seeds : seeded = (initial.evaluate places s.buffer).state := by
    rw [← seed_of_isSafe filled safe]
  constructor
  · intro ends
    have shows : shown = (s.evaluate places s.buffer).state := by
      rw [← apply_equals_of_ends running filled ends]
    rw [seeds, shows]
    exact evaluate_agrees initial s places s.buffer
  · intro ends
    obtain ⟨e, stopped⟩ := exists_error_of_endsInOperator places ends
    rw [evaluate_of_error stopped] at seeds
    obtain ⟨operators, parts, symbols, last⟩ := exists_operators s.buffer
    refine ⟨by rw [seeds]; rfl, stripOperators s.buffer, operators, parts, symbols, last, ?_, ?_⟩
    · intro nothing
      have zero : shown = { s with buffer := ['0'] } := apply_equals_of_nothing running nothing
      refine ⟨zero, ?_⟩
      rw [zero]
      exact display_of_running running
    · intro something bare
      have shows : shown = (s.evaluate places (stripOperators s.buffer)).state := by
        rw [← apply_equals_of_running running something]
      have alone : bare = ({ s with buffer := stripOperators s.buffer }.evaluate places
          (stripOperators s.buffer)).state := by
        rw [← apply_equals_of_ends (s := { s with buffer := stripOperators s.buffer }) running
          something last]
      rw [shows, alone]
      exact evaluate_of_buffer s places _ _

/-- A sum with two operators behind it: refused as a first expression, and evaluated by equals. -/
theorem seed_agrees_with_equals_trailing :
    let s : State := { buffer := "1.5*-2-+".toList, lastWasOperator := true }
    s.buffer ≠ [] ∧ isSafe s.buffer = true ∧ s.errorState = false ∧
      endsInOperator s.buffer = true ∧ (seed (.whole 10) s.buffer).state.errorState = true ∧
      ∃ base operators, s.buffer = base ++ operators ∧ endsInOperator base = false := by
  intro s
  have filled : s.buffer ≠ [] := by decide
  have safe : isSafe s.buffer = true := by decide
  have ends : endsInOperator s.buffer = true := by decide
  obtain ⟨refused, base, operators, parts, -, last, -⟩ :=
    (seed_agrees_with_equals filled safe (.whole 10) (s := s) rfl rfl).2 ends
  exact ⟨filled, safe, rfl, ends, refused, base, operators, parts, last⟩

end State

end Editor

end Reckoner
