import Mathlib.Tactic
import Reckoner.Editor.Script
import Reckoner.Proofs.Editor.Shape
import Reckoner.Proofs.Expression.RoundTrip

/-!
# What holds of every state

The buffer has the shape of an expression that is being typed, the two flags agree with the end of
it, and a message is there exactly while an error is shown. Every action keeps this, whatever it is
applied to, and so does starting from a first expression. So a script of regular commands has no
fault, and every state it comes to is well-formed.
-/

namespace Reckoner.Editor

/-- The texts that are shown for errors. -/
def errorTexts : List String := ["Error: Unsafe input", "Error: Div by Zero", "Error: Invalid Exp"]

/-- What holds of every state that can be reached. -/
structure State.WellFormed (s : State) : Prop where
  /-- The buffer is a lone operator, or numbers with single operators between and around them. -/
  shape : s.buffer ∈ Shape.buffer
  /-- The flag for a point tells whether the last number has one. -/
  decimal : s.hasDecimal = true ↔ '.' ∈ lastNumber s.buffer
  /-- An operator at the end was entered last. -/
  operator : endsInOperator s.buffer = true → s.lastWasOperator = true
  /-- After an operator the next number has no point yet. -/
  fresh : s.lastWasOperator = true → s.hasDecimal = false
  /-- There is a message exactly while an error is shown. -/
  message : s.message = none ↔ s.errorState = false
  /-- The message is one of the texts for errors. -/
  wording : ∀ text, s.message = some text → text ∈ errorTexts

theorem mem_errorTexts (code : String) : codeDisplay code ∈ errorTexts := by
  unfold codeDisplay
  split <;> decide

/-! ## The end of a well-formed buffer -/

namespace State.WellFormed

variable {s : State}

theorem noPoint (wellFormed : s.WellFormed) (operator : s.lastWasOperator = true) :
    '.' ∉ lastNumber s.buffer := by
  intro member
  have := wellFormed.fresh operator
  rw [wellFormed.decimal.mpr member] at this
  cases this

/-- Where no operator was entered last, the buffer ends in a number. -/
theorem complete (wellFormed : s.WellFormed) (number : s.lastWasOperator = false) :
    s.buffer ∈ Shape.complete := by
  rcases Shape.buffer_cases wellFormed.shape with ⟨complete, -⟩ | ⟨before, op, last, -, -⟩
  · exact complete
  · have := wellFormed.operator (last ▸ Shape.endsInOperator_append before op)
    rw [number] at this
    cases this

/-- A state whose buffer is complete, and that knows whether its last number has a point. -/
theorem ofComplete {t : State} (complete : t.buffer ∈ Shape.complete)
    (decimal : t.hasDecimal = true ↔ '.' ∈ lastNumber t.buffer)
    (fresh : t.lastWasOperator = true → t.hasDecimal = false)
    (message : t.message = none ↔ t.errorState = false)
    (wording : ∀ text, t.message = some text → text ∈ errorTexts) : t.WellFormed where
  shape := Shape.buffer_of_complete complete
  decimal := decimal
  operator := fun operator => by
    rw [Shape.endsInOperator_complete complete] at operator
    cases operator
  fresh := fresh
  message := message
  wording := wording

end State.WellFormed

theorem lastNumber_digit {c : Char} (plain : Text.isPlainDigit c = true) :
    lastNumber [c] = [c] := by
  have empty : [] ∈ Shape.leading := .inl (.inl rfl)
  have run : [c] ∈ Shape.run :=
    Shape.run_of_digits (by simp) (List.forall_mem_singleton.mpr plain)
  exact Shape.lastNumber_append empty run

theorem complete_digit {c : Char} (plain : Text.isPlainDigit c = true) : [c] ∈ Shape.complete := by
  have empty : [] ∈ Shape.leading := .inl (.inl rfl)
  have run : [c] ∈ Shape.run :=
    Shape.run_of_digits (by simp) (List.forall_mem_singleton.mpr plain)
  exact Shape.complete_of_run empty run

namespace State

variable {s : State}

theorem wellFormed_initial : initial.WellFormed := by
  apply WellFormed.ofComplete
  · exact complete_digit (by decide)
  · simp [initial, lastNumber_digit (show Text.isPlainDigit '0' = true by decide)]
  · simp [initial]
  · simp [initial]
  · simp [initial]

/-! ## Actions -/

theorem WellFormed.enterDigit (wellFormed : s.WellFormed) {c : Char}
    (plain : Text.isPlainDigit c = true) : (s.enterDigit [c]).WellFormed := by
  have notPoint := Positional.ne_point_of_plain plain
  unfold State.enterDigit
  split
  · rename_i replaced
    -- Neither a lone zero nor an operator at the end comes with a point.
    have noDecimal : s.hasDecimal = false := by
      rw [Bool.or_eq_true, decide_eq_true_eq] at replaced
      rcases replaced with zero | operator
      · have decimal := wellFormed.decimal
        rw [zero, lastNumber_digit (by decide)] at decimal
        simpa using decimal
      · exact wellFormed.fresh operator
    apply WellFormed.ofComplete
    · exact complete_digit plain
    · simp [noDecimal, lastNumber_digit plain, notPoint.symm]
    · simp
    · exact wellFormed.message
    · exact wellFormed.wording
  · rename_i added
    rw [Bool.or_eq_true, not_or, Bool.not_eq_true, Bool.not_eq_true] at added
    obtain ⟨complete, last⟩ := Shape.complete_append_digit (wellFormed.complete added.2) plain
    apply WellFormed.ofComplete
    · exact complete
    · simp only [last]
      rw [wellFormed.decimal]
      simp [notPoint.symm]
    · simp
    · exact wellFormed.message
    · exact wellFormed.wording

/-- A buffer that takes a point comes to end in a number with one. -/
theorem WellFormed.withPoint (wellFormed : s.WellFormed) {buffer : List Char}
    (complete : buffer ∈ Shape.complete) (point : '.' ∈ lastNumber buffer) :
    State.WellFormed { s with buffer, lastWasOperator := false, hasDecimal := true } := by
  apply WellFormed.ofComplete
  · exact complete
  · simp [point]
  · simp
  · exact wellFormed.message
  · exact wellFormed.wording

theorem WellFormed.enterDecimal (wellFormed : s.WellFormed) : s.enterDecimal.WellFormed := by
  unfold State.enterDecimal
  split
  · rename_i operator
    -- A zero is put before the point, behind an operator or behind a number that has no point.
    have digit : s.buffer ++ ['0'] ∈ Shape.complete ∧ '.' ∉ lastNumber (s.buffer ++ ['0']) := by
      rcases Shape.buffer_cases wellFormed.shape with ⟨complete, -⟩ | ⟨_, _, _, leading, _⟩
      · have plain : Text.isPlainDigit '0' = true := by decide
        obtain ⟨complete, last⟩ := Shape.complete_append_digit complete plain
        rw [last]
        exact ⟨complete, by simp [wellFormed.noPoint operator]⟩
      · have run : ['0'] ∈ Shape.run :=
          Shape.run_of_digits (by simp) (List.forall_mem_singleton.mpr rfl)
        rw [Shape.lastNumber_append leading run]
        exact ⟨Shape.complete_of_run leading run, by decide⟩
    obtain ⟨complete, last⟩ := Shape.complete_append_point digit.1 digit.2
    rw [List.append_assoc] at complete last
    apply wellFormed.withPoint complete
    rw [last]
    simp
  · split
    · rename_i number free
      rw [Bool.not_eq_true] at number
      have noPoint : '.' ∉ lastNumber s.buffer := by
        simp only [Bool.and_eq_true, Bool.not_eq_true', endsInFraction] at free
        simpa using free.2
      obtain ⟨complete, last⟩ := Shape.complete_append_point (wellFormed.complete number) noPoint
      have typed := wellFormed.withPoint complete (by simp [last])
      rw [← number] at typed
      exact typed
    · exact wellFormed

theorem WellFormed.enterOperator (wellFormed : s.WellFormed) (op : Operator) :
    (s.enterOperator [op.symbol]).WellFormed := by
  have kept : (if endsInOperator s.buffer then s.buffer.dropLast else s.buffer) = [] ∨
      (if endsInOperator s.buffer then s.buffer.dropLast else s.buffer) ∈ Shape.complete := by
    rcases Shape.buffer_cases wellFormed.shape with
      ⟨complete, number⟩ | ⟨before, op', last, -, rest⟩
    · rw [number, if_neg (by decide)]
      exact .inr complete
    · rw [last, Shape.endsInOperator_append, if_pos rfl, List.dropLast_concat]
      exact rest
  unfold State.enterOperator
  simp only
  generalize (if endsInOperator s.buffer then s.buffer.dropLast else s.buffer) = front at kept
  have none := Shape.lastNumber_of_endsInOperator (Shape.endsInOperator_append front op)
  exact
    { shape := Shape.buffer_append_operator kept op
      decimal := by simp [none]
      operator := fun _ => rfl
      fresh := fun _ => rfl
      message := wellFormed.message
      wording := wellFormed.wording }

theorem WellFormed.backspace (wellFormed : s.WellFormed) : s.backspace.WellFormed := by
  unfold State.backspace
  split
  · exact wellFormed_initial
  · rename_i long
    have filled : s.buffer.dropLast ≠ [] := by
      intro empty
      have := congrArg List.length empty
      rw [List.length_dropLast, List.length_nil] at this
      omega
    exact
      { shape := Shape.buffer_dropLast wellFormed.shape filled
        decimal := by simp [endsInFraction]
        operator := fun operator => operator
        fresh := fun operator => by
          simp [endsInFraction, Shape.lastNumber_of_endsInOperator operator]
        message := wellFormed.message
        wording := wellFormed.wording }

theorem WellFormed.failed (wellFormed : s.WellFormed) (e : CalculationError) :
    (s.failed e).WellFormed where
  shape := wellFormed.shape
  decimal := wellFormed.decimal
  operator := wellFormed.operator
  fresh := wellFormed.fresh
  message := by simp [State.failed]
  wording := by
    intro text shown
    injection shown with same
    exact same ▸ mem_errorTexts e.code

theorem wellFormed_ofResult (x : Number) : (ofResult x.canonical).WellFormed := by
  apply WellFormed.ofComplete
  · exact Shape.complete_canonical x
  · show x.canonical.contains '.' = true ↔ _
    rw [List.contains_iff_mem]
    exact Shape.point_mem_canonical x
  · simp [ofResult]
  · simp [ofResult]
  · simp [ofResult]

theorem WellFormed.evaluate (wellFormed : s.WellFormed) (places : Places) (text : List Char) :
    (s.evaluate places text).state.WellFormed := by
  unfold State.evaluate
  cases calculated : calculate .standard places text with
  | ok result =>
      obtain ⟨v, -, rounded⟩ := calculate_eq_ok_iff.mp calculated
      obtain ⟨z, rfl⟩ := Decimal.exists_canonical_of_rounded rounded
      exact wellFormed_ofResult z
  | error e => exact wellFormed.failed e

theorem WellFormed.equals (wellFormed : s.WellFormed) (places : Places) :
    (s.equals places).state.WellFormed := by
  unfold State.equals
  split
  · rename_i empty
    rcases Shape.stripOperators_buffer wellFormed.shape with ⟨-, operator⟩ | complete
    · -- The flag for an operator stays, and with it the other one is false.
      have noDecimal := wellFormed.fresh (wellFormed.operator operator)
      apply WellFormed.ofComplete
      · exact complete_digit (by decide)
      · simp [noDecimal, lastNumber_digit (show Text.isPlainDigit '0' = true by decide)]
      · exact wellFormed.fresh
      · exact wellFormed.message
      · exact wellFormed.wording
    · exact absurd empty (Shape.complete_ne_nil complete)
  · exact wellFormed.evaluate places _

/-- Every checked action keeps a state well-formed. -/
theorem WellFormed.step (wellFormed : s.WellFormed) (places : Places) {action : Action}
    (checked : action.Checked) : (s.step places action).state.WellFormed := by
  cases checked with
  | digit plain => exact wellFormed.enterDigit plain
  | decimal => exact wellFormed.enterDecimal
  | operator op => exact wellFormed.enterOperator op
  | equals => exact wellFormed.equals places
  | clear => exact wellFormed_initial
  | backspace => exact wellFormed.backspace

theorem WellFormed.apply (wellFormed : s.WellFormed) (places : Places) {action : Action}
    (checked : action.Checked) : (s.apply places action).state.WellFormed := by
  unfold State.apply
  split
  · split
    · exact wellFormed
    · exact wellFormed_initial
    · exact wellFormed_initial
    · exact wellFormed_initial.step places checked
  · exact wellFormed.step places checked

theorem wellFormed_seed (places : Places) (text : List Char) :
    (seed places text).state.WellFormed := by
  unfold seed
  split
  · exact wellFormed_initial
  · split
    · exact wellFormed_initial.evaluate places text
    · exact wellFormed_initial.failed _

end State

/-! ## Keys and buttons stand for checked actions -/

namespace Action

variable {cs : List Char} {action : Action}

theorem checked_of_digit? (found : digit? cs = some action) : action.Checked := by
  unfold digit? at found
  split at found
  · split at found
    · rename_i plain
      injection found with same
      exact same ▸ .digit plain
    · cases found
  · cases found

theorem checked_of_operator? (found : operator? cs = some action) : action.Checked := by
  obtain ⟨op, -, rfl⟩ := Option.map_eq_some_iff.mp found
  exact .operator op

theorem checked_of_digitValue {value : Json.Value} (made : ofDigitValue value = .ok action) :
    action.Checked := by
  unfold ofDigitValue at made
  split at made
  · rename_i found
    obtain ⟨cs, -, digit⟩ := Option.bind_eq_some_iff.mp found
    injection made with same
    exact same ▸ checked_of_digit? digit
  · cases made

theorem checked_of_operatorValue {value : Json.Value}
    (made : ofOperatorValue value = .ok action) : action.Checked := by
  unfold ofOperatorValue at made
  split at made
  · split at made
    · rename_i found
      obtain ⟨cs, -, operator⟩ := Option.bind_eq_some_iff.mp found
      injection made with same
      exact same ▸ checked_of_operator? operator
    · cases made
  · cases made
  · cases made
  · cases made

theorem checked_of_common (found : commonAction? cs = some action) : action.Checked := by
  rcases Option.or_eq_some_iff.mp found with digit | ⟨-, other⟩
  · exact checked_of_digit? digit
  · split at other
    · injection other with same
      exact same ▸ .decimal
    · exact checked_of_operator? other

theorem checked_of_key (found : keyAction? cs = some action) : action.Checked := by
  rcases Option.or_eq_some_iff.mp found with common | ⟨-, other⟩
  · exact checked_of_common common
  · split at other <;> cases other
    · exact .equals
    · exact .equals
    · exact .equals
    · exact .clear
    · exact .backspace

theorem checked_of_button (found : buttonAction? cs = some action) : action.Checked := by
  rcases Option.or_eq_some_iff.mp found with common | ⟨-, other⟩
  · exact checked_of_common common
  · split at other <;> cases other
    · exact .equals
    · exact .clear
    · exact .backspace

end Action

/-! ## Scripts -/

/-- The commands of someone at the keys: checked actions, keys and buttons by any text, a first
expression, the reset after an error, and another number of places. -/
inductive Command.Regular : Command → Prop where
  | action {action : Action} : action.Checked → Regular (.request (.ofAction action))
  | digit {value : Json.Value} {action : Action} :
      Action.ofDigitValue value = .ok action → Regular (.digit value)
  | operator {value : Json.Value} {action : Action} :
      Action.ofOperatorValue value = .ok action → Regular (.operator value)
  | key (text : Json.CodePoints) : Regular (.key (.text text))
  | button (text : Json.CodePoints) : Regular (.button (.text text))
  | seed (text : List Char) : Regular (.seed text)
  | resetIfError : Regular .resetIfError
  | keep {n : ℤ} : n ≤ 999999 → Regular (.keep (.whole n))

/-- Whether a desk has a whole number of places, and a well-formed state whose buffer is not
lost. -/
def Desk.WellFormed (desk : Desk) : Prop :=
  ∃ (n : ℤ) (s : State), n ≤ 999999 ∧ s.WellFormed ∧
    desk = { places := .whole n, draft := { state := s } }

namespace Desk

variable {desk : Desk}

theorem wellFormed_initial : WellFormed {} :=
  ⟨10, .initial, by decide, State.wellFormed_initial, rfl⟩

theorem WellFormed.perform (wellFormed : desk.WellFormed) {action : Action}
    (checked : action.Checked) :
    ∃ reply, desk.perform (.ofAction action) = .ok reply ∧ reply.desk.WellFormed := by
  obtain ⟨n, s, most, state, rfl⟩ := wellFormed
  have filled := Shape.buffer_ne_nil state.shape
  exact ⟨_, perform_ofAction _ s action filled, n, _, most, state.apply _ checked, rfl⟩

theorem WellFormed.performMapped (wellFormed : desk.WellFormed) {action? : Option Action}
    (checked : ∀ action, action? = some action → action.Checked) :
    ∃ reply, desk.performMapped action? = .ok reply ∧ reply.desk.WellFormed := by
  cases action? with
  | none => exact ⟨_, rfl, wellFormed⟩
  | some action => exact wellFormed.perform (checked action rfl)

theorem exists_ofMapped (map : List Char → Option Action)
    (maps : ∀ cs action, map cs = some action → action.Checked) (text : Json.CodePoints) :
    ∃ action?, Action.ofMapped map (.text text) = .ok action? ∧
      ∀ action, action? = some action → action.Checked := by
  unfold Action.ofMapped
  split
  · refine ⟨_, rfl, fun action found => ?_⟩
    obtain ⟨cs, -, mapped⟩ := Option.bind_eq_some_iff.mp found
    exact maps cs action mapped
  · exact ⟨none, rfl, by simp⟩

/-- A regular command has no fault and keeps a desk well-formed. -/
theorem WellFormed.run (wellFormed : desk.WellFormed) {command : Command}
    (regular : command.Regular) :
    ∃ reply, desk.run command = .ok reply ∧ reply.desk.WellFormed := by
  cases regular with
  | action checked => exact wellFormed.perform checked
  | digit made =>
      simp only [Desk.run, made]
      exact wellFormed.perform (Action.checked_of_digitValue made)
  | operator made =>
      simp only [Desk.run, made]
      exact wellFormed.perform (Action.checked_of_operatorValue made)
  | key text =>
      obtain ⟨action?, mapped, checked⟩ :=
        exists_ofMapped keyAction? (fun _ _ => Action.checked_of_key) text
      simp only [Desk.run, mapped]
      exact wellFormed.performMapped checked
  | button text =>
      obtain ⟨action?, mapped, checked⟩ :=
        exists_ofMapped buttonAction? (fun _ _ => Action.checked_of_button) text
      simp only [Desk.run, mapped]
      exact wellFormed.performMapped checked
  | seed text =>
      obtain ⟨n, s, most, state, rfl⟩ := wellFormed
      exact ⟨_, rfl, n, _, most, State.wellFormed_seed _ text, rfl⟩
  | resetIfError =>
      simp only [Desk.run]
      split
      · rename_i error
        obtain ⟨n, s, most, state, rfl⟩ := wellFormed
        have shown : s.errorState = true := error
        refine ⟨_, rfl, n, _, most, state.apply (.whole n) .clear, ?_⟩
        simp [Session.resetIfError, Desk.session, shown, DeskReply.ofReply, Session.apply]
      · exact ⟨_, rfl, wellFormed⟩
  | @keep n most =>
      obtain ⟨-, s, -, state, rfl⟩ := wellFormed
      exact ⟨_, rfl, n, s, most, state, rfl⟩

/-- A script of regular commands has no fault and leaves a well-formed desk after each of them. -/
theorem WellFormed.runAll (wellFormed : desk.WellFormed) {commands : List Command}
    (regular : ∀ command ∈ commands, command.Regular) :
    ∀ answer ∈ desk.runAll commands,
      (∃ reply, answer.1 = .ok reply) ∧ answer.2.WellFormed := by
  induction commands generalizing desk with
  | nil => simp [Desk.runAll]
  | cons command commands ih =>
      obtain ⟨reply, done, next⟩ := wellFormed.run (regular command (.head _))
      intro answer member
      rw [Desk.runAll, done, List.mem_cons] at member
      rcases member with rfl | later
      · exact ⟨⟨reply, rfl⟩, next⟩
      · exact ih next (fun command member => regular command (.tail _ member)) answer later

end Desk

/-- The initial state is well-formed, no regular command has a fault, and every state that regular
commands lead to from there has its buffer and is well-formed. -/
theorem reachable_wellFormed {commands : List Command}
    (regular : ∀ command ∈ commands, command.Regular) :
    State.initial.WellFormed ∧
    ∀ answer ∈ Desk.runAll {} commands,
      (∃ reply, answer.1 = .ok reply) ∧ answer.2.draft.lost = false ∧
        answer.2.draft.state.buffer ≠ [] ∧ answer.2.draft.state.WellFormed := by
  refine ⟨State.wellFormed_initial, fun answer member => ?_⟩
  obtain ⟨replied, n, s, -, state, desk⟩ := Desk.wellFormed_initial.runAll regular answer member
  rw [desk]
  exact ⟨replied, rfl, Shape.buffer_ne_nil state.shape, state⟩

theorem reachable_wellFormed_taken_back :
    (∀ command ∈ [Command.keep (.whole 2), .seed "2/-3".toList, .key (.text "Backspace"),
      .request (.ofAction .equals)], command.Regular) ∧
    ∀ answer ∈ Desk.runAll {} [.keep (.whole 2), .seed "2/-3".toList, .key (.text "Backspace"),
      .request (.ofAction .equals)], answer.2.draft.state.WellFormed := by
  have regular : ∀ command ∈ [Command.keep (.whole 2), .seed "2/-3".toList,
      .key (.text "Backspace"), .request (.ofAction .equals)], command.Regular := by
    intro command member
    simp only [List.mem_cons, List.not_mem_nil, or_false] at member
    rcases member with rfl | rfl | rfl | rfl
    · exact .keep (by decide)
    · exact .seed _
    · exact .key _
    · exact .action .equals
  exact ⟨regular, fun answer member => ((reachable_wellFormed regular).2 answer member).2.2.2⟩

end Reckoner.Editor
