import Mathlib.Tactic
import Reckoner.Proofs.Editor.Containment
import Reckoner.Proofs.Editor.Reachable

/-!
# Taking back

A backspace takes the last character away and reads both flags off what is left, so where no error
is shown it leads to the state that the shorter buffer determines. It undoes whatever added one
character to such a state, and as many backspaces as there are characters lead to the initial one.
-/

namespace Reckoner.Editor

/-- Whether an action types a character of an expression. -/
def Action.isTyping : Action → Bool
  | .digit _ | .decimal | .operator _ => true
  | .equals | .clear | .backspace => false

namespace State

/-- The state that shows a buffer, with the flags that are read off its end. -/
def ofBuffer (buffer : List Char) : State where
  buffer := buffer
  lastWasOperator := endsInOperator buffer
  hasDecimal := endsInFraction buffer

variable {s : State} {places : Places} {action : Action}

/-- A state whose flag for an operator agrees with its buffer is determined by the buffer. -/
theorem Reachable.eq_ofBuffer (reachable : s.Reachable) (running : s.errorState = false)
    (agrees : s.lastWasOperator = endsInOperator s.buffer) : s = ofBuffer s.buffer := by
  rw [ofBuffer, ← agrees]
  exact reachable.eq_mk running

/-! ## One character more -/

/-- Whether `t` shows the buffer of `s` with one character added. -/
def Extends (t s : State) : Prop :=
  ∃ c, t.buffer = s.buffer ++ [c] ∧ t.errorState = s.errorState ∧ t.message = s.message

theorem extends_enterDigit (filled : s.buffer ≠ []) {c : Char}
    (longer : (s.enterDigit [c]).buffer.length = s.buffer.length + 1) :
    (s.enterDigit [c]).Extends s := by
  unfold enterDigit at longer ⊢
  split
  · -- A digit in the place of the whole buffer makes it longer only if there was none.
    rename_i replaced
    rw [if_pos replaced, List.length_singleton] at longer
    exact absurd (List.eq_nil_of_length_eq_zero (by omega)) filled
  · exact ⟨c, rfl, rfl, rfl⟩

theorem extends_enterDecimal (longer : s.enterDecimal.buffer.length = s.buffer.length + 1) :
    s.enterDecimal.Extends s := by
  unfold enterDecimal at longer ⊢
  split
  · rename_i operator
    simp [operator] at longer
  · rename_i number
    split
    · exact ⟨'.', rfl, rfl, rfl⟩
    · rename_i pointed
      simp [number, pointed] at longer

theorem extends_enterOperator (op : Operator)
    (longer : (s.enterOperator [op.symbol]).buffer.length = s.buffer.length + 1) :
    (s.enterOperator [op.symbol]).Extends s := by
  refine ⟨op.symbol, ?_, rfl, rfl⟩
  simp only [enterOperator, List.length_append, List.length_singleton] at longer ⊢
  split
  · rename_i operator
    rw [if_pos operator, List.length_dropLast] at longer
    have empty : s.buffer = [] := List.eq_nil_of_length_eq_zero (by omega)
    rw [empty] at operator
    cases operator
  · rfl

theorem extends_apply (filled : s.buffer ≠ []) (running : s.errorState = false)
    (checked : action.Checked) (typing : action.isTyping = true)
    (longer : (s.apply places action).state.buffer.length = s.buffer.length + 1) :
    (s.apply places action).state.Extends s := by
  rw [apply_of_running running] at longer ⊢
  cases checked with
  | digit _ => exact extends_enterDigit filled longer
  | decimal => exact extends_enterDecimal longer
  | operator op => exact extends_enterOperator op longer
  | equals | clear | backspace => cases typing

/-! ## One character less -/

/-- Where no error is shown, a backspace leads to the state of the shorter buffer. -/
theorem apply_backspace (running : s.errorState = false) (message : s.message = none)
    (long : 1 < s.buffer.length) :
    (s.apply places .backspace).state = ofBuffer s.buffer.dropLast := by
  rw [apply_of_running running]
  show s.backspace = _
  rw [backspace, if_neg (by omega), running, message]
  rfl

/-- The last character of all leaves the initial state. -/
theorem apply_backspace_of_single (running : s.errorState = false) (single : s.buffer.length = 1) :
    (s.apply places .backspace).state = initial := by
  rw [apply_of_running running]
  exact if_pos single.le

/-- A backspace undoes an added character. -/
theorem Extends.apply_backspace {t : State} (longer : t.Extends s) (running : s.errorState = false)
    (message : s.message = none) (filled : s.buffer ≠ []) :
    (t.apply places .backspace).state = ofBuffer s.buffer := by
  obtain ⟨c, buffer, error, text⟩ := longer
  have long : 1 < t.buffer.length := by
    have := List.length_pos_of_ne_nil filled
    rw [buffer, List.length_append, List.length_singleton]
    omega
  rw [State.apply_backspace (error.trans running) (text.trans message) long, buffer,
    List.dropLast_concat]

/-! ## All characters -/

section Backspaces

variable {steps : List (Places × Action)} (running : s.errorState = false)
  (message : s.message = none) (backspaces : ∀ step ∈ steps, step.2 = .backspace)

include running message backspaces

/-- Each of so many backspaces that a character is left takes the last one away. -/
theorem run_backspaces_of_lt (short : steps.length < s.buffer.length) :
    (s.run steps).buffer = s.buffer.take (s.buffer.length - steps.length) ∧
      (s.run steps).errorState = false ∧ (s.run steps).message = none := by
  induction steps using List.reverseRecOn with
  | nil => exact ⟨List.take_length.symm, running, message⟩
  | append_singleton steps step ih =>
      obtain ⟨places, action⟩ := step
      obtain rfl : action = .backspace := backspaces (places, action) (by simp)
      rw [List.length_append, List.length_singleton] at short ⊢
      obtain ⟨left, running', message'⟩ :=
        ih (fun step member => backspaces step (by simp [member])) (by omega)
      have length : (s.run steps).buffer.length = s.buffer.length - steps.length := by
        rw [left, List.length_take, min_eq_left (Nat.sub_le _ _)]
      rw [run_concat, apply_backspace running' message' (by omega), List.dropLast_eq_take, length,
        left, List.take_take, min_eq_left (Nat.sub_le _ _), Nat.sub_sub]
      exact ⟨rfl, rfl, rfl⟩

/-- As many backspaces as there are characters leave the initial state. -/
theorem run_backspaces_of_eq (filled : s.buffer ≠ []) (all : steps.length = s.buffer.length) :
    s.run steps = initial := by
  have positive := List.length_pos_of_ne_nil filled
  cases steps using List.reverseRecOn with
  | nil => simp [← all] at positive
  | append_singleton steps step =>
      obtain ⟨places, action⟩ := step
      obtain rfl : action = .backspace := backspaces (places, action) (by simp)
      rw [List.length_append, List.length_singleton] at all
      have front : ∀ step ∈ steps, step.2 = .backspace := fun step member =>
        backspaces step (by simp [member])
      obtain ⟨left, running', -⟩ := run_backspaces_of_lt running message front (by omega)
      have single : (s.run steps).buffer.length = 1 := by
        rw [left, List.length_take]
        omega
      rw [run_concat, apply_backspace_of_single running' single]

end Backspaces

/-- Where no error is shown and the flag for an operator agrees with the end of the buffer, a
backspace undoes a digit, a point or an operator that made the buffer one character longer: the
state is what it was, flags included. Where no error is shown, each of fewer backspaces than there
are characters takes the last one away, and as many backspaces as there are characters lead to the
initial state. -/
theorem backspace_takes_back {s : State} (reachable : s.Reachable)
    (running : s.errorState = false) :
    (s.lastWasOperator = endsInOperator s.buffer →
      ∀ (places later : Places) (action : Action), action.Checked → action.isTyping = true →
        (s.apply places action).state.buffer.length = s.buffer.length + 1 →
          s.run [(places, action), (later, .backspace)] = s) ∧
    ∀ steps : List (Places × Action), (∀ step ∈ steps, step.2 = .backspace) →
      (steps.length < s.buffer.length →
        (s.run steps).buffer = s.buffer.take (s.buffer.length - steps.length) ∧
          (s.run steps).errorState = false) ∧
      (steps.length = s.buffer.length → s.run steps = initial) := by
  have wellFormed := reachable.wellFormed
  have message := wellFormed.message.mpr running
  have filled := Shape.buffer_ne_nil wellFormed.shape
  constructor
  · intro agrees places later action checked typing longer
    have added := extends_apply filled running checked typing longer
    exact (added.apply_backspace running message filled).trans
      (reachable.eq_ofBuffer running agrees).symm
  · intro steps backspaces
    constructor
    · intro short
      obtain ⟨left, running', -⟩ := run_backspaces_of_lt running message backspaces short
      exact ⟨left, running'⟩
    · exact run_backspaces_of_eq running message backspaces filled

/-- An operator behind a negative result is taken back with the flag for the result's point. Five
backspaces leave the minus of that result, and the sixth one the initial state. -/
theorem backspace_takes_back_eighth :
    let s := (seed .standard "1/-8".toList).state
    let backspaces (n : ℕ) := List.replicate n (Places.standard, Action.backspace)
    s.Reachable ∧ s.errorState = false ∧ s.lastWasOperator = endsInOperator s.buffer ∧
      s.hasDecimal = true ∧
      (s.apply .standard (.ofOperator .mul)).state.buffer.length = s.buffer.length + 1 ∧
      s.run [(.standard, .ofOperator .mul), (.standard, .backspace)] = s ∧
      (s.run (backspaces 5)).buffer = ['-'] ∧ s.run (backspaces 6) = initial := by
  intro s backspaces
  have shown : s = { buffer := "-0.125".toList, hasDecimal := true } := by decide +kernel
  have reachable : s.Reachable := Reachable.initial.seed .standard "1/-8".toList
  have running : s.errorState = false := by rw [shown]
  have agrees : s.lastWasOperator = endsInOperator s.buffer := by
    rw [shown]
    decide
  have longer :
      (s.apply .standard (.ofOperator .mul)).state.buffer.length = s.buffer.length + 1 := by
    rw [shown]
    decide
  have only (n : ℕ) : ∀ step ∈ backspaces n, step.2 = .backspace := fun step member => by
    rw [List.eq_of_mem_replicate member]
  obtain ⟨undone, left⟩ := backspace_takes_back reachable running
  have six : s.buffer.length = 6 := by
    rw [shown]
    decide
  refine ⟨reachable, running, agrees, by rw [shown], longer, ?_, ?_, ?_⟩
  · exact undone agrees .standard .standard (.ofOperator .mul) (.operator .mul) rfl longer
  · rw [((left (backspaces 5) (only 5)).1 (by rw [six]; decide)).1, shown]
    decide
  · exact (left (backspaces 6) (only 6)).2 six.symm

end State

end Reckoner.Editor
