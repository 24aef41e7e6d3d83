import Mathlib.Tactic
import Reckoner.Proofs.Editor.Invariant
import Reckoner.Proofs.Editor.LateReset
import Reckoner.Proofs.Editor.Seed
import Reckoner.Proofs.Expression.Reports

/-!
# Errors in the journal

An equals that finds no result where no error is shown, and a first expression that is not safe or
has no result, make one record of an error each, and nothing else makes any. The record has the code
of the error, what that code means, and the text that was to be evaluated; what is shown afterwards
is told by the code alone.
-/

namespace Reckoner.Editor

/-! ## Which command fails -/

/-- The action that a request asks for, if it is one. -/
def Request.action? (request : Request) : Option Action :=
  match request.kind?, request.text with
  | some .digit, some text => some (.digit text)
  | some .operator, some text => some (.operator text)
  | some .decimal, _ => some .decimal
  | some .equals, _ => some .equals
  | some .clear, _ => some .clear
  | some .backspace, _ => some .backspace
  | _, _ => none

/-- The action that a command stands for, if it stands for one. -/
def Command.action? : Command → Option Action
  | .request asked => asked.action?
  | .digit value => (Action.ofDigitValue value).toOption
  | .operator value => (Action.ofOperatorValue value).toOption
  | .key value => (Action.ofMapped keyAction? value).toOption.join
  | .button value => (Action.ofMapped buttonAction? value).toOption.join
  | .seed _ | .resetIfError | .resume _ | .keep _ => none

/-- Whether a command fails at a desk, by an error that arises from a text. -/
inductive Desk.Fails (desk : Desk) : Command → List Char → CalculationError → Prop where
  /-- Where no error is shown, an equals evaluates the buffer without the operators at its end. -/
  | equals {command : Command} {e : CalculationError} :
      command.action? = some .equals → desk.draft.state.errorState = false →
      stripOperators desk.draft.state.buffer ≠ [] →
      calculate .standard desk.places (stripOperators desk.draft.state.buffer) = .error e →
      Fails desk command (stripOperators desk.draft.state.buffer) e
  /-- A first expression that is not safe is refused. -/
  | refused {text : List Char} : isSafe text = false → Fails desk (.seed text) text .unsafeInput
  /-- A first expression that is safe is evaluated whatever is shown. -/
  | seed {text : List Char} {e : CalculationError} :
      text ≠ [] → isSafe text = true → calculate .standard desk.places text = .error e →
      Fails desk (.seed text) text e

/-! ## The records of errors -/

/-- The records of errors that notes make. -/
def errorRecords (notes : List Note) : List Journal.Record :=
  Journal.atLeast .error (notes.map Note.record)

@[simp] theorem errorRecords_nil : errorRecords [] = [] := rfl

@[simp] theorem errorRecords_append (notes further : List Note) :
    errorRecords (notes ++ further) = errorRecords notes ++ errorRecords further := by
  simp [errorRecords, Journal.atLeast]

/-- Notes below the level of an error make no such record. -/
theorem errorRecords_eq_nil {notes : List Note}
    (below : ∀ note ∈ notes, note.level.rank < Journal.Level.error.rank) :
    errorRecords notes = [] := by
  refine List.filter_eq_nil_iff.mpr (List.forall_mem_map.mpr fun note member => ?_)
  rw [decide_eq_true_eq, not_le]
  exact below note member

@[simp] theorem errorRecords_readingNotes (text : List Char) :
    errorRecords (readingNotes text) = [] := by
  apply errorRecords_eq_nil
  unfold readingNotes
  split
  · simp
  · split
    · simp
    · split <;> simp [Note.level, Journal.Level.rank]

@[simp] theorem errorRecords_applied (kind : ActionKind) (text : List Char)
    (display : Option String) : errorRecords [.applied kind text display] = [] :=
  errorRecords_eq_nil (by simp [Note.level, Journal.Level.rank])

@[simp] theorem errorRecords_seeded (text : List Char) (display : Option String) :
    errorRecords [.seeded text display] = [] :=
  errorRecords_eq_nil (by simp [Note.level, Journal.Level.rank])

@[simp] theorem errorRecords_failed (report : Report) :
    errorRecords [.failed report] = [(Note.failed report).record] :=
  List.filter_eq_self.mpr (by simp [Note.record, Note.level])

/-- What is recorded of an error: its code and what it means, its own wording, and its text. -/
theorem record_failed {e : CalculationError} {detail : String}
    (means : codeDetail? e.code = some detail) (text : List Char) :
    (Note.failed (e.report (some text))).record =
      { level := .error
        source := "expression_editor.ExpressionEngine"
        message := "Calculation error " ++ e.code ++ ": " ++ detail ++ " | Details: " ++
          e.message ++ " | Equation: " ++ String.ofList (Text.quoted text) } := by
  have source : (Note.failed (e.report (some text))).record.source =
      "expression_editor.ExpressionEngine" := by
    show "expression_editor" ++ "." ++ "ExpressionEngine" = _
    decide +kernel
  have known : codeDetail e.code = detail := by rw [codeDetail, means, Option.getD_some]
  have message : (Note.failed (e.report (some text))).record.message =
      "Calculation error " ++ e.code ++ ": " ++ detail ++ " | Details: " ++ e.message ++
        " | Equation: " ++ String.ofList (Text.quoted text) := by
    show String.ofList (("Calculation error " ++ e.code ++ ": " ++ codeDetail e.code ++
      " | Details: " ++ e.message ++ " | Equation: ").toList ++ Text.quoted text) = _
    rw [known, String.ofList_append, String.ofList_toList]
  rw [← source, ← message]
  rfl

/-- Whether an outcome shows an error that arose from a text, and makes one record of it. -/
structure Outcome.Tells (outcome : Outcome) (text : List Char) (e : CalculationError) : Prop where
  records : errorRecords outcome.notes = [(Note.failed (e.report (some text))).record]
  display : outcome.state.display = some (codeDisplay e.code)

namespace State

variable {s : State} {places : Places} {text : List Char}

theorem tells_evaluate {e : CalculationError}
    (stopped : calculate .standard places text = .error e) :
    (s.evaluate places text).Tells text e := by
  rw [evaluate, stopped]
  exact ⟨by simp, rfl⟩

theorem errorRecords_evaluate {result : List Char}
    (calculated : calculate .standard places text = .ok result) :
    errorRecords (s.evaluate places text).notes = [] := by
  rw [evaluate, calculated, errorRecords_readingNotes]

theorem tells_refused (refused : isSafe text = false) :
    (seed places text).Tells text .unsafeInput := by
  have filled : text ≠ [] := by
    rintro rfl
    cases refused
  rw [seed, if_neg filled, refused, if_neg (by decide)]
  exact ⟨errorRecords_failed _, rfl⟩

/-- No action but equals notes anything, and equals notes nothing where an error is shown. -/
theorem notes_apply {action : Action} (other : action ≠ .equals ∨ s.errorState = true) :
    (s.apply places action).notes = [] := by
  have quiet (t : State) (other : action ≠ .equals) : (t.step places action).notes = [] := by
    cases action with
    | equals => exact absurd rfl other
    | digit text | decimal | operator text | clear | backspace => rfl
  unfold apply
  split
  · split
    · rfl
    · rfl
    · rfl
    · rename_i resumes
      exact quiet initial resumes
  · rename_i running
    exact quiet s (other.resolve_right running)

/-- Where nothing is left to evaluate, equals notes nothing. -/
theorem notes_equals (nothing : stripOperators s.buffer = []) : (s.equals places).notes = [] := by
  rw [equals, nothing]

end State

/-! ## What a session answers -/

/-- Whether a reply shows an error that arose from a text, and makes one record of it. -/
structure DeskReply.Tells (reply : DeskReply) (text : List Char) (e : CalculationError) :
    Prop where
  records : errorRecords reply.notes = [(Note.failed (e.report (some text))).record]
  shown : reply.shown = .display (some (codeDisplay e.code))
  display : reply.desk.draft.display = some (codeDisplay e.code)

theorem Draft.display_ofState (s : State) : Draft.display { state := s } = s.display := by
  simp [Draft.display, Draft.buffer?, State.display]

/-- What a reply adds to an outcome, in notes below the level of an error, tells nothing. -/
theorem Outcome.Tells.ofReply {outcome : Outcome} {reply : Reply} {text : List Char}
    {e : CalculationError} (tells : outcome.Tells text e)
    (records : errorRecords reply.notes = errorRecords outcome.notes)
    (state : reply.session.state = outcome.state)
    (display : reply.display = outcome.state.display) : (DeskReply.ofReply reply).Tells text e where
  records := records.trans tells.records
  shown := congrArg Shown.display (display.trans tells.display)
  display := by
    rw [← tells.display, ← state]
    exact Draft.display_ofState _

namespace Session

variable {session : Session} {action : Action} {text : List Char} {e : CalculationError}

/-- A session notes what its state notes, and that the action was applied. -/
theorem errorRecords_apply (session : Session) (action : Action) :
    errorRecords (session.apply action).notes =
      errorRecords (session.state.apply session.places action).notes := by
  simp [apply]

theorem errorRecords_seed (session : Session) (text : List Char) :
    errorRecords (session.seed text).notes =
      errorRecords (State.seed session.places text).notes := by
  simp [seed]

theorem tells_apply (tells : (session.state.apply session.places action).Tells text e) :
    (DeskReply.ofReply (session.apply action)).Tells text e :=
  tells.ofReply (errorRecords_apply session action) rfl rfl

theorem tells_seed {first : List Char}
    (tells : (State.seed session.places first).Tells text e) :
    (DeskReply.ofReply (session.seed first)).Tells text e :=
  tells.ofReply (errorRecords_seed session first) rfl rfl

end Session

/-! ## What a command comes to -/

namespace Desk

/-- How a desk answers a command: as the action that the command stands for, as a first expression,
or without a record of an error. -/
inductive Answered (desk : Desk) : Command → DeskReply → Prop where
  | act {command : Command} {action : Action} :
      command.action? = some action →
      Answered desk command (.ofReply (desk.session.apply action))
  | seed (text : List Char) : Answered desk (.seed text) (.ofReply (desk.session.seed text))
  | quiet {command : Command} {reply : DeskReply} :
      command.action? = none → (∀ text, command ≠ .seed text) →
      errorRecords reply.notes = [] → Answered desk command reply

variable {desk : Desk} {command : Command} {reply : DeskReply}

theorem WellFormed.perform_eq (wellFormed : desk.WellFormed) (action : Action) :
    desk.perform (.ofAction action) = .ok (.ofReply (desk.session.apply action)) := by
  obtain ⟨n, s, -, state, rfl⟩ := wellFormed
  exact perform_ofAction _ s action (Shape.buffer_ne_nil state.shape)

theorem WellFormed.exists_performMapped (wellFormed : desk.WellFormed)
    (stands : ∀ text, command ≠ .seed text) :
    ∃ reply, desk.performMapped command.action? = .ok reply ∧ desk.Answered command reply := by
  cases named : command.action? with
  | none => exact ⟨_, rfl, .quiet named stands rfl⟩
  | some action => exact ⟨_, wellFormed.perform_eq action, .act named⟩

/-- Every regular command is answered. -/
theorem WellFormed.exists_answered (wellFormed : desk.WellFormed) (regular : command.Regular) :
    ∃ reply, desk.run command = .ok reply ∧ desk.Answered command reply := by
  cases regular with
  | @action action checked =>
      refine ⟨_, wellFormed.perform_eq action, .act ?_⟩
      rw [Command.action?, Request.action?, Request.kind?_ofAction]
      cases action <;> rfl
  | digit made =>
      simp only [Desk.run, made]
      exact ⟨_, wellFormed.perform_eq _, .act (by simp only [Command.action?, made]; rfl)⟩
  | operator made =>
      simp only [Desk.run, made]
      exact ⟨_, wellFormed.perform_eq _, .act (by simp only [Command.action?, made]; rfl)⟩
  | key text =>
      obtain ⟨action?, mapped, -⟩ :=
        exists_ofMapped keyAction? (fun _ _ => Action.checked_of_key) text
      have named : (Command.key (.text text)).action? = action? := by
        simp only [Command.action?, mapped]
        rfl
      simp only [Desk.run, mapped, ← named]
      exact wellFormed.exists_performMapped fun _ => Command.noConfusion
  | button text =>
      obtain ⟨action?, mapped, -⟩ :=
        exists_ofMapped buttonAction? (fun _ _ => Action.checked_of_button) text
      have named : (Command.button (.text text)).action? = action? := by
        simp only [Command.action?, mapped]
        rfl
      simp only [Desk.run, mapped, ← named]
      exact wellFormed.exists_performMapped fun _ => Command.noConfusion
  | seed text => exact ⟨_, rfl, .seed text⟩
  | resetIfError =>
      simp only [Desk.run]
      split
      · rename_i error
        have shown : desk.session.state.errorState = true := error
        refine ⟨_, rfl, .quiet rfl (fun _ => Command.noConfusion) ?_⟩
        show errorRecords desk.session.resetIfError.notes = []
        rw [Session.resetIfError, if_pos shown, Session.errorRecords_apply,
          State.notes_apply (.inr shown), errorRecords_nil]
      · exact ⟨_, rfl, .quiet rfl (fun _ => Command.noConfusion) rfl⟩
  | keep most => exact ⟨_, rfl, .quiet rfl (fun _ => Command.noConfusion) rfl⟩

/-! ## Failures and records -/

variable {text : List Char} {e : CalculationError}

/-- A command that fails makes one record, and what is shown is told by the code. -/
theorem Answered.tells (answered : desk.Answered command reply)
    (fails : desk.Fails command text e) : reply.Tells text e := by
  cases fails with
  | equals stands running filled stopped =>
      cases answered with
      | act stands' =>
          cases stands.symm.trans stands'
          apply Session.tells_apply
          show (desk.draft.state.apply desk.places .equals).Tells _ e
          rw [State.apply_equals_of_running running filled]
          exact State.tells_evaluate stopped
      | seed text => cases stands
      | quiet other => cases stands.symm.trans other
  | refused refused =>
      cases answered with
      | act stands => cases stands
      | seed text => exact Session.tells_seed (State.tells_refused refused)
      | quiet other first => exact absurd rfl (first text)
  | seed filled safe stopped =>
      cases answered with
      | act stands => cases stands
      | seed text =>
          apply Session.tells_seed
          rw [State.seed_of_isSafe filled safe]
          exact State.tells_evaluate stopped
      | quiet other first => exact absurd rfl (first text)

/-- Nothing but a failure makes a record of an error. -/
theorem Answered.exists_fails (answered : desk.Answered command reply)
    (recorded : errorRecords reply.notes ≠ []) : ∃ text e, desk.Fails command text e := by
  cases answered with
  | @act command action stands =>
      change errorRecords (desk.session.apply action).notes ≠ [] at recorded
      rw [Session.errorRecords_apply] at recorded
      change errorRecords (desk.draft.state.apply desk.places action).notes ≠ [] at recorded
      have noted : (desk.draft.state.apply desk.places action).notes ≠ [] := by
        intro nothing
        rw [nothing] at recorded
        exact recorded rfl
      have evaluates := mt State.notes_apply noted
      rw [not_or, not_not, Bool.not_eq_true] at evaluates
      obtain ⟨rfl, running⟩ := evaluates
      have filled : stripOperators desk.draft.state.buffer ≠ [] := by
        intro nothing
        rw [State.apply_of_running running] at noted
        exact noted (State.notes_equals nothing)
      rw [State.apply_equals_of_running running filled] at recorded
      cases outcome : calculate .standard desk.places (stripOperators desk.draft.state.buffer) with
      | ok result => exact absurd (State.errorRecords_evaluate outcome) recorded
      | error e => exact ⟨_, e, .equals stands running filled outcome⟩
  | seed text =>
      change errorRecords (desk.session.seed text).notes ≠ [] at recorded
      rw [Session.errorRecords_seed] at recorded
      change errorRecords (State.seed desk.places text).notes ≠ [] at recorded
      have filled : text ≠ [] := by
        rintro rfl
        exact recorded rfl
      cases safe : isSafe text with
      | false => exact ⟨text, _, .refused safe⟩
      | true =>
          rw [State.seed_of_isSafe filled safe] at recorded
          cases outcome : calculate .standard desk.places text with
          | ok result => exact absurd (State.errorRecords_evaluate outcome) recorded
          | error e => exact ⟨text, e, .seed filled safe outcome⟩
  | quiet _ _ quiet => exact absurd quiet recorded

end Desk

/-! ## Codes -/

/-- The codes under which the editor records errors. -/
def recordedCodes : List String := ["1001", "3003", "3008", "3011", "3026", "3027"]

theorem mem_recordedCodes {kind : ErrorKind} {code : String}
    (reported : (kind, code) ∈ reportedAs) : code ∈ recordedCodes := by
  have codes : ∀ report ∈ reportedAs, report.2 ∈ recordedCodes := by decide
  exact codes _ reported

/-- Every code of a record has a meaning of its own. -/
theorem exists_codeDetail {code : String} (known : code ∈ "9999" :: recordedCodes) :
    ∃ detail, codeDetail? code = some detail := by
  have codes : ∀ code ∈ "9999" :: recordedCodes, (codeDetail? code).isSome := by decide
  exact Option.isSome_iff_exists.mp (codes code known)

/-- What is shown for a code. -/
theorem codeDisplay_eq_iff (code : String) :
    (codeDisplay code = "Error: Div by Zero" ↔ code = "3003") ∧
    (codeDisplay code = "Error: Unsafe input" ↔ code = "1001") ∧
    (codeDisplay code = "Error: Invalid Exp" ↔ code ≠ "3003" ∧ code ≠ "1001") := by
  unfold codeDisplay
  split
  · decide
  · decide
  · rename_i notUnsafe notZero
    have notUnsafe : code ≠ "1001" := notUnsafe
    have notZero : code ≠ "3003" := notZero
    simp [notUnsafe, notZero]

namespace Desk

variable {desk : Desk} {text : List Char} {e : CalculationError}

theorem Fails.code {command : Command} (fails : desk.Fails command text e)
    (wellFormed : desk.WellFormed) :
    e.code ∈ recordedCodes ∨ e.code = "9999" ∧ 10 ^ 18 ≤ text.length + 1000001 := by
  obtain ⟨n, s, most, -, rfl⟩ := wellFormed
  have calculated {text : List Char} (stopped : calculate .standard (.whole n) text = .error e) :
      e.code ∈ recordedCodes ∨ e.code = "9999" ∧ 10 ^ 18 ≤ text.length + 1000001 :=
    (fails_of_calculate most stopped).reported.imp_left mem_recordedCodes
  cases fails with
  | equals _ _ _ stopped => exact calculated stopped
  | refused _ => exact .inl (by decide)
  | seed _ _ stopped => exact calculated stopped

/-- Regular commands leave a well-formed desk. -/
theorem WellFormed.foldl_after (wellFormed : desk.WellFormed) {commands : List Command}
    (regular : ∀ command ∈ commands, command.Regular) : (commands.foldl after desk).WellFormed := by
  induction commands generalizing desk with
  | nil => exact wellFormed
  | cons command commands ih =>
      obtain ⟨first, others⟩ := List.forall_mem_cons.mp regular
      obtain ⟨reply, done, next⟩ := wellFormed.run first
      have left : desk.after command = reply.desk := by rw [after, done]
      rw [List.foldl_cons, left]
      exact ih next others

end Desk

/-- After any regular commands, a regular command makes a record of an error exactly if it is an
equals where no error is shown that finds no result, or a first expression that is refused or has no
result. It makes one record then, with the code of that error, the meaning of that very code, and
the text that was to be evaluated, and what is shown afterwards is told by the code. A further code
is left to texts of nearly `10 ^ 18` characters, more than any memory holds. -/
theorem failures_are_recorded_once {earlier : List Command} {command : Command}
    (before : ∀ command ∈ earlier, command.Regular) (regular : command.Regular) :
    let desk := earlier.foldl Desk.after {}
    ∃ reply, desk.run command = .ok reply ∧
      (errorRecords reply.notes ≠ [] ↔ ∃ text e, desk.Fails command text e) ∧
      ∀ text e, desk.Fails command text e →
        (e.code ∈ recordedCodes ∨ e.code = "9999" ∧ 10 ^ 18 ≤ text.length + 1000001) ∧
        (∃ detail, codeDetail? e.code = some detail ∧
          errorRecords reply.notes =
            [{ level := .error
               source := "expression_editor.ExpressionEngine"
               message := "Calculation error " ++ e.code ++ ": " ++ detail ++ " | Details: " ++
                e.message ++ " | Equation: " ++ String.ofList (Text.quoted text) }]) ∧
        ∃ shown, reply.shown = .display (some shown) ∧ reply.desk.draft.display = some shown ∧
          (shown = "Error: Div by Zero" ↔ e.code = "3003") ∧
          (shown = "Error: Unsafe input" ↔ e.code = "1001") ∧
          (shown = "Error: Invalid Exp" ↔ e.code ≠ "3003" ∧ e.code ≠ "1001") := by
  intro desk
  have wellFormed : desk.WellFormed := Desk.wellFormed_initial.foldl_after before
  obtain ⟨reply, done, answered⟩ := wellFormed.exists_answered regular
  refine ⟨reply, done, ⟨answered.exists_fails, ?_⟩, ?_⟩
  · rintro ⟨text, e, fails⟩
    rw [(answered.tells fails).records]
    exact List.cons_ne_nil _ _
  · intro text e fails
    have tells := answered.tells fails
    have code := fails.code wellFormed
    have known : e.code ∈ "9999" :: recordedCodes := by
      rcases code with recorded | ⟨unexpected, -⟩
      · exact .tail _ recorded
      · rw [unexpected]
        exact .head _
    obtain ⟨detail, means⟩ := exists_codeDetail known
    refine ⟨code, ⟨detail, means, ?_⟩, _, tells.shown, tells.display, codeDisplay_eq_iff e.code⟩
    rw [tells.records, record_failed means]

/-- A division by zero with an operator behind it, and then a first expression that is refused while
the error is shown. -/
theorem failures_are_recorded_once_refused :
    let typed := [Command.key (.text "6"), .key (.text "/"), .button (.text "."), .key (.text "+")]
    let equals := Command.key (.text "Enter")
    let refused := Command.seed "2^3".toList
    let message :=
      "Calculation error 3003: Division by Zero | Details: Division by Zero | Equation: '6/0.'"
    (∀ command ∈ typed ++ [equals], command.Regular) ∧ refused.Regular ∧
      (typed.foldl Desk.after {}).Fails equals "6/0.".toList .zeroDivisor ∧
      ((typed ++ [equals]).foldl Desk.after {}).Fails refused "2^3".toList .unsafeInput ∧
      (∃ reply, (typed.foldl Desk.after {}).run equals = .ok reply ∧
        errorRecords reply.notes =
          [⟨.error, "expression_editor.ExpressionEngine", message⟩] ∧
        reply.desk.draft.display = some "Error: Div by Zero") ∧
      ∃ reply, ((typed ++ [equals]).foldl Desk.after {}).run refused = .ok reply ∧
        reply.desk.draft.display = some "Error: Unsafe input" := by
  intro typed equals refused message
  have regular : ∀ command ∈ typed ++ [equals], command.Regular := by
    intro command member
    simp only [typed, equals, List.cons_append, List.nil_append, List.mem_cons, List.not_mem_nil,
      or_false] at member
    rcases member with rfl | rfl | rfl | rfl | rfl
    · exact .key _
    · exact .key _
    · exact .button _
    · exact .key _
    · exact .key _
  have buffer : (typed.foldl Desk.after {}).draft.state.buffer = "6/0.+".toList := by decide +kernel
  have working : stripOperators (typed.foldl Desk.after {}).draft.state.buffer = "6/0.".toList := by
    rw [buffer]
    decide
  have divides : (typed.foldl Desk.after {}).Fails equals "6/0.".toList .zeroDivisor := by
    rw [← working]
    refine .equals (by decide) (by decide +kernel) ?_ ?_
    · rw [working]
      decide
    · rw [working]
      decide +kernel
  have refuses : ((typed ++ [equals]).foldl Desk.after {}).Fails refused "2^3".toList
      .unsafeInput := .refused (by decide)
  obtain ⟨first, done, -, records⟩ := failures_are_recorded_once
    (fun command member => regular command (List.mem_append_left _ member))
    (regular equals (by simp))
  obtain ⟨-, ⟨detail, means, record⟩, shown, -, display, zero, -⟩ := records _ _ divides
  obtain ⟨second, done', -, records'⟩ := failures_are_recorded_once regular (.seed "2^3".toList)
  obtain ⟨-, -, shown', -, display', -, notSafe, -⟩ := records' _ _ refuses
  cases means
  refine ⟨regular, .seed _, divides, refuses, ⟨first, done, ?_, ?_⟩, second, done', ?_⟩
  · rw [record]
    decide +kernel
  · rw [display, zero.mpr (by decide)]
  · rw [display', notSafe.mpr (by decide)]

end Reckoner.Editor
