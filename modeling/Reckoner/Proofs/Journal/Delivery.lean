import Mathlib.Tactic
import Reckoner.Journal.Log

/-!
# Where records are delivered

Setups, changes of the clock and records reach the log in any order. Whether a record matters is
decided by the latest setup before it: one that matters is one line more in each place that setup
writes to, and any other is written nowhere. A setup empties the file it names, and a file that the
latest setup does not name stays as it was then.
-/

namespace Reckoner

open Json (CodePoints Value)

/-- Which files there are only decides why a path leads to none. -/
theorem fileName_of_ok {isFile other : List Char → Bool} {path name : List Char}
    (named : fileName isFile path = .ok name) : fileName other path = .ok name := by
  unfold fileName at named ⊢
  simp only at named ⊢
  split_ifs at named ⊢ with nul
  split at named
  · cases named
  · split_ifs at named ⊢
    exact named

namespace Journal

/-! ## Steps -/

/-- What happens to a log. -/
inductive Step where
  /-- A setup by two values: whether it is for debugging, and the path of its file. -/
  | setup (debug path : Value)
  | clock (clock : Clock)
  | record (record : Record)

/-- Whether a path asks for no file, or for one with a name. -/
inductive AsksFor : Value → Option (List Char) → Prop
  | nothing {path : Value} (unset : path.isSet = false) : AsksFor path none
  | file {points : CodePoints} {path name : List Char} (spelled : points.chars? = some path)
      (filled : path ≠ []) (named : fileName (fun _ => false) path = .ok name) :
      AsksFor (.text points) (some name)

/-- A text that spells a path is set. -/
theorem isSet_text {points : CodePoints} {path : List Char} (spelled : points.chars? = some path)
    (filled : path ≠ []) : (Value.text points).isSet = true := by
  cases points with
  | nil => exact absurd (Option.some.inj spelled).symm filled
  | cons point points => rfl

theorem AsksFor.unique {path : Value} {file other : Option (List Char)} (asks : AsksFor path file)
    (again : AsksFor path other) : file = other := by
  cases asks with
  | nothing unset =>
      cases again with
      | nothing _ => rfl
      | file spelled filled _ => simp [isSet_text spelled filled] at unset
  | file spelled filled named =>
      cases again with
      | nothing unset => simp [isSet_text spelled filled] at unset
      | file spelled' _ named' =>
          obtain rfl := Option.some.inj (spelled.symm.trans spelled')
          rw [Except.ok.inj (named.symm.trans named')]

namespace Step

/-- Whether a step is a setup. -/
def isSetup : Step → Bool
  | .setup _ _ => true
  | _ => false

/-- Whether the file that a setup asks for can be opened. -/
def Opens : Step → Prop
  | .setup _ path => ∃ file, AsksFor path file
  | _ => True

end Step

namespace Log

/-- The log after a step, unless a file cannot be opened. -/
def step (log : Log) : Step → Except FileFault Log
  | .setup debug path => log.startBy debug path
  | .clock clock => .ok { log with clock }
  | .record record => .ok (log.put record)

/-- The log after steps, up to the first fault. -/
def run (log : Log) (steps : List Step) : Except FileFault Log := steps.foldlM step log

theorem run_cons {log next : Log} {step : Step} (stepped : log.step step = .ok next)
    (steps : List Step) : log.run (step :: steps) = next.run steps := by
  rw [run, List.foldlM_cons, stepped]
  rfl

theorem run_append {log next : Log} {before : List Step} (ran : log.run before = .ok next)
    (after : List Step) : log.run (before ++ after) = next.run after := by
  rw [run, List.foldlM_append, show before.foldlM step log = .ok next from ran]
  rfl

theorem startBy_of_asksFor {path : Value} {file : Option (List Char)} (asks : AsksFor path file)
    (log : Log) (debug : Value) :
    log.startBy debug path = .ok (log.follow { debug := debug.isSet, file }) := by
  cases asks with
  | nothing unset =>
      cases path with
      | text points =>
          obtain rfl : points = [] := by simpa [Value.isSet] using unset
          rfl
      | _ => simp only [startBy, unset]; rfl
  | @file points path name spelled filled named =>
      have here : fileName log.isFile path = .ok name := fileName_of_ok named
      obtain ⟨c, cs, rfl⟩ := List.exists_cons_of_ne_nil filled
      simp only [startBy, spelled, start, here]

end Log

/-! ## Records as they arrive -/

/-- The program's sources are the program and those whose names begin with its name and a point. -/
theorem isOwn_iff {source : String} :
    isOwn source = true ↔ source = program ∨ ∃ part, source = program ++ "." ++ part := by
  rw [isOwn, Bool.or_eq_true, decide_eq_true_eq, List.isPrefixOf_iff_prefix]
  refine or_congr_right ⟨?_, ?_⟩
  · rintro ⟨rest, split⟩
    refine ⟨String.ofList rest, String.toList_inj.mp ?_⟩
    rw [String.toList_append, String.toList_ofList, split]
  · rintro ⟨part, rfl⟩
    exact ⟨part.toList, String.toList_append.symm⟩

/-- A record under the latest setup, at the time of the clock. -/
structure Arrival where
  debug : Bool
  clock : Clock
  record : Record

namespace Arrival

/-- Whether a record is the program's or that of a part of it, and matters. -/
def IsDue (a : Arrival) : Prop :=
  (a.record.source = program ∨ ∃ part, a.record.source = program ++ "." ++ part) ∧
    (if a.debug then Level.debug else .info).rank ≤ a.record.level.rank

theorem isDue_iff {a : Arrival} {setup : Setup} (same : setup.debug = a.debug) :
    a.IsDue ↔ setup.writes a.record = true := by
  rw [IsDue, Setup.writes, Bool.and_eq_true, isOwn_iff, decide_eq_true_eq, Setup.level, same]

instance (a : Arrival) : Decidable a.IsDue :=
  decidable_of_iff (({ debug := a.debug } : Setup).writes a.record = true) (isDue_iff rfl).symm

/-- The line of a record that is due, where the time can be told. -/
def line? (a : Arrival) : Option (List Char) :=
  if a.IsDue then ({ debug := a.debug } : Setup).line? a.clock a.record else none

end Arrival

/-- The records of steps, each with what the latest setup is for and with the time. A setup has a
record of its own, and before the first one there is nothing to arrive at. -/
def arrivals (debug? : Option Bool) (clock : Clock) : List Step → List Arrival
  | [] => []
  | .setup debug _ :: steps =>
    ⟨debug.isSet, clock, Log.debugEnabled⟩ :: arrivals (some debug.isSet) clock steps
  | .clock clock :: steps => arrivals debug? clock steps
  | .record record :: steps =>
    debug?.toList.map (⟨·, clock, record⟩) ++ arrivals debug? clock steps

/-- The lines of records, one after the other. -/
def linesOf (arrived : List Arrival) : List Char := (arrived.filterMap Arrival.line?).flatten

theorem linesOf_append (first second : List Arrival) :
    linesOf (first ++ second) = linesOf first ++ linesOf second := by
  simp [linesOf]

theorem linesOf_singleton (a : Arrival) : linesOf [a] = a.line?.getD [] := by
  cases line : a.line? <;> simp [linesOf, line]

/-! ## Places that lines go to -/

/-- A place that lines are written to. -/
inductive Sink where
  | console
  | file (name : List Char)
deriving DecidableEq, Repr

/-- The places that a setup writes to. -/
def Setup.sinks (setup : Setup) : List Sink := .console :: setup.file.toList.map .file

namespace Log

variable {log : Log} {setup : Setup} {record : Record}

/-- Writes a line to one place. -/
def deliver (line : List Char) (log : Log) : Sink → Log
  | .console => { log with console := log.console ++ line }
  | .file name => { log with files := log.files.update name (· ++ line) }

/-- What arrives where a record is put. -/
def arrival (log : Log) (setup : Setup) (record : Record) : Arrival :=
  ⟨setup.debug, log.clock, record⟩

theorem line?_arrival :
    (log.arrival setup record).line? =
      if setup.writes record then setup.line? log.clock record else none :=
  if_congr (Arrival.isDue_iff rfl) rfl rfl

/-- A record that is written is delivered once to each place of the setup. -/
theorem put_of_line (running : log.setup = some setup) {line : List Char}
    (written : (log.arrival setup record).line? = some line) :
    log.put record = setup.sinks.foldl (deliver line) log := by
  rw [line?_arrival] at written
  split_ifs at written with writes
  obtain ⟨setup?, clock, files, others, console⟩ := log
  obtain rfl : setup? = some setup := running
  simp only [put, if_pos writes, written, Setup.sinks]
  cases setup.file <;> rfl

theorem put_of_line?_eq_none (running : log.setup = some setup)
    (none : (log.arrival setup record).line? = none) : log.put record = log := by
  rw [line?_arrival] at none
  unfold put
  rw [running]
  split_ifs at none with writes
  · simp only [if_pos writes, none]
  · exact if_neg writes

theorem put_keeps (running : log.setup = some setup) (record : Record) :
    (log.put record).setup = some setup ∧ (log.put record).clock = log.clock ∧
      (log.put record).console = log.console ++ (log.arrival setup record).line?.getD [] := by
  cases line : (log.arrival setup record).line? with
  | none => simp [put_of_line?_eq_none running line, running]
  | some cs =>
      rw [put_of_line running line, Setup.sinks]
      cases setup.file <;> exact ⟨running, rfl, rfl⟩

theorem follow_keeps (log : Log) (setup : Setup) :
    (log.follow setup).setup = some setup ∧ (log.follow setup).clock = log.clock ∧
      (log.follow setup).console =
        log.console ++ (log.arrival setup debugEnabled).line?.getD [] :=
  put_keeps rfl debugEnabled

/-- The records of steps that come to a log. -/
def upcoming (log : Log) (steps : List Step) : List Arrival :=
  arrivals (log.setup.map Setup.debug) log.clock steps

/-! ## The console -/

/-- A step whose file can be opened is taken, and shows the lines of what it adds to the records of
the steps after it. -/
theorem exists_step {step : Step} (opens : step.Opens) (log : Log) :
    ∃ next arrived, log.step step = .ok next ∧ next.console = log.console ++ linesOf arrived ∧
      ∀ steps, log.upcoming (step :: steps) = arrived ++ next.upcoming steps := by
  cases step with
  | setup debug path =>
      obtain ⟨file, asks⟩ := opens
      let setup : Setup := { debug := debug.isSet, file }
      obtain ⟨running, clock, console⟩ := log.follow_keeps setup
      refine ⟨log.follow setup, [log.arrival setup debugEnabled],
        startBy_of_asksFor asks log debug, ?_, fun steps => ?_⟩
      · rw [console, linesOf_singleton]
      · rw [upcoming, upcoming, running, clock]
        rfl
  | clock clock => exact ⟨{ log with clock }, [], rfl, (List.append_nil _).symm, fun _ => rfl⟩
  | record record =>
      cases running : log.setup with
      | none =>
          have same : log.put record = log := by rw [put, running]
          refine ⟨log, [], congrArg Except.ok same, (List.append_nil _).symm, fun steps => ?_⟩
          rw [upcoming, upcoming, running]
          rfl
      | some setup =>
          obtain ⟨runs, clock, console⟩ := put_keeps running record
          refine ⟨log.put record, [log.arrival setup record], rfl, ?_, fun steps => ?_⟩
          · rw [console, linesOf_singleton]
          · rw [upcoming, upcoming, running, runs, clock]
            rfl

/-- A run whose files can be opened comes to an end, and shows the lines of all its records. -/
theorem exists_run {steps : List Step} (opens : ∀ step ∈ steps, step.Opens) (log : Log) :
    ∃ last, log.run steps = .ok last ∧
      last.console = log.console ++ linesOf (log.upcoming steps) ∧
      ∀ after, log.upcoming (steps ++ after) = log.upcoming steps ++ last.upcoming after := by
  induction steps generalizing log with
  | nil => exact ⟨log, rfl, (List.append_nil _).symm, fun _ => rfl⟩
  | cons step steps ih =>
      rw [List.forall_mem_cons] at opens
      obtain ⟨next, arrived, stepped, shown, split⟩ := exists_step opens.1 log
      obtain ⟨last, ran, console, append⟩ := ih opens.2 next
      refine ⟨last, (run_cons stepped steps).trans ran, ?_, fun after => ?_⟩
      · rw [console, shown, split, linesOf_append, List.append_assoc]
      · rw [List.cons_append, split, split, append, List.append_assoc]

/-! ## The files -/

/-- The log since a setup: the file of the setup holds what the console has shown from then on, and
every other file what it held before. -/
structure Since (earlier : Log) (setup : Setup) (log : Log) : Prop where
  running : log.setup = some setup
  own : ∀ name, setup.file = some name →
    ∃ text, log.files.text? name = some text ∧ log.console = earlier.console ++ text
  others : ∀ name, setup.file ≠ some name → log.files.text? name = earlier.files.text? name

variable {earlier : Log}

theorem Since.put (since : earlier.Since setup log) (record : Record) :
    earlier.Since setup (log.put record) := by
  cases line : (log.arrival setup record).line? with
  | none => rwa [put_of_line?_eq_none since.running line]
  | some cs =>
      rw [put_of_line since.running line, Setup.sinks]
      cases file : setup.file with
      | none =>
          refine ⟨since.running, fun name named => ?_, since.others⟩
          rw [file] at named
          cases named
      | some own =>
          refine ⟨since.running, fun name named => ?_, fun name other => ?_⟩
          · obtain rfl : own = name := Option.some.inj (file.symm.trans named)
            obtain ⟨text, holds, console⟩ := since.own own file
            refine ⟨text ++ cs, ?_, ?_⟩
            · show (log.files.update own (· ++ cs)).text? own = _
              rw [Files.text?_update, if_pos rfl, holds]
              rfl
            · show log.console ++ cs = _
              rw [console, List.append_assoc]
          · show (log.files.update own (· ++ cs)).text? name = _
            have differs : own ≠ name := fun same => other (file.trans (congrArg some same))
            rw [Files.text?_update, if_neg differs, since.others name other]

/-- A setup begins with an empty file. -/
theorem since_follow (earlier : Log) (setup : Setup) :
    earlier.Since setup (earlier.follow setup) := by
  simp only [follow]
  refine Since.put ?_ debugEnabled
  refine ⟨rfl, fun name named => ⟨[], ?_, (List.append_nil _).symm⟩, fun name other => ?_⟩
  · simp only [named, Files.text?_update, if_true]
  · cases file : setup.file with
    | none => rfl
    | some own =>
        have differs : own ≠ name := fun same => other (file.trans (congrArg some same))
        simp only [Files.text?_update, if_neg differs]

theorem Since.step {step : Step} (quiet : step.isSetup = false) (since : earlier.Since setup log)
    {next : Log} (stepped : log.step step = .ok next) : earlier.Since setup next := by
  cases step with
  | setup debug path => cases quiet
  | clock clock =>
      cases stepped
      exact ⟨since.running, since.own, since.others⟩
  | record record =>
      cases stepped
      exact since.put record

theorem Since.run {steps : List Step} (quiet : ∀ step ∈ steps, step.isSetup = false)
    (since : earlier.Since setup log) {last : Log} (ran : log.run steps = .ok last) :
    earlier.Since setup last := by
  induction steps generalizing log with
  | nil =>
      cases ran
      exact since
  | cons step steps ih =>
      rw [List.forall_mem_cons] at quiet
      cases stepped : log.step step with
      | error fault =>
          rw [Log.run, List.foldlM_cons, stepped] at ran
          cases ran
      | ok next =>
          rw [run_cons stepped] at ran
          exact ih quiet.2 (since.step quiet.1 stepped) ran

end Log

/-! ## Delivery -/

end Journal
end Reckoner
