import Mathlib.Tactic
import Reckoner.Launch.Program
import Reckoner.Proofs.Editor.Seed
import Reckoner.Proofs.Journal.Delivery

/-!
# The first expression

A first expression is the word after the name of its option. Some texts that are safe to evaluate
begin with a minus and look like options of their own, so that the option before them lacks its
value: all but a lone minus and the negative numerals. Every other safe text reaches the editor, and
after an equals sign these do too, but for the mark after which there are no options.
-/

namespace Reckoner.Launch

open Editor Settings

/-! ## Safe words -/

/-- Whether a text is a minus and a numeral that does not end in its point. -/
inductive IsNegativeNumeral : List Char → Prop
  | whole {digits : List Char} (filled : digits ≠ [])
      (plain : ∀ c ∈ digits, Text.isPlainDigit c = true) : IsNegativeNumeral ('-' :: digits)
  | fraction {whole digits : List Char} (plainWhole : ∀ c ∈ whole, Text.isPlainDigit c = true)
      (filled : digits ≠ []) (plain : ∀ c ∈ digits, Text.isPlainDigit c = true) :
      IsNegativeNumeral ('-' :: (whole ++ '.' :: digits))

/-- Whether a safe text is a value where it is a word of its own. -/
def IsValueWord (word : List Char) : Prop :=
  word.head? ≠ some '-' ∨ word = ['-'] ∨ IsNegativeNumeral word

theorem notMem_of_isSafe {cs : List Char} (safe : isSafe cs = true) {c : Char}
    (other : isSafe [c] = false) : c ∉ cs := by
  intro member
  have allowed : isSafe [c] = true :=
    List.all_eq_true.mpr (List.forall_mem_singleton.mpr (List.all_eq_true.mp safe c member))
  rw [allowed] at other
  cases other

/-- Of the safe characters only the ten plain ones are digits of a script. -/
theorem isPlainDigit_of_isSafe {cs : List Char} (safe : isSafe cs = true) {c : Char}
    (member : c ∈ cs) (digit : Text.isDigit c = true) : Text.isPlainDigit c = true := by
  have allowed := List.all_eq_true.mp safe c member
  simp only [Bool.or_eq_true, beq_iff_eq] at allowed
  obtain (plain | rfl) | symbol := allowed
  · exact plain
  · revert digit
    decide
  · obtain ⟨op, rfl⟩ := exists_symbol_of_isSymbol symbol
    revert digit
    cases op <;> decide

/-- A safe word has no line end to pass over: after its minus there are digits, or digits and a
point and more digits. -/
theorem isNegativeNumber_minus_iff {cs : List Char} (safe : isSafe ('-' :: cs) = true) :
    isNegativeNumber ('-' :: cs) = true ↔
      cs.dropWhile Text.isDigit = [] ∧ cs ≠ [] ∨
        ∃ fraction, cs.dropWhile Text.isDigit = '.' :: fraction ∧ fraction ≠ [] ∧
          ∀ c ∈ fraction, Text.isDigit c = true := by
  have noBreak : cs.getLast? ≠ some '\n' := fun last =>
    notMem_of_isSafe safe (c := '\n') (by decide)
      (List.mem_cons_of_mem _ (List.mem_of_getLast? last))
  rw [isNegativeNumber, if_neg noBreak]
  generalize cs.dropWhile Text.isDigit = rest
  split
  · simp
  · simp
  · rename_i some other
    constructor
    · intro number
      cases number
    · rintro (⟨none, -⟩ | ⟨fraction, point, -⟩)
      · exact absurd none some
      · exact absurd point (other fraction)

theorem isNegativeNumber_iff {word : List Char} (safe : isSafe word = true) :
    isNegativeNumber word = true ↔ IsNegativeNumeral word := by
  constructor
  · intro number
    obtain ⟨cs, rfl⟩ : ∃ cs, word = '-' :: cs := by
      unfold isNegativeNumber at number
      split at number
      · exact ⟨_, rfl⟩
      · cases number
    have plain {digits : List Char} (within : digits ⊆ cs)
        (all : ∀ c ∈ digits, Text.isDigit c = true) : ∀ c ∈ digits, Text.isPlainDigit c = true :=
      fun c member =>
        isPlainDigit_of_isSafe safe (List.mem_cons_of_mem _ (within member)) (all c member)
    obtain ⟨none, filled⟩ | ⟨fraction, point, filled, all⟩ :=
      (isNegativeNumber_minus_iff safe).mp number
    · exact .whole filled (plain (List.Subset.refl cs) (List.dropWhile_eq_nil_iff.mp none))
    · have split : cs = cs.takeWhile Text.isDigit ++ '.' :: fraction := by
        rw [← point, List.takeWhile_append_dropWhile]
      have within : fraction ⊆ cs := by
        rw [split]
        exact List.subset_append_of_subset_right _ (List.subset_cons_self _ _)
      rw [split]
      exact .fraction (plain (List.takeWhile_subset _) fun c => List.mem_takeWhile_imp) filled
        (plain within all)
  · intro numeral
    cases numeral with
    | whole filled plain =>
        refine (isNegativeNumber_minus_iff safe).mpr (.inl ⟨?_, filled⟩)
        exact List.dropWhile_eq_nil_iff.mpr fun c member =>
          Numeral.isDigit_of_plain (plain c member)
    | fraction plainWhole filled plain =>
        refine (isNegativeNumber_minus_iff safe).mpr (.inr ⟨_, ?_, filled, fun c member =>
          Numeral.isDigit_of_plain (plain c member)⟩)
        rw [List.dropWhile_append_of_pos fun c member =>
          Numeral.isDigit_of_plain (plainWhole c member)]
        exact List.dropWhile_cons_of_neg (by decide)

/-! ## What a word is -/

theorem unnamed_of_isSafe {word : List Char} (safe : isSafe word = true) :
    unnamed word = if isNegativeNumber word then .plain else .foreign := by
  have noBlank : ' ' ∉ word := notMem_of_isSafe safe (by decide)
  simp [unnamed, noBlank]

/-- A safe word does not begin a name whose third character is not safe. -/
theorem isPrefixOf_of_isSafe {c : Char} {cs : List Char} {letter : Char}
    (safe : isSafe ('-' :: '-' :: c :: cs) = true) {name : List Char}
    (third : name[2]? = some letter) (other : isSafe [letter] = false) :
    ('-' :: '-' :: c :: cs).isPrefixOf name = false := by
  have differs : c ≠ letter := by
    rintro rfl
    exact notMem_of_isSafe safe other (by simp)
  match name, third with
  | _ :: _ :: _ :: _, third => simp_all [List.isPrefixOf]

theorem readLong_of_isSafe {c : Char} {cs : List Char}
    (safe : isSafe ('-' :: '-' :: c :: cs) = true) (value : Option (List Char)) :
    readLong ('-' :: '-' :: c :: cs) ('-' :: '-' :: c :: cs) value =
      .ok (unnamed ('-' :: '-' :: c :: cs)) := by
  have help : ('-' :: '-' :: c :: cs).isPrefixOf helpName = false :=
    isPrefixOf_of_isSafe safe rfl (by decide)
  have setting (setting : Setting) : ('-' :: '-' :: c :: cs).isPrefixOf setting.name = false := by
    cases setting <;> exact isPrefixOf_of_isSafe safe rfl (by decide)
  simp only [readLong, help, List.filter_cons, setting, List.filter_nil]
  rfl

/-- A safe word with a minus in front that is not alone is no option that exists. -/
theorem readWord_minus {c : Char} {cs : List Char} (safe : isSafe ('-' :: c :: cs) = true)
    (other : '-' :: c :: cs ≠ optionsEnd) :
    readWord ('-' :: c :: cs) = .ok (unnamed ('-' :: c :: cs)) := by
  have whole : ('-' :: c :: cs).dropWhile (· ≠ '=') = [] := by
    refine List.dropWhile_eq_nil_iff.mpr fun d member => ?_
    have noEquals : d ≠ '=' := by
      rintro rfl
      exact notMem_of_isSafe safe (by decide) member
    simpa using noEquals
  have noHelp : c ≠ 'h' := by
    rintro rfl
    exact notMem_of_isSafe safe (c := 'h') (by decide) (by simp)
  by_cases long : c = '-'
  · subst long
    cases cs with
    | nil => exact absurd rfl other
    | cons d ds =>
        rw [readWord, whole]
        exact readLong_of_isSafe safe none
  · simp [readWord, noHelp]

theorem isValueWord_minus_iff {c : Char} {cs : List Char} :
    IsValueWord ('-' :: c :: cs) ↔ IsNegativeNumeral ('-' :: c :: cs) := by
  simp [IsValueWord]

/-- A safe word is read as a value exactly where it is one. -/
theorem readWord_of_isSafe {word : List Char} (safe : isSafe word = true)
    (other : word ≠ optionsEnd) :
    IsValueWord word ∧ readWord word = .ok .plain ∨
      ¬IsValueWord word ∧ readWord word = .ok .foreign := by
  cases word with
  | nil => exact .inl ⟨.inl (by simp), rfl⟩
  | cons c cs =>
      by_cases minus : c = '-'
      · subst minus
        cases cs with
        | nil => exact .inl ⟨.inr (.inl rfl), rfl⟩
        | cons c cs =>
            rw [readWord_minus safe other, unnamed_of_isSafe safe, isValueWord_minus_iff,
              ← isNegativeNumber_iff safe]
            cases isNegativeNumber ('-' :: c :: cs) with
            | true => exact .inl ⟨rfl, rfl⟩
            | false => exact .inr ⟨Bool.false_ne_true, rfl⟩
      · exact .inl ⟨.inl (by simpa using minus), by simp [readWord, minus]⟩

theorem not_isValueWord_optionsEnd : ¬IsValueWord optionsEnd := by
  intro value
  have number := (isNegativeNumber_iff (by decide)).mpr (isValueWord_minus_iff.mp value)
  revert number
  decide

/-! ## The command line -/

/-- The mark after which there are no options is no value either. -/
theorem readWords_of_isSafe {word : List Char} (safe : isSafe word = true) :
    IsValueWord word ∧ readWords [word] = .ok [(word, .plain)] ∨
      ¬IsValueWord word ∧ readWords [word] = .ok [(word, .foreign)] := by
  by_cases mark : word = optionsEnd
  · subst mark
    exact .inr ⟨not_isValueWord_optionsEnd, rfl⟩
  · obtain ⟨value, read⟩ | ⟨notValue, read⟩ := readWord_of_isSafe safe mark
    · exact .inl ⟨value, by simp only [readWords, if_neg mark, read]; rfl⟩
    · exact .inr ⟨notValue, by simp only [readWords, if_neg mark, read]; rfl⟩

theorem readCommandLine_name {words : List (List Char)} {read : List (List Char × Word)}
    (rest : readWords words = .ok read) :
    readCommandLine (Setting.initialCalc.name :: words) =
      collect {} [] ((Setting.initialCalc.name, .setting .initialCalc none) :: read) := by
  have name : readWord Setting.initialCalc.name = .ok (.setting .initialCalc none) := rfl
  rw [readCommandLine, readWords, if_neg (by decide), name, rest]
  rfl

/-- The value of the option is the safe word after its name, or it is missing. -/
theorem readCommandLine_of_isSafe {word : List Char} (safe : isSafe word = true) :
    IsValueWord word ∧ readCommandLine [Setting.initialCalc.name, word] =
        .ok (.start { initialCalc := some (.text word) }) ∨
      ¬IsValueWord word ∧ readCommandLine [Setting.initialCalc.name, word] =
        .error (.missingValue .initialCalc) := by
  obtain ⟨value, read⟩ | ⟨notValue, read⟩ := readWords_of_isSafe safe
  · refine .inl ⟨value, ?_⟩
    have text : Argument.ofValue word = .text word := by
      apply if_neg
      rintro rfl
      exact not_isValueWord_optionsEnd value
    rw [readCommandLine_name read, ← text]
    rfl
  · refine .inr ⟨notValue, ?_⟩
    rw [readCommandLine_name read]
    rfl

/-! ## The start -/

/-- A log without a file leaves the settings where they are. -/
theorem storeBeside_of_console {others : List (List Char)} {setup : Journal.Setup}
    {log : Journal.Log} (since : Journal.Log.Since { others } setup log)
    (console : setup.file = none) (store : Store) : storeBeside log store = store := by
  have none : log.files.text? settingsFile = none := since.others _ (by rw [console]; simp)
  rw [storeBeside, none]

/-- The window of a start, where nothing stops it. -/
theorem exists_start (options : Options) {store : Store} {settings : Settings} {log : Journal.Log}
    {window : Window} (loaded : store.load = .ok settings)
    (started : Journal.Log.start { others := store.names } (settings.get debugKey).isSet
      (options.logFile.bind Argument.text?) = .ok log)
    (opened : Window.openFrom (storeBeside (log.put (settingsRecord settings)) store) =
      .ok window) :
    ∃ launched, start options store = .ok launched ∧ launched.code = 0 ∧
      launched.window =
        some (openWindow window (options.initialCalc.bind Argument.text?)).window := by
  simp only [start, loaded, started, opened]
  exact ⟨_, rfl, rfl, rfl⟩

/-- Where settings can be loaded, a first expression is evaluated with the places that are set, and
the window shows what comes of it. -/
theorem exists_start_text {store : Store} {settings : Settings} (loaded : store.load = .ok settings)
    {text : List Char} (filled : text ≠ []) :
    ∃ launched w, start { initialCalc := some (.text text) } store = .ok launched ∧
      launched.code = 0 ∧ launched.window = some w ∧
      w.session.places = .ofValue (settings.get placesKey) ∧
      w.session.state = (State.seed w.session.places text).state ∧
      w.display = w.session.display := by
  let setup : Journal.Setup := { debug := (settings.get debugKey).isSet }
  let log : Journal.Log := { others := store.names }
  have since : log.Since setup ((log.follow setup).put (settingsRecord settings)) :=
    (Journal.Log.since_follow log setup).put _
  have opened : Window.openFrom (storeBeside ((log.follow setup).put (settingsRecord settings))
      store) = .ok (.ofSettings settings store) := by
    rw [storeBeside_of_console since rfl, Window.openFrom, loaded]
  obtain ⟨launched, ran, code, window⟩ :=
    exists_start { initialCalc := some (.text text) } loaded rfl opened
  obtain ⟨c, cs, rfl⟩ := List.exists_cons_of_ne_nil filled
  refine ⟨launched, ((Window.ofSettings settings store).seed (c :: cs)).window, ran, code,
    window, ?_⟩
  unfold Window.seed
  split <;> exact ⟨rfl, rfl, rfl⟩

/-- Whether a start opens a window that shows what comes of evaluating a first expression with ten
places. -/
def IsEvaluated (text : List Char) (outcome : Except Failure Launched) : Prop :=
  ∃ launched w, outcome = .ok launched ∧ launched.code = 0 ∧ launched.window = some w ∧
    w.session.state = (State.seed (.whole 10) text).state ∧
    w.display = (State.seed (.whole 10) text).state.display

theorem isEvaluated_start {text : List Char} (filled : text ≠ []) :
    IsEvaluated text (start { initialCalc := some (.text text) } .absent) := by
  have loaded : Store.absent.load = .ok standard := rfl
  obtain ⟨launched, w, started, code, window, places, state, display⟩ :=
    exists_start_text loaded filled
  have ten : w.session.places = .whole 10 := places
  rw [ten] at state
  exact ⟨launched, w, started, code, window, state, by rw [display, Session.display, state]⟩

/-- Without a settings file, a safe first expression that is a value where it is a word of its own
reaches the editor. Every other safe text is taken for an option, and the program stops as if there
were no value. -/
theorem first_expression_is_evaluated {text : List Char} (filled : text ≠ [])
    (safe : isSafe text = true) :
    (IsValueWord text → IsEvaluated text (run [Setting.initialCalc.name, text] .absent)) ∧
    (¬IsValueWord text → run [Setting.initialCalc.name, text] .absent = .ok
      { code := 2, stderr := complaint programName (.missingValue .initialCalc) }) := by
  obtain ⟨value, read⟩ | ⟨notValue, read⟩ := readCommandLine_of_isSafe safe
  · refine ⟨fun _ => ?_, fun notValue => absurd value notValue⟩
    rw [run, runAs, read]
    exact isEvaluated_start filled
  · refine ⟨fun value => absurd value notValue, fun _ => ?_⟩
    rw [run, runAs, read]

/-- A negative numeral begins like an option and is shown without its last zero. -/
theorem first_expression_is_evaluated_negative :
    let text := "-2.50".toList
    text ≠ [] ∧ isSafe text = true ∧ ∃ launched w,
      run [Setting.initialCalc.name, text] .absent = .ok launched ∧ launched.window = some w ∧
      w.display = some "-2.5" := by
  intro text
  have numeral : IsNegativeNumeral ('-' :: (['2'] ++ '.' :: ['5', '0'])) :=
    .fraction (List.all_eq_true.mp rfl) (List.cons_ne_nil _ _) (List.all_eq_true.mp rfl)
  have filled : text ≠ [] := by decide +kernel
  have safe : isSafe text = true := by decide +kernel
  have shown : (State.seed (.whole 10) text).state.display = some "-2.5" := by decide +kernel
  obtain ⟨launched, w, ran, -, window, -, display⟩ :=
    (first_expression_is_evaluated filled safe).1 (.inr (.inr numeral))
  exact ⟨filled, safe, launched, w, ran, window, display.trans shown⟩

/-- A safe text with a value that the editor would show, and no window opens. -/
theorem first_expression_is_refused :
    let text := "-5+3".toList
    isSafe text = true ∧ (State.seed (.whole 10) text).state.display = some "-2" ∧
      ¬IsEvaluated text (run [Setting.initialCalc.name, text] .absent) := by
  intro text
  have read : readCommandLine [Setting.initialCalc.name, text] =
      .error (.missingValue .initialCalc) := by decide
  refine ⟨by decide, by decide +kernel, ?_⟩
  rintro ⟨launched, w, ran, code, -⟩
  rw [run, runAs, read] at ran
  cases ran
  cases code

theorem readWord_long {rest value : List Char} {c : Char}
    (drop : ('-' :: '-' :: rest).dropWhile (· ≠ '=') = c :: value) :
    readWord ('-' :: '-' :: rest) =
      readLong ('-' :: '-' :: rest) (('-' :: '-' :: rest).takeWhile (· ≠ '=')) (some value) := by
  rw [readWord, drop]

/-- A long name is told from its value by the equals sign between them. -/
theorem readWord_joined (value : List Char) :
    readWord (Setting.initialCalc.name ++ '=' :: value) =
      .ok (.setting .initialCalc (some value)) := by
  have before : ∀ c ∈ Setting.initialCalc.name, decide (c ≠ '=') = true :=
    List.all_eq_true.mp (by decide)
  have drop : (Setting.initialCalc.name ++ '=' :: value).dropWhile (· ≠ '=') = '=' :: value := by
    rw [List.dropWhile_append_of_pos before]
    exact List.dropWhile_cons_of_neg (by simp)
  have take : (Setting.initialCalc.name ++ '=' :: value).takeWhile (· ≠ '=') =
      Setting.initialCalc.name := by
    rw [List.takeWhile_append_of_pos before, List.takeWhile_cons_of_neg (by simp),
      List.append_nil]
  have settings : [Setting.initialCalc, .logFile].filter
      (Setting.initialCalc.name.isPrefixOf ·.name) = [.initialCalc] := by decide
  have help : Setting.initialCalc.name.isPrefixOf helpName = false := by decide
  have hyphens : Setting.initialCalc.name ++ '=' :: value =
      '-' :: '-' :: ("initial-calc".toList ++ '=' :: value) := rfl
  rw [hyphens] at drop take ⊢
  rw [readWord_long drop, take, readLong]
  simp only [help, settings]

/-- After an equals sign any text reaches the editor, but the mark after which there are no
options. -/
theorem joined_first_expression_is_evaluated {text : List Char} (filled : text ≠ [])
    (other : text ≠ optionsEnd) :
    IsEvaluated text (run [Setting.initialCalc.name ++ '=' :: text] .absent) := by
  have option : Setting.initialCalc.name ++ '=' :: text ≠ optionsEnd := by
    intro same
    have member : '=' ∈ optionsEnd := same ▸ List.mem_append_right _ (List.mem_cons_self ..)
    revert member
    decide
  have wish : readCommandLine [Setting.initialCalc.name ++ '=' :: text] =
      .ok (.start { initialCalc := some (.ofValue text) }) := by
    rw [readCommandLine, readWords, if_neg option, readWord_joined]
    rfl
  rw [run, runAs, wish, Argument.ofValue, if_neg other]
  exact isEvaluated_start filled

end Reckoner.Launch
