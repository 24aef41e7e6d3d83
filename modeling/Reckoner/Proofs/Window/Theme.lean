import Mathlib.Tactic
import Reckoner.Proofs.Settings.Reload
import Reckoner.Proofs.Window.React

/-!
# The theme and its setting

A window is dark exactly when its theme is set, and what its settings hold is what their file holds.
No event but a change of the theme touches either; a change gives the theme the other truth value
and leaves all other settings. So a window that is opened later comes up as the last one was left.
-/

namespace Reckoner

open Editor Settings
open Json (CodePoints Value Document)

/-! ## Settings that a file can hold -/

namespace Settings

theorem loadedFields_append_singleton (members : List (CodePoints × Document))
    (member : CodePoints × Document) :
    loadedFields (members ++ [member]) =
      Json.putField (loadedFields members) member.1 member.2.value := by
  rw [loadedFields, Document.fieldValues_eq_map, List.map_append, Json.putFields_append,
    ← Document.fieldValues_eq_map, ← loadedFields]
  rfl

/-- A truth value is put as if the record had it for its last member. -/
theorem IsStorable.put_bool {settings : Settings} (storable : settings.IsStorable)
    {name : CodePoints} (joined : name.IsJoined) (b : Bool) :
    (settings.put (.text name) (.bool b)).IsStorable := by
  obtain ⟨members, floatFree, short, others, rfl⟩ := storable
  have noText : Json.AreJoined (Document.bool b).lexemes :=
    (Json.areJoined_cons_iff (by simp)).mpr Json.areJoined_nil
  refine ⟨members ++ [(name, .bool b)], ?_, ?_, ?_, ?_⟩
  · exact List.forall_mem_append.mpr ⟨floatFree, List.forall_mem_singleton.mpr (.bool b)⟩
  · exact List.forall_mem_append.mpr ⟨short, List.forall_mem_singleton.mpr rfl⟩
  · exact List.forall_mem_append.mpr ⟨others, List.forall_mem_singleton.mpr ⟨joined, noText⟩⟩
  · rw [put_ofFields, loadedFields_append_singleton]
    rfl

/-- With another theme settings can still be stored. -/
theorem IsStorable.put_dark {settings : Settings} (storable : settings.IsStorable) (b : Bool) :
    (settings.put darkKey (.bool b)).IsStorable :=
  storable.put_bool (Json.isJoined_ofString "darkmode") b

end Settings

namespace Window

/-! ## Events that leave the theme -/

/-- Whether an event changes the theme. -/
def Event.changesTheme : Event → Bool
  | .release button => button == themeLabel
  | _ => false

/-- How often events change the theme. -/
def themeChanges (events : List Event) : ℕ := events.countP Event.changesTheme

/-- Whether a window has kept the settings, their file and what it made of them. -/
structure Keeps (w' w : Window) : Prop where
  settings : w'.settings = w.settings
  store : w'.store = w.store
  dark : w'.dark = w.dark
  places : w'.session.places = w.session.places

variable {w w' : Window}

theorem Keeps.refl (w : Window) : w.Keeps w := ⟨rfl, rfl, rfl, rfl⟩

theorem Keeps.trans {w'' : Window} (first : w''.Keeps w') (second : w'.Keeps w) : w''.Keeps w where
  settings := first.settings.trans second.settings
  store := first.store.trans second.store
  dark := first.dark.trans second.dark
  places := first.places.trans second.places

theorem keeps_act (w : Window) (action : Action) : (w.act action).window.Keeps w :=
  ⟨rfl, rfl, rfl, rfl⟩

theorem keeps_pushLabel (w : Window) (label : List Char) : (w.pushLabel label).window.Keeps w := by
  unfold pushLabel
  split
  · exact keeps_act w _
  · exact .refl w

theorem keeps_clearError (w : Window) : w.clearError.window.Keeps w := by
  refine ⟨rfl, rfl, rfl, ?_⟩
  show w.session.resetIfError.session.places = w.session.places
  unfold Session.resetIfError
  split <;> rfl

theorem keeps_seed (w : Window) (text : List Char) : (w.seed text).window.Keeps w := by
  unfold seed
  split <;> exact ⟨rfl, rfl, rfl, rfl⟩

theorem role?_eq_theme_iff {label : Char} : role? label = some .theme ↔ label = themeLabel := by
  constructor
  · intro theme
    unfold role? at theme
    split at theme
    · cases theme
    · split at theme
      · assumption
      · split_ifs at theme <;> cases theme
  · rintro rfl
    rfl

theorem keeps_release {label : Char} (other : label ≠ themeLabel) :
    (w.release label).window.Keeps w := by
  unfold release
  split
  · exact ⟨rfl, rfl, rfl, rfl⟩
  · rename_i theme
    exact absurd (role?_eq_theme_iff.mp theme) other
  · simp only
    split
    · exact ⟨rfl, rfl, rfl, rfl⟩
    · exact (keeps_pushLabel _ _).trans ⟨rfl, rfl, rfl, rfl⟩
  · exact keeps_pushLabel w _
  · exact .refl w

/-- An event that does not change the theme keeps the settings and their file. -/
theorem keeps_react (w : Window) {event : Event} (other : event.changesTheme = false) :
    (w.react event).window.Keeps w := by
  unfold react
  split
  · exact .refl w
  · cases event with
    | press label =>
        show (w.press label).Keeps w
        unfold press
        split <;> exact ⟨rfl, rfl, rfl, rfl⟩
    | release label => exact keeps_release (by simpa [Event.changesTheme] using other)
    | tick =>
        simp only [hold]
        split
        · exact (keeps_pushLabel _ _).trans ⟨rfl, rfl, rfl, rfl⟩
        · exact ⟨rfl, rfl, rfl, rfl⟩
    | timeout => exact (keeps_clearError _).trans ⟨rfl, rfl, rfl, rfl⟩
    | lateTimeout => exact keeps_clearError w
    | key name text =>
        simp only [typeKey]
        split
        · exact keeps_act w _
        · exact ⟨rfl, rfl, rfl, rfl⟩
    | copy => exact ⟨rfl, rfl, rfl, rfl⟩
    | label text => exact keeps_pushLabel w text
    | seed text => exact keeps_seed w text

/-! ## The theme after any events -/

/-- What holds of a window after events that change the theme `changes` times, `start` being the
window before them. -/
structure Themed (start : Window) (changes : ℕ) (w : Window) : Prop where
  style : w.dark = (w.settings.get darkKey).isSet
  turns : w.dark = (start.dark ^^ decide (Odd changes))
  others : ∀ key, identity? darkKey ≠ identity? key →
    w.settings.get? key = start.settings.get? key
  places : w.session.places = .ofValue (w.settings.get placesKey)
  untouched : changes = 0 → w.store = start.store ∧ w.settings = start.settings
  touched : changes ≠ 0 → w.settings.get? darkKey = some (.bool w.dark)
  storable : w.settings.IsStorable
  writable : w.store.IsWritable
  stored : w.store.load = .ok w.settings

variable {start : Window} {changes : ℕ}

theorem Themed.keeps (themed : start.Themed changes w) (keeps : w'.Keeps w) :
    start.Themed changes w' where
  style := by rw [keeps.dark, keeps.settings, themed.style]
  turns := by rw [keeps.dark, themed.turns]
  others := by rw [keeps.settings]; exact themed.others
  places := by rw [keeps.places, keeps.settings, themed.places]
  untouched := by rw [keeps.store, keeps.settings]; exact themed.untouched
  touched := by rw [keeps.settings, keeps.dark]; exact themed.touched
  storable := keeps.settings ▸ themed.storable
  writable := keeps.store ▸ themed.writable
  stored := by rw [keeps.store, keeps.settings, themed.stored]

/-- The theme has the value that it was given last. -/
theorem get?_put_dark (settings : Settings) (b : Bool) :
    (settings.put darkKey (.bool b)).get? darkKey = some (.bool b) := by
  rw [get?_put, if_pos rfl]

theorem Themed.toggleTheme (themed : start.Themed changes w) :
    start.Themed (changes + 1) w.toggleTheme where
  style := by
    show _ = ((w.settings.put darkKey _).get darkKey).isSet
    rw [Settings.get, get?_put_dark]
    rfl
  turns := by
    show (!(w.settings.get darkKey).isSet) = _
    have odd : decide (Odd (changes + 1)) = !decide (Odd changes) := by
      rw [← decide_not]
      exact decide_eq_decide.mpr Nat.odd_add_one
    rw [← themed.style, themed.turns, odd, Bool.xor_not]
  others := by
    intro key other
    show (w.settings.put darkKey _).get? key = _
    rw [get?_put, if_neg other, themed.others key other]
  places := by
    show w.session.places = .ofValue ((w.settings.put darkKey _).get placesKey)
    rw [get_put_dark _ _ (by decide), themed.places]
  untouched := by
    intro none
    cases none
  touched := fun _ => get?_put_dark _ _
  storable := themed.storable.put_dark _
  writable := themed.writable.save _
  stored := (themed.storable.put_dark _).load_save themed.writable

theorem Themed.react (themed : start.Themed changes w) (event : Event) :
    start.Themed (changes + if event.changesTheme then 1 else 0) (w.react event).window := by
  cases theme : event.changesTheme with
  | false => exact themed.keeps (keeps_react w theme)
  | true =>
      obtain ⟨label, rfl⟩ : ∃ label, event = .release label := by
        cases event with
        | release label => exact ⟨label, rfl⟩
        | _ => cases theme
      obtain rfl : label = themeLabel := by simpa [Event.changesTheme] using theme
      exact themed.toggleTheme

theorem Themed.run (themed : start.Themed 0 start) (events : List Event) :
    start.Themed (themeChanges events) (start.run events) := by
  induction events using List.reverseRecOn with
  | nil => exact themed
  | append_singleton events event ih =>
      have step := ih.react event
      rw [run_append, themeChanges, List.countP_append, List.countP_singleton]
      exact step

theorem themed_of_openFrom {store : Store} {members : List (CodePoints × Document)}
    (holds : store.Holds members) (floatFree : ∀ member ∈ members, member.2.IsFloatFree)
    (writable : store.IsWritable) (opened : openFrom store = .ok w) :
    w.store = store ∧ w.Themed 0 w := by
  unfold openFrom at opened
  split at opened
  · cases opened
  · rename_i settings loaded
    cases opened
    exact ⟨rfl,
      { style := rfl
        turns := by simp
        others := fun _ _ => rfl
        places := rfl
        untouched := fun _ => ⟨rfl, rfl⟩
        touched := fun some => absurd rfl some
        storable := isStorable_of_load holds floatFree loaded
        writable
        stored := loaded }⟩

/-- After any events in a window whose settings come from no file or from a record without binary64
numbers, where a file can be written, the window is dark exactly when its theme is set; each change
of the theme has turned it, and no other setting is another. The file is the one from before until
the theme is changed; from then on the theme is a truth value, and what is loaded are the settings
of the window. So a window opened anew has the same settings, the same theme and the same places. -/
theorem theme_is_kept {store : Store} {members : List (CodePoints × Document)}
    (holds : store.Holds members) (floatFree : ∀ member ∈ members, member.2.IsFloatFree)
    (writable : store.IsWritable) (opened : openFrom store = .ok w) (events : List Event) :
    let last := w.run events
    last.dark = (last.settings.get darkKey).isSet ∧
    last.dark = (w.dark ^^ decide (Odd (themeChanges events))) ∧
    (∀ key, identity? darkKey ≠ identity? key →
      last.settings.get? key = w.settings.get? key) ∧
    (themeChanges events = 0 → last.store = store ∧ last.settings = w.settings) ∧
    (themeChanges events ≠ 0 → last.settings.get? darkKey = some (.bool last.dark)) ∧
    last.store.load = .ok last.settings ∧
    ∃ anew, openFrom last.store = .ok anew ∧ anew.settings = last.settings ∧
      anew.dark = last.dark ∧ anew.session.places = last.session.places := by
  intro last
  obtain ⟨rfl, first⟩ := themed_of_openFrom holds floatFree writable opened
  have themed : w.Themed (themeChanges events) last := first.run events
  refine ⟨themed.style, themed.turns, themed.others, themed.untouched, themed.touched,
    themed.stored, ofSettings last.settings last.store, ?_, rfl, themed.style.symm,
    themed.places.symm⟩
  rw [openFrom, themed.stored]

/-- A theme that is a text, which counts as set, and an error between two of three changes: the
window is light in the end, and so is one opened anew, with three places as before. -/
theorem theme_is_kept_thrice :
    let text := "\x7b\"darkmode\": \"on\", \"note\": [null], \"decimal_places\": 3\x7d".toList
    let store := Store.file (Text.encodeUtf8 text)
    let members : List (CodePoints × Document) := [("darkmode", .text "on"),
      ("note", .list [.null]), ("decimal_places", .int false ['3'])]
    let w := ofSettings (ofFields (loadedFields members)) store
    let events := [Event.release themeLabel, .seed "6/0".toList, .release themeLabel, .timeout,
      .release themeLabel]
    store.Holds members ∧ (∀ member ∈ members, member.2.IsFloatFree) ∧ store.IsWritable ∧
      openFrom store = .ok w ∧ w.dark = true ∧ themeChanges events = 3 ∧
      (w.run events).dark = false ∧
      (w.run events).settings.get? darkKey = some (.bool false) ∧
      (w.run events).settings.get? placesKey = some (.int 3) ∧
      ∃ anew, openFrom (w.run events).store = .ok anew ∧ anew.dark = false ∧
        anew.settings = (w.run events).settings := by
  intro text store members w events
  have record : Json.lexemes text = (Document.record members).lexemes := rfl
  have holds : store.Holds members := ⟨text, rfl, record⟩
  have floatFree : ∀ member ∈ members, member.2.IsFloatFree := by
    refine List.forall_mem_cons.mpr ⟨.text _, List.forall_mem_cons.mpr ⟨.list _ ?_, ?_⟩⟩
    · exact List.forall_mem_singleton.mpr .null
    · exact List.forall_mem_singleton.mpr (.int _ _)
  have loaded : store.load = .ok (ofFields (loadedFields members)) := load_of_lexemes record rfl
  have opened : openFrom store = .ok w := by rw [openFrom, loaded]
  have changes : themeChanges events = 3 := rfl
  have dark : w.dark = true := rfl
  obtain ⟨-, turns, others, -, touched, -, anew, again, settings, theme, -⟩ :=
    theme_is_kept holds floatFree trivial opened events
  have light : (w.run events).dark = false := by
    rw [turns, changes, dark]
    decide
  refine ⟨holds, floatFree, trivial, opened, dark, changes, light, ?_, ?_, anew, again, ?_,
    settings⟩
  · rw [touched (by rw [changes]; decide), light]
  · rw [others placesKey (by decide)]
    rfl
  · rw [theme, light]

end Window

end Reckoner
