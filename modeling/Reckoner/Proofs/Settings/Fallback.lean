import Mathlib.Tactic
import Reckoner.Proofs.Settings.Merge
import Reckoner.Proofs.Text.Utf8

/-!
# What the standard settings stand in for

The standard settings hold where there is no file, or one whose text is not JSON, and a key that the
file lacks has its standard value. That is all they stand in for. Settings are not loaded at all
from a folder, from bytes that encode no text, from a whole number with too many digits, or from
JSON that has no entries.
-/

namespace Reckoner.Settings

open Json (Value)

/-- JSON gives what its value is merged to. -/
theorem ofText_eq_ok_iff {cs : List Char} {value : Value} (read : Json.read cs = .ok value)
    {settings : Settings} :
    ofText cs = .ok settings ↔ standard.merge value = .ok settings := by
  rw [ofText, read]
  dsimp only
  cases standard.merge value <;> simp [Except.mapError]

namespace Store

/-- Whether nothing is there to be loaded: no file, or a text that is not JSON. -/
def HoldsNothing : Store → Prop
  | .absent | .unreachable => True
  | .folder => False
  | .file bytes => ∃ cs, bytes = Text.encodeUtf8 cs ∧ Json.read cs = .error .malformed

/-- Whether there are entries to be loaded. -/
def HoldsEntries : Store → Prop
  | .file bytes =>
      ∃ cs value, bytes = Text.encodeUtf8 cs ∧ Json.read cs = .ok value ∧ HasEntries value
  | _ => False

theorem load_file (cs : List Char) :
    (Store.file (Text.encodeUtf8 cs)).load = Settings.ofText cs := by
  rw [load, Text.decodeUtf8_encodeUtf8]

theorem load_of_holdsNothing {store : Store} (nothing : store.HoldsNothing) :
    store.load = .ok standard := by
  cases store with
  | absent => rfl
  | unreachable => rfl
  | folder => cases nothing
  | file bytes =>
      obtain ⟨cs, rfl, malformed⟩ := nothing
      rw [load_file, Settings.ofText, malformed]

theorem exists_load_of_holdsEntries {store : Store} (holds : store.HoldsEntries) :
    ∃ settings, store.load = .ok settings := by
  cases store with
  | file bytes =>
      obtain ⟨cs, value, rfl, read, entries⟩ := holds
      obtain ⟨merged, merges⟩ := (exists_merge_iff).mpr entries
      refine ⟨merged, ?_⟩
      rw [load_file]
      exact (ofText_eq_ok_iff read).mpr merges
  | _ => cases holds

/-- What is loaded is the standard settings, or what the entries in the file make of them. -/
theorem holds_of_load {store : Store} {settings : Settings} (loaded : store.load = .ok settings) :
    (store.HoldsNothing ∧ settings = standard) ∨
      (store.HoldsEntries ∧ ∃ value, standard.merge value = .ok settings) := by
  cases store with
  | absent => exact .inl ⟨trivial, (Except.ok.inj loaded).symm⟩
  | unreachable => exact .inl ⟨trivial, (Except.ok.inj loaded).symm⟩
  | folder => cases loaded
  | file bytes =>
      cases decoded : Text.decodeUtf8 bytes with
      | error e =>
          rw [load, decoded] at loaded
          cases loaded
      | ok cs =>
          obtain rfl := Text.decodeUtf8_eq_ok_iff.mp decoded
          rw [load_file] at loaded
          cases read : Json.read cs with
          | ok value =>
              have merges := (ofText_eq_ok_iff read).mp loaded
              exact .inr ⟨⟨cs, value, rfl, read, exists_merge_iff.mp ⟨settings, merges⟩⟩,
                value, merges⟩
          | error e =>
              rw [Settings.ofText, read] at loaded
              cases e with
              | malformed => exact .inl ⟨⟨cs, rfl, read⟩, (Except.ok.inj loaded).symm⟩
              | longInteger digits => cases loaded

/-- The standard settings are loaded where nothing is there. Whatever is loaded has every standard
key, and gives a value for every key. But something is loaded only where nothing is there, or
entries are. -/
theorem load_falls_back (store : Store) :
    (store.HoldsNothing → store.load = .ok standard) ∧
    (∀ settings, store.load = .ok settings → settings.IsComplete ∧
      ∀ key, (identity? key).isSome = true → ∃ value, settings.lookup key = .ok value) ∧
    ((∃ settings, store.load = .ok settings) ↔ store.HoldsNothing ∨ store.HoldsEntries) := by
  refine ⟨load_of_holdsNothing, fun settings loaded => ⟨?_, fun key hashable => ?_⟩, ?_⟩
  · rcases holds_of_load loaded with ⟨-, rfl⟩ | ⟨-, value, merges⟩
    · exact isComplete_standard
    · exact isComplete_standard.merge merges
  · exact ⟨settings.get key, if_pos hashable⟩
  · constructor
    · rintro ⟨settings, loaded⟩
      exact (holds_of_load loaded).imp And.left And.left
    · rintro (nothing | entries)
      · exact ⟨standard, load_of_holdsNothing nothing⟩
      · exact exists_load_of_holdsEntries entries

/-- A folder, a byte that begins no character, and a number alone are refused. -/
theorem load_refuses :
    Store.folder.load = .error .folder ∧
    (Store.file [0xFF]).load = .error (.encoding ⟨0, 1, 0xFF, .start⟩) ∧
    (Store.file [0x35]).load = .error (.merge (.noItems "int")) :=
  ⟨rfl, rfl, rfl⟩

end Store

end Reckoner.Settings
