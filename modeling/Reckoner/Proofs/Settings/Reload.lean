import Mathlib.Tactic
import Reckoner.Proofs.Json.Writing
import Reckoner.Proofs.Settings.Fallback

/-!
# Settings saved and loaded again

Settings that were loaded from a record have the standard keys first and then the other names of the
record, in the order in which they first come; each has the last value that the record gives it, or
else its standard one. Saving writes their text, which is read back to the fields that they are, and
merging these into the standard settings gives the same settings again.
-/

namespace Reckoner.Settings

open Json (CodePoints Value Document names putField putFields)

namespace Store

/-- Whether a store has no file and there are no members, or its file is a record of the members. -/
def Holds (members : List (CodePoints × Document)) : Store → Prop
  | .absent | .unreachable => members = []
  | .folder => False
  | .file bytes =>
      ∃ cs, bytes = Text.encodeUtf8 cs ∧ Json.lexemes cs = (Document.record members).lexemes

/-- Whether a file can be written. -/
def IsWritable : Store → Prop
  | .absent | .file _ => True
  | .folder | .unreachable => False

/-- The file of a text holds its bytes. -/
theorem ofText_eq_file (cs : List Char) : ofText cs = .file (Text.encodeUtf8 cs) := by
  rw [ofText, Text.toList_toUTF8]

/-- Where a file can be written, saving writes the text of the settings. -/
theorem save_of_isWritable {store : Store} (writable : store.IsWritable) (settings : Settings) :
    store.save settings = (.file (Text.encodeUtf8 settings.toText), settings) := by
  rw [← ofText_eq_file]
  cases store with
  | absent => rfl
  | file bytes => rfl
  | folder => cases writable
  | unreachable => cases writable

theorem IsWritable.save {store : Store} (writable : store.IsWritable) (settings : Settings) :
    (store.save settings).1.IsWritable := by
  rw [save_of_isWritable writable]
  trivial

end Store

/-! ## What a record makes of the standard settings -/

/-- The fields of the settings that are loaded from a record. -/
def loadedFields (members : List (CodePoints × Document)) : List (CodePoints × Value) :=
  putFields standard.fields (Document.fieldValues members)

theorem merge_record (members : List (CodePoints × Value)) :
    standard.merge (.record members) = .ok (ofFields (putFields standard.fields members)) := by
  rw [merge, ← mergeFields_ofFields, ofFields_fields_standard]

/-- A record is merged as if its members were put one after the other. -/
theorem merge_value_record (members : List (CodePoints × Document)) :
    standard.merge (Document.record members).value = .ok (ofFields (loadedFields members)) := by
  rw [Document.value, merge_record, Json.putFields_putFields_of_subset nodup_names_standard
    Json.nodup_names_nil (List.nil_subset _), loadedFields]

/-- A file that spells a record is loaded as the record has it, unless a number is too long. -/
theorem load_of_lexemes {cs : List Char} {members : List (CodePoints × Document)}
    (record : Json.lexemes cs = (Document.record members).lexemes)
    (short : (Document.record members).long? = none) :
    (Store.file (Text.encodeUtf8 cs)).load = .ok (ofFields (loadedFields members)) := by
  have read := Json.read_of_lexemes record
  rw [short] at read
  rw [Store.load_file]
  exact (ofText_eq_ok_iff read).mpr (merge_value_record members)

theorem load_of_holds {store : Store} {members : List (CodePoints × Document)}
    (holds : store.Holds members) {settings : Settings} (loaded : store.load = .ok settings) :
    settings = ofFields (loadedFields members) ∧ (∀ member ∈ members, member.2.long? = none) ∧
      ∀ member ∈ members, member.1.IsJoined ∧ Json.AreJoined member.2.lexemes := by
  cases store with
  | absent =>
      cases holds
      exact ⟨(Except.ok.inj loaded).symm, nofun, nofun⟩
  | unreachable =>
      cases holds
      exact ⟨(Except.ok.inj loaded).symm, nofun, nofun⟩
  | folder => cases holds
  | file bytes =>
      obtain ⟨cs, rfl, record⟩ := holds
      have joined := Document.areJoined_record_iff.mp (record ▸ Json.areJoined_lexemes cs)
      cases long : (Document.record members).long? with
      | some digits =>
          rw [Store.load_file, ofText, Json.read_of_lexemes record, long] at loaded
          cases loaded
      | none =>
          exact ⟨Except.ok.inj (loaded.symm.trans (load_of_lexemes record long)),
            Document.fieldsLong?_eq_none_iff.mp long, joined⟩

/-- Whether settings are those that a record without binary64 numbers leads to. -/
def IsStorable (settings : Settings) : Prop :=
  ∃ members : List (CodePoints × Document), (∀ member ∈ members, member.2.IsFloatFree) ∧
    (∀ member ∈ members, member.2.long? = none) ∧
    (∀ member ∈ members, member.1.IsJoined ∧ Json.AreJoined member.2.lexemes) ∧
    settings = ofFields (loadedFields members)

theorem isStorable_of_load {store : Store} {members : List (CodePoints × Document)}
    (holds : store.Holds members) (floatFree : ∀ member ∈ members, member.2.IsFloatFree)
    {settings : Settings} (loaded : store.load = .ok settings) : settings.IsStorable := by
  obtain ⟨same, short, joined⟩ := load_of_holds holds loaded
  exact ⟨members, floatFree, short, joined, same⟩

/-! ## The text of settings -/

theorem isPlain_int {n : Int} (small : n.natAbs ≤ 10 ^ 9) : (Value.int n).IsPlain := by
  refine .int n ?_
  rw [Numeral.digits, Numeral.length_padded]
  exact (Numeral.digitCount_le_of_le_pow small).trans (by decide)

theorem isPlain_standard : ∀ field ∈ standard.fields, field.2.IsPlain := by
  intro field member
  simp only [fields, standard, List.map_cons, List.map_nil, List.mem_cons, List.not_mem_nil,
    or_false] at member
  rcases member with rfl | rfl | rfl | rfl | rfl
  · exact isPlain_int (by decide)
  · exact isPlain_int (by decide)
  · exact isPlain_int (by decide)
  · exact .bool false
  · exact .bool false

theorem isJoined_standard : ∀ field ∈ standard.fields, field.1.IsJoined := by
  intro field member
  simp only [fields, standard, List.map_cons, List.map_nil, List.mem_cons, List.not_mem_nil,
    or_false] at member
  rcases member with rfl | rfl | rfl | rfl | rfl <;> exact Json.isJoined_ofString _

namespace IsStorable

variable {settings : Settings} (storable : settings.IsStorable)

include storable

/-- The fields that settings are saved as can be read back. -/
theorem isPlain_fields : (Value.record settings.fields).IsPlain := by
  obtain ⟨members, floatFree, short, joined, rfl⟩ := storable
  rw [fields_ofFields, loadedFields, Document.fieldValues_eq_map]
  -- Each field is a standard one or the value of a member.
  have source : ∀ field ∈ putFields standard.fields (members.map Document.fieldValue),
      field ∈ standard.fields ∨ ∃ member ∈ members, Document.fieldValue member = field :=
    fun field member => (Json.mem_putFields member).imp_right List.mem_map.mp
  refine .record _ (Json.nodup_names_putFields nodup_names_standard _) (fun field member => ?_)
    fun field member => ?_
  · rcases source field member with old | ⟨first, within, rfl⟩
    · exact isJoined_standard field old
    · exact (joined first within).1
  · rcases source field member with old | ⟨first, within, rfl⟩
    · exact isPlain_standard field old
    · exact Value.isPlain_value (floatFree first within) (short first within)
        (joined first within).2

/-- The text of settings spells the record of their fields. -/
theorem read_toText : Json.read settings.toText = .ok (.record settings.fields) :=
  Value.read_pretty storable.isPlain_fields

/-- The text of settings gives them again. -/
theorem ofText_toText : ofText settings.toText = .ok settings := by
  have read := storable.read_toText
  obtain ⟨members, -, -, -, rfl⟩ := storable
  have again : putFields standard.fields (loadedFields members) = loadedFields members :=
    Json.putFields_putFields_of_subset nodup_names_standard nodup_names_standard
      (List.Subset.refl _) _
  rw [ofText_eq_ok_iff read, merge_record, fields_ofFields, again]

/-- What saving writes is loaded as it was saved. -/
theorem load_toText : (Store.file (Text.encodeUtf8 settings.toText)).load = .ok settings := by
  rw [Store.load_file, storable.ofText_toText]

theorem load_save {store : Store} (writable : store.IsWritable) :
    (store.save settings).1.load = .ok settings := by
  rw [Store.save_of_isWritable writable, storable.load_toText]

end IsStorable

/-! ## Saving and loading -/

theorem names_entries_ofFields (members : List (CodePoints × Value)) :
    (ofFields members).entries.map Prod.fst = (names members).map .text := by
  simp [ofFields, names]

/-- Settings that are loaded where there is no file, or a record without binary64 numbers, have the
standard keys in their order and then the other names of the record in theirs, each with the last
value in the record or else the standard one. Their text spells the record of their fields. Wherever
a file can be written, saving them makes it the file of that text and answers them; from it they are
loaded again just so, and saving them once more writes the same text. -/
theorem save_load {store : Store} {members : List (CodePoints × Document)}
    (holds : store.Holds members) (floatFree : ∀ member ∈ members, member.2.IsFloatFree)
    {settings : Settings} (loaded : store.load = .ok settings) :
    let standardNames := names standard.fields
    let given := Document.fieldValues members
    let written := Store.file (Text.encodeUtf8 settings.toText)
    settings.entries.map Prod.fst =
      (standardNames ++ ((names given).filter (· ∉ standardNames)).eraseDups).map .text ∧
    (∀ name, settings.get? (.text name) =
      (given.reverse.lookup name).or (standard.get? (.text name))) ∧
    Json.read settings.toText = .ok (.record settings.fields) ∧
    ∀ target : Store, target.IsWritable → target.save settings = (written, settings) ∧
      written.load = .ok settings ∧ written.save settings = (written, settings) := by
  intro standardNames given written
  have storable := isStorable_of_load holds floatFree loaded
  obtain ⟨rfl, -⟩ := load_of_holds holds loaded
  refine ⟨?_, fun name => ?_, storable.read_toText, fun target writable => ⟨?_, ?_, ?_⟩⟩
  · rw [names_entries_ofFields, loadedFields, Json.names_putFields]
  · rw [get?_ofFields, loadedFields, Json.lookup_putFields, get?_standard]
  · exact Store.save_of_isWritable writable _
  · exact storable.load_toText
  · have file : written.IsWritable := trivial
    exact Store.save_of_isWritable file _

/-- A record that gives a standard key two values, the last of them a list; between them stands a
name that is half of a surrogate pair. -/
theorem save_load_repeated :
    let text := "\x7b\"debug\": 1, \"\\ud800\": \"a\\nb\", \"debug\": [true]\x7d".toList
    let store := Store.file (Text.encodeUtf8 text)
    let members : List (CodePoints × Document) := [("debug", .int false ['1']),
      ([.half 0], .text "a\nb"), ("debug", .list [.bool true])]
    store.Holds members ∧ (∀ member ∈ members, member.2.IsFloatFree) ∧
      ∃ settings, store.load = .ok settings ∧
        settings.entries.map Prod.fst =
          [placesKey, errorDelayKey, unsafeDelayKey, darkKey, debugKey, .text [.half 0]] ∧
        settings.get? debugKey = some (.list [.bool true]) ∧
        settings.get? (.text [.half 0]) = some (.text "a\nb") ∧ Store.absent.IsWritable ∧
        Store.absent.save settings = (.file (Text.encodeUtf8 settings.toText), settings) ∧
        (Store.file (Text.encodeUtf8 settings.toText)).load = .ok settings := by
  intro text store members
  have record : Json.lexemes text = (Document.record members).lexemes := rfl
  have holds : store.Holds members := ⟨text, rfl, record⟩
  have floatFree : ∀ member ∈ members, member.2.IsFloatFree := by
    refine List.forall_mem_cons.mpr ⟨.int _ _, List.forall_mem_cons.mpr ⟨.text _, ?_⟩⟩
    exact List.forall_mem_singleton.mpr (.list _ (List.forall_mem_singleton.mpr (.bool true)))
  have loaded := load_of_lexemes record rfl
  obtain ⟨keys, values, -, saves⟩ := save_load holds floatFree loaded
  obtain ⟨save, load, -⟩ := saves .absent trivial
  exact ⟨holds, floatFree, _, loaded, keys.trans rfl, (values "debug").trans rfl,
    (values [.half 0]).trans rfl, trivial, save, load⟩

end Reckoner.Settings
