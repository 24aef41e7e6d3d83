import Mathlib.Tactic
import Reckoner.Proofs.Json.Fields
import Reckoner.Settings.Store

/-!
# Merged settings

Settings whose keys are names are fields, and merging a record into them puts its fields. Whatever
is merged, no key is lost. A record can always be merged, and another value exactly when its items
are pairs that have a key each.
-/

namespace Reckoner.Settings

open Json (CodePoints Value names putField putFields)

/-! ## Settings of names -/

/-- Settings whose keys are the names of fields. -/
def ofFields (fields : List (CodePoints × Value)) : Settings :=
  ⟨fields.map fun field => (.text field.1, field.2)⟩

/-- The fields that settings are saved as. -/
def fields (settings : Settings) : List (CodePoints × Value) :=
  settings.entries.map fun (key, value) => (keyText key, value)

@[simp] theorem fields_ofFields (members : List (CodePoints × Value)) :
    (ofFields members).fields = members := by
  rw [fields, ofFields, List.map_map]
  exact List.map_id members

/-- The standard settings have names for keys. -/
theorem ofFields_fields_standard : ofFields standard.fields = standard := rfl

theorem nodup_names_standard : (names standard.fields).Nodup := by decide

theorem put_ofFields (members : List (CodePoints × Value)) (name : CodePoints) (value : Value) :
    (ofFields members).put (.text name) value = ofFields (putField members name value) := by
  simp only [put, ofFields, Settings.mk.injEq]
  induction members with
  | nil => rfl
  | cons member members ih =>
      obtain ⟨other, old⟩ := member
      by_cases same : other = name
      · simp [putEntry, putField, identity?, same]
      · simp [putEntry, putField, identity?, same, ih]

/-- A record is merged into settings of names by putting its fields. -/
theorem mergeFields_ofFields (members later : List (CodePoints × Value)) :
    (ofFields members).mergeFields later = ofFields (putFields members later) := by
  induction later generalizing members with
  | nil => rfl
  | cons field later ih =>
      rw [Json.putFields_cons, ← ih, ← put_ofFields]
      rfl

theorem get?_ofFields (members : List (CodePoints × Value)) (name : CodePoints) :
    (ofFields members).get? (.text name) = members.lookup name := by
  induction members with
  | nil => rfl
  | cons member members ih =>
      have heads : identity? (.text member.1) = identity? (.text name) ↔ name = member.1 := by
        simp [identity?, eq_comm]
      rw [Json.lookup_cons_eq_ite, ← ih, get?, ofFields, List.map_cons, List.find?_cons]
      by_cases same : name = member.1
      · simp [same]
      · simp [heads, same, get?, ofFields]

theorem get?_standard (name : CodePoints) :
    standard.get? (.text name) = standard.fields.lookup name :=
  get?_ofFields standard.fields name

/-! ## Keys that stay -/

/-- Whether every standard key has a value. -/
def IsComplete (settings : Settings) : Prop :=
  ∀ entry ∈ standard.entries, (settings.get? entry.1).isSome = true

theorem isComplete_standard : standard.IsComplete := by
  unfold IsComplete
  decide

theorem IsComplete.put {settings : Settings} (complete : settings.IsComplete) (key value : Value) :
    (settings.put key value).IsComplete := by
  intro entry member
  rw [get?_put]
  split
  · rfl
  · exact complete entry member

theorem IsComplete.mergeFields {settings : Settings} (complete : settings.IsComplete)
    (later : List (CodePoints × Value)) : (settings.mergeFields later).IsComplete := by
  induction later generalizing settings with
  | nil => exact complete
  | cons field later ih => exact ih (complete.put _ _)

theorem IsComplete.mergeItems {settings merged : Settings} (complete : settings.IsComplete)
    {index : Nat} {items : List Value} (succeeds : settings.mergeItems index items = .ok merged) :
    merged.IsComplete := by
  induction items generalizing settings index with
  | nil =>
      cases succeeds
      exact complete
  | cons item items ih =>
      rw [Settings.mergeItems] at succeeds
      split at succeeds
      · cases succeeds
      · exact ih (complete.put _ _) succeeds

/-- Merging loses no key. -/
theorem IsComplete.merge {settings merged : Settings} (complete : settings.IsComplete)
    {value : Value} (succeeds : settings.merge value = .ok merged) : merged.IsComplete := by
  unfold Settings.merge at succeeds
  split at succeeds
  · cases succeeds
    exact complete.mergeFields _
  · split at succeeds
    · exact complete.mergeItems succeeds
    · cases succeeds

/-! ## What can be merged -/

/-- Whether an item is a pair with a key. -/
def IsEntry (item : Value) : Prop :=
  ∃ key value, items? item = some [key, value] ∧ (identity? key).isSome = true

/-- Whether a value has entries: a record has, and else its items must be pairs with a key each. -/
def HasEntries (value : Value) : Prop :=
  (∃ members, value = .record members) ∨
    ∃ items, items? value = some items ∧ ∀ item ∈ items, IsEntry item

theorem isEntry_iff_of_items {item : Value} {items : List Value} (has : items? item = some items) :
    IsEntry item ↔ ∃ key value, items = [key, value] ∧ (identity? key).isSome = true := by
  simp [IsEntry, has]

theorem exists_entryOf_iff {index : Nat} {item : Value} :
    (∃ entry, entryOf index item = .ok entry) ↔ IsEntry item := by
  unfold entryOf
  split
  · rename_i none
    simp [IsEntry, none]
  · rename_i key value pair
    rw [isEntry_iff_of_items pair]
    by_cases hashable : (identity? key).isSome = true <;> simp [hashable]
  · rename_i items other has
    rw [isEntry_iff_of_items has]
    constructor
    · rintro ⟨entry, ⟨⟩⟩
    · rintro ⟨key, value, rfl, -⟩
      exact absurd rfl (other key value)

theorem exists_mergeItems_iff {settings : Settings} {index : Nat} {items : List Value} :
    (∃ merged, settings.mergeItems index items = .ok merged) ↔ ∀ item ∈ items, IsEntry item := by
  induction items generalizing settings index with
  | nil => simp [mergeItems]
  | cons item items ih =>
      rw [List.forall_mem_cons, ← @exists_entryOf_iff index item, mergeItems]
      cases entry : entryOf index item with
      | error fault => simp
      | ok pair => simp [ih]

/-- A value can be merged exactly when it has entries. -/
theorem exists_merge_iff {settings : Settings} {value : Value} :
    (∃ merged, settings.merge value = .ok merged) ↔ HasEntries value := by
  unfold merge HasEntries
  split
  · simp
  · rename_i other
    have noRecord : ¬ ∃ members, value = .record members := fun ⟨members, h⟩ => other members h
    rw [or_iff_right noRecord]
    split
    · rename_i items has
      rw [exists_mergeItems_iff]
      simp [has]
    · rename_i none
      simp [none]

end Reckoner.Settings
