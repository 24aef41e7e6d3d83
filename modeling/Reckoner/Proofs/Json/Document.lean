import Mathlib.Tactic
import Reckoner.Json.Reader
import Reckoner.Proofs.Json.Fields
import Reckoner.Proofs.Json.Joined

/-!
# JSON documents

What a text spells in JSON, before any of it is evaluated: a document keeps a name as often as it
comes and a whole number as it was written. It has a value all the same, in which the last field of
a name counts, and may have a number with more digits than are read.
-/

namespace Reckoner.Json

/-- What a text spells: a value with its numbers as they are written and all fields of its records,
those that have a name in common included. -/
inductive Document where
  | null
  | bool (b : Bool)
  | int (negative : Bool) (digits : List Char)
  | float (x : Float)
  | text (points : CodePoints)
  | list (items : List Document)
  | record (fields : List (CodePoints × Document))

namespace Document

/-- Induction on documents, with the property at hand for every item and every field's value. -/
@[elab_as_elim]
theorem nested {motive : Document → Prop} (null : motive .null) (bool : ∀ b, motive (.bool b))
    (int : ∀ negative digits, motive (.int negative digits)) (float : ∀ x, motive (.float x))
    (text : ∀ points, motive (.text points))
    (list : ∀ items, (∀ item ∈ items, motive item) → motive (.list items))
    (record : ∀ fields, (∀ field ∈ fields, motive field.2) → motive (.record fields))
    (d : Document) : motive d :=
  @Document.rec motive (fun items => ∀ item ∈ items, motive item)
    (fun fields => ∀ field ∈ fields, motive field.2) (fun field => motive field.2)
    null bool int float text list record
    nofun (fun _ _ first rest => List.forall_mem_cons.mpr ⟨first, rest⟩)
    nofun (fun _ _ first rest => List.forall_mem_cons.mpr ⟨first, rest⟩)
    (fun _ _ value => value) d

mutual

/-- The lexemes that spell a document. -/
def lexemes : Document → List Lexeme
  | .null => [.null]
  | .bool b => [.bool b]
  | .int negative digits => [.int negative digits]
  | .float x => [.float x]
  | .text points => [.text points]
  | .list items => .openList :: ([.comma].intercalate (itemLexemes items) ++ [.closeList])
  | .record fields =>
      .openRecord :: ([.comma].intercalate (fieldLexemes fields) ++ [.closeRecord])

/-- The lexemes of each item of a list. -/
def itemLexemes : List Document → List (List Lexeme)
  | [] => []
  | item :: items => item.lexemes :: itemLexemes items

/-- The lexemes of each field of a record. -/
def fieldLexemes : List (CodePoints × Document) → List (List Lexeme)
  | [] => []
  | (name, d) :: fields => (.text name :: .colon :: d.lexemes) :: fieldLexemes fields

end

mutual

/-- The value of a document. -/
def value : Document → Value
  | .null => .null
  | .bool b => .bool b
  | .int negative digits =>
      let magnitude : Int := Numeral.ofChars Text.digitValue? digits
      .int (if negative then -magnitude else magnitude)
  | .float x => .float x
  | .text points => .text points
  | .list items => .list (itemValues items)
  | .record fields => .record (putFields [] (fieldValues fields))

/-- The values of the items of a list. -/
def itemValues : List Document → List Value
  | [] => []
  | item :: items => item.value :: itemValues items

/-- The names and values of the fields of a record. -/
def fieldValues : List (CodePoints × Document) → List (CodePoints × Value)
  | [] => []
  | (name, d) :: fields => (name, d.value) :: fieldValues fields

end

mutual

/-- How many digits the first whole number has that has more than are read. -/
def long? : Document → Option Nat
  | .int _ digits => if digitLimit < digits.length then some digits.length else none
  | .list items => itemsLong? items
  | .record fields => fieldsLong? fields
  | _ => none

/-- How many digits the first whole number in a list has that has too many. -/
def itemsLong? : List Document → Option Nat
  | [] => none
  | item :: items => item.long?.or (itemsLong? items)

/-- How many digits the first whole number in a record has that has too many. -/
def fieldsLong? : List (CodePoints × Document) → Option Nat
  | [] => none
  | (_, d) :: fields => d.long?.or (fieldsLong? fields)

end

/-- Whether a document has no binary64 number. -/
inductive IsFloatFree : Document → Prop
  | null : IsFloatFree .null
  | bool (b : Bool) : IsFloatFree (.bool b)
  | int (negative : Bool) (digits : List Char) : IsFloatFree (.int negative digits)
  | text (points : CodePoints) : IsFloatFree (.text points)
  | list (items : List Document) (each : ∀ item ∈ items, IsFloatFree item) :
      IsFloatFree (.list items)
  | record (fields : List (CodePoints × Document)) (each : ∀ field ∈ fields, IsFloatFree field.2) :
      IsFloatFree (.record fields)

theorem itemLexemes_eq_map (items : List Document) : itemLexemes items = items.map lexemes := by
  induction items with
  | nil => rfl
  | cons item items ih => rw [itemLexemes, ih, List.map_cons]

/-- The lexemes of a field: its name, a colon and those of its value. -/
def fieldSpelling (field : CodePoints × Document) : List Lexeme :=
  .text field.1 :: .colon :: field.2.lexemes

theorem fieldLexemes_eq_map (fields : List (CodePoints × Document)) :
    fieldLexemes fields = fields.map fieldSpelling := by
  induction fields with
  | nil => rfl
  | cons field fields ih => rw [fieldLexemes, ih, List.map_cons, fieldSpelling]

theorem itemValues_eq_map (items : List Document) : itemValues items = items.map value := by
  induction items with
  | nil => rfl
  | cons item items ih => rw [itemValues, ih, List.map_cons]

/-- The name of a field and its value. -/
def fieldValue (field : CodePoints × Document) : CodePoints × Value :=
  (field.1, field.2.value)

theorem fieldValues_eq_map (fields : List (CodePoints × Document)) :
    fieldValues fields = fields.map fieldValue := by
  induction fields with
  | nil => rfl
  | cons field fields ih => rw [fieldValues, ih, List.map_cons, fieldValue]

theorem itemsLong?_eq_none_iff {items : List Document} :
    itemsLong? items = none ↔ ∀ item ∈ items, item.long? = none := by
  induction items with
  | nil => simp [itemsLong?]
  | cons item items ih => simp [itemsLong?, ih]

theorem fieldsLong?_eq_none_iff {fields : List (CodePoints × Document)} :
    fieldsLong? fields = none ↔ ∀ field ∈ fields, field.2.long? = none := by
  induction fields with
  | nil => simp [fieldsLong?]
  | cons field fields ih =>
      rw [fieldsLong?, Option.or_eq_none_iff, ih, List.forall_mem_cons]

/-! ## Separated lists -/

/-- A separated list is its first part and the others, with the separator before each of them. -/
theorem intercalate_cons {α : Type} (separator : List α) (part : List α) (parts : List (List α)) :
    separator.intercalate (part :: parts) = part ++ parts.flatMap (separator ++ ·) := by
  induction parts generalizing part with
  | nil => simp [List.intercalate]
  | cons next parts ih =>
      rw [List.intercalate_cons_cons, ih, List.flatMap_cons, List.append_assoc, List.append_assoc]

/-- A separated list is its last part and the others, with the separator behind each of them. -/
theorem intercalate_map_append_singleton {α β : Type} (separator : List α) (f : β → List α)
    (xs : List β) (x : β) :
    separator.intercalate ((xs ++ [x]).map f) = (xs.map f).flatMap (· ++ separator) ++ f x := by
  cases xs with
  | nil => simp [List.intercalate]
  | cons first xs =>
      rw [List.cons_append, List.map_cons, intercalate_cons]
      induction xs generalizing first with
      | nil => simp
      | cons next xs ih => simpa using ih next

/-! ## Joined texts -/

/-- Marks between parts add no text. -/
theorem areJoined_intercalate_iff {parts : List (List Lexeme)} :
    AreJoined ([.comma].intercalate parts) ↔ ∀ part ∈ parts, AreJoined part := by
  cases parts with
  | nil => simp [List.intercalate]
  | cons part parts =>
      have behind (other : List Lexeme) : AreJoined ([.comma] ++ other) ↔ AreJoined other :=
        areJoined_cons_iff (by simp)
      rw [intercalate_cons, areJoined_append_iff, areJoined_flatMap_iff, List.forall_mem_cons]
      simp only [behind]

theorem areJoined_list_iff {items : List Document} :
    AreJoined (list items).lexemes ↔ ∀ item ∈ items, AreJoined item.lexemes := by
  have close : AreJoined [.closeList] := (areJoined_cons_iff (by simp)).mpr areJoined_nil
  rw [lexemes, areJoined_cons_iff (by simp), areJoined_append_iff, and_iff_left close,
    areJoined_intercalate_iff, itemLexemes_eq_map, List.forall_mem_map]

theorem areJoined_record_iff {fields : List (CodePoints × Document)} :
    AreJoined (record fields).lexemes ↔
      ∀ field ∈ fields, field.1.IsJoined ∧ AreJoined field.2.lexemes := by
  have close : AreJoined [.closeRecord] := (areJoined_cons_iff (by simp)).mpr areJoined_nil
  have part (field : CodePoints × Document) : AreJoined (fieldSpelling field) ↔
      field.1.IsJoined ∧ AreJoined field.2.lexemes := by
    rw [fieldSpelling, areJoined_text_cons_iff, areJoined_cons_iff (by simp)]
  rw [lexemes, areJoined_cons_iff (by simp), areJoined_append_iff, and_iff_left close,
    areJoined_intercalate_iff, fieldLexemes_eq_map, List.forall_mem_map]
  simp only [part]

end Document

end Reckoner.Json
