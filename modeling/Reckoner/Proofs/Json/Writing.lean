import Mathlib.Tactic
import Reckoner.Proofs.Json.Lexing
import Reckoner.Proofs.Json.Reading

/-!
# Written values read back

A value without binary64 numbers is written as a document that spells it, whatever blanks stand
between its items. Reading gives the value back where each name comes once in its record, no halves
of a pair stand side by side in a text, and no whole number is longer than what is read. Every value
that was read is such a value, unless it has a binary64 number.
-/

namespace Reckoner.Json

namespace Value

/-- A value that its text gives back. -/
inductive IsPlain : Value → Prop
  | null : IsPlain .null
  | bool (b : Bool) : IsPlain (.bool b)
  | int (n : Int) (short : (Numeral.digits n.natAbs).length ≤ digitLimit) : IsPlain (.int n)
  | text (points : CodePoints) (joined : points.IsJoined) : IsPlain (.text points)
  | list (items : List Value) (each : ∀ item ∈ items, IsPlain item) : IsPlain (.list items)
  | record (fields : List (CodePoints × Value)) (nodup : (names fields).Nodup)
      (joined : ∀ field ∈ fields, field.1.IsJoined) (each : ∀ field ∈ fields, IsPlain field.2) :
      IsPlain (.record fields)

mutual

/-- The document that a value is written as. -/
def document : Value → Document
  | .null => .null
  | .bool b => .bool b
  | .int n => .int (decide (n < 0)) (Numeral.digits n.natAbs)
  | .float x => .float x
  | .text points => .text points
  | .list items => .list (itemDocuments items)
  | .record fields => .record (fieldDocuments fields)

/-- The documents of the items of a list. -/
def itemDocuments : List Value → List Document
  | [] => []
  | item :: items => item.document :: itemDocuments items

/-- The documents of the fields of a record. -/
def fieldDocuments : List (CodePoints × Value) → List (CodePoints × Document)
  | [] => []
  | (name, value) :: fields => (name, value.document) :: fieldDocuments fields

end

/-! ## The document of a value -/

theorem itemDocuments_eq_map (items : List Value) : itemDocuments items = items.map document := by
  induction items with
  | nil => rfl
  | cons item items ih => rw [itemDocuments, ih, List.map_cons]

/-- The document of a field. -/
def fieldDocument (field : CodePoints × Value) : CodePoints × Document :=
  (field.1, field.2.document)

theorem fieldDocuments_eq_map (fields : List (CodePoints × Value)) :
    fieldDocuments fields = fields.map fieldDocument := by
  induction fields with
  | nil => rfl
  | cons field fields ih => rw [fieldDocuments, ih, List.map_cons, fieldDocument]

theorem value_document {v : Value} (plain : v.IsPlain) : v.document.value = v := by
  induction plain with
  | null => rfl
  | bool b => rfl
  | int n short =>
      have magnitude : Numeral.ofChars Text.digitValue? (Numeral.digits n.natAbs) = n.natAbs :=
        Numeral.valueOf_digits n.natAbs
      rw [document, Document.value, magnitude]
      congr 1
      split_ifs with negative <;> simp at negative <;> omega
  | text points joined => rfl
  | list items each ih =>
      have same : items.map (Document.value ∘ document) = items :=
        (List.map_congr_left (g := id) ih).trans (List.map_id items)
      rw [document, Document.value, Document.itemValues_eq_map, itemDocuments_eq_map, List.map_map,
        same]
  | record fields nodup joined each ih =>
      have back : ∀ field ∈ fields, Document.fieldValue (fieldDocument field) = field := by
        intro field member
        rw [fieldDocument, Document.fieldValue, ih field member]
      have same : fields.map (Document.fieldValue ∘ fieldDocument) = fields :=
        (List.map_congr_left (g := id) back).trans (List.map_id fields)
      have put : putFields [] fields = fields := putFields_of_nodup nodup
      rw [document, Document.value, Document.fieldValues_eq_map, fieldDocuments_eq_map,
        List.map_map, same, put]

theorem long?_document {v : Value} (plain : v.IsPlain) : v.document.long? = none := by
  induction plain with
  | null => rfl
  | bool b => rfl
  | int n short => exact if_neg short.not_gt
  | text points joined => rfl
  | list items each ih =>
      rw [document, Document.long?, itemDocuments_eq_map, Document.itemsLong?_eq_none_iff]
      exact List.forall_mem_map.mpr ih
  | record fields nodup joined each ih =>
      rw [document, Document.long?, fieldDocuments_eq_map, Document.fieldsLong?_eq_none_iff]
      exact List.forall_mem_map.mpr ih

/-- What is read without binary64 numbers is plain: a record keeps one field of a name. -/
theorem isPlain_value {d : Document} (floatFree : d.IsFloatFree) (short : d.long? = none)
    (joined : AreJoined d.lexemes) : d.value.IsPlain := by
  induction floatFree with
  | null => exact .null
  | bool b => exact .bool b
  | int negative digits =>
      have few : digits.length ≤ digitLimit := by
        by_contra many
        rw [Document.long?, if_pos (Nat.lt_of_not_le many)] at short
        cases short
      have fits := Numeral.length_digits_valueOf_le (by decide) few
      refine .int _ ?_
      cases negative with
      | false => simpa [Numeral.valueOf] using fits
      | true => simpa [Numeral.valueOf] using fits
  | text points => exact .text _ (areJoined_text_cons_iff.mp joined).1
  | list items each ih =>
      rw [Document.long?, Document.itemsLong?_eq_none_iff] at short
      rw [Document.areJoined_list_iff] at joined
      rw [Document.value, Document.itemValues_eq_map]
      exact .list _ (List.forall_mem_map.mpr fun item member =>
        ih item member (short item member) (joined item member))
  | record fields each ih =>
      rw [Document.long?, Document.fieldsLong?_eq_none_iff] at short
      rw [Document.areJoined_record_iff] at joined
      rw [Document.value, Document.fieldValues_eq_map]
      -- Each field that is kept is the value of one of the document's.
      have source : ∀ field ∈ putFields [] (fields.map Document.fieldValue),
          ∃ first ∈ fields, Document.fieldValue first = field := fun field member =>
        List.mem_map.mp ((mem_putFields member).resolve_left List.not_mem_nil)
      refine .record _ (nodup_names_putFields nodup_names_nil _) (fun field member => ?_)
        fun field member => ?_
      · obtain ⟨first, within, rfl⟩ := source field member
        exact (joined first within).1
      · obtain ⟨first, within, rfl⟩ := source field member
        exact ih first within (short first within) (joined first within).2

/-! ## The text of a value -/

section Gaps

variable {gap : Nat → List Char} (blank : ∀ depth, ∀ c ∈ gap depth, c ∈ Lexer.blanks)

/-- Whether the text of a value spells its document, whatever was found before. -/
def Spells (gap : Nat → List Char) (v : Value) : Prop :=
  ∀ depth found, ((v.write gap depth).foldl Lexer.step { found }).Yields
    (v.document.lexemes.reverse ++ found)

/-- A value whose text is one run spells what the run does. -/
theorem spells_of_run {v : Value} {cs : List Char} (text : ∀ depth, v.write gap depth = cs)
    (filled : cs ≠ []) (members : cs.all Lexer.isRunChar = true)
    (spelled : Lexer.runLexemes cs = v.document.lexemes) : Spells gap v := by
  intro depth found
  rw [text, ← spelled]
  exact Lexer.yields_run found filled members

/-- A name and its colon are two lexemes. -/
theorem foldl_step_name (found : List Lexeme) {name : CodePoints} (joined : name.IsJoined)
    (rest : List Char) :
    (writeText name ++ ':' :: ' ' :: rest).foldl Lexer.step { found } =
      rest.foldl Lexer.step { found := .colon :: .text name :: found } := by
  rw [List.foldl_append, Lexer.foldl_step_writeText found joined]
  rfl

include blank in
/-- Behind an item each further item is found with a comma before it. -/
theorem yields_writeItems {items : List Value} (each : ∀ item ∈ items, Spells gap item)
    (depth : Nat) {lexer : Lexer} {found : List Lexeme} (yields : lexer.Yields found) :
    ((writeItems gap depth items).foldl Lexer.step lexer).Yields
      ((items.flatMap fun item => .comma :: item.document.lexemes).reverse ++ found) := by
  induction items generalizing lexer found with
  | nil => exact yields
  | cons item items ih =>
      obtain ⟨first, others⟩ := List.forall_mem_cons.mp each
      have comma : lexer.step ',' = { found := .comma :: found } := yields.2 ',' rfl
      rw [writeItems, List.cons_append, List.cons_append, List.foldl_cons, comma,
        List.foldl_append, List.foldl_append, Lexer.foldl_step_blanks _ (blank depth)]
      have rest := ih others (first depth (.comma :: found))
      simpa using rest

include blank in
theorem yields_writeFields {fields : List (CodePoints × Value)}
    (joined : ∀ field ∈ fields, field.1.IsJoined) (each : ∀ field ∈ fields, Spells gap field.2)
    (depth : Nat) {lexer : Lexer} {found : List Lexeme} (yields : lexer.Yields found) :
    ((writeFields gap depth fields).foldl Lexer.step lexer).Yields
      ((fields.flatMap fun field => .comma :: Document.fieldSpelling (fieldDocument field)).reverse
        ++ found) := by
  induction fields generalizing lexer found with
  | nil => exact yields
  | cons field fields ih =>
      obtain ⟨first, others⟩ := List.forall_mem_cons.mp each
      obtain ⟨name, names⟩ := List.forall_mem_cons.mp joined
      have comma : lexer.step ',' = { found := .comma :: found } := yields.2 ',' rfl
      rw [writeFields, List.append_assoc, List.cons_append, List.cons_append, List.append_assoc,
        List.foldl_cons, comma, List.foldl_append, Lexer.foldl_step_blanks _ (blank depth),
        List.cons_append, List.cons_append, foldl_step_name _ name, List.foldl_append]
      have rest := ih names others (first depth (.colon :: .text field.1 :: .comma :: found))
      simpa [Document.fieldSpelling, fieldDocument] using rest

include blank in
/-- What closes a list or a record is found behind blanks. -/
theorem yields_close {lexer : Lexer} {found : List Lexeme} (yields : lexer.Yields found)
    (depth : Nat) {c : Char} {close : Lexeme} (behind : Lexer.isRunChar c = false)
    (closes : Lexer.mark found c = { found := close :: found }) :
    ((gap depth ++ [c]).foldl Lexer.step lexer).Yields (close :: found) := by
  rw [List.foldl_append, List.foldl_cons, (yields.blanks (blank depth)).2 c behind, closes]
  exact Lexer.yields_between _

include blank in
/-- A list spells its document where its items do. -/
theorem spells_list {items : List Value} (each : ∀ item ∈ items, Spells gap item) :
    Spells gap (.list items) := by
  intro depth found
  rw [document, itemDocuments_eq_map, Document.lexemes, Document.itemLexemes_eq_map]
  cases items with
  | nil => exact Lexer.yields_between _
  | cons item items =>
      obtain ⟨first, others⟩ := List.forall_mem_cons.mp each
      have start : Lexer.step { found } '[' = { found := .openList :: found } := rfl
      have opened := yields_writeItems blank others (depth + 1)
        (first (depth + 1) (.openList :: found))
      have closed := yields_close blank opened depth (c := ']') rfl rfl
      have text : write gap depth (.list (item :: items)) =
          '[' :: (gap (depth + 1) ++ (item.write gap (depth + 1) ++
            (writeItems gap (depth + 1) items ++ (gap depth ++ [']'])))) := by simp [write]
      rw [text, List.foldl_cons, start, List.foldl_append,
        Lexer.foldl_step_blanks _ (blank (depth + 1)), List.foldl_append, List.foldl_append]
      simpa [Document.intercalate_cons, List.flatMap_map] using closed

include blank in
/-- A record of joined names spells its document where its values do. -/
theorem spells_record {fields : List (CodePoints × Value)}
    (joined : ∀ field ∈ fields, field.1.IsJoined) (each : ∀ field ∈ fields, Spells gap field.2) :
    Spells gap (.record fields) := by
  intro depth found
  rw [document, fieldDocuments_eq_map, Document.lexemes, Document.fieldLexemes_eq_map]
  cases fields with
  | nil => exact Lexer.yields_between _
  | cons field fields =>
      obtain ⟨first, others⟩ := List.forall_mem_cons.mp each
      obtain ⟨name, names⟩ := List.forall_mem_cons.mp joined
      have start : Lexer.step { found } '{' = { found := .openRecord :: found } := rfl
      have opened := yields_writeFields blank names others (depth + 1)
        (first (depth + 1) (.colon :: .text field.1 :: .openRecord :: found))
      have closed := yields_close blank opened depth (c := '}') rfl rfl
      have text : write gap depth (.record (field :: fields)) =
          '{' :: (gap (depth + 1) ++ (writeText field.1 ++ ':' :: ' ' ::
            (field.2.write gap (depth + 1) ++ (writeFields gap (depth + 1) fields ++
              (gap depth ++ ['}']))))) := by simp [write]
      rw [text, List.foldl_cons, start, List.foldl_append,
        Lexer.foldl_step_blanks _ (blank (depth + 1)), foldl_step_name _ name, List.foldl_append,
        List.foldl_append]
      simpa [Document.intercalate_cons, List.flatMap_map, Document.fieldSpelling,
        fieldDocument] using closed

include blank in
/-- The text of a plain value spells its document. -/
theorem spells_of_isPlain {v : Value} (plain : v.IsPlain) : Spells gap v := by
  -- A run ends with the text or with the comma, blank or bracket behind it; so it is enough that
  -- the lexer yields the lexemes, and need not have found them.
  induction plain with
  | null => exact spells_of_run (fun _ => rfl) (List.cons_ne_nil _ _) (by decide) rfl
  | bool b =>
      cases b with
      | true => exact spells_of_run (fun _ => rfl) (List.cons_ne_nil _ _) (by decide) rfl
      | false => exact spells_of_run (fun _ => rfl) (List.cons_ne_nil _ _) (by decide) rfl
  | int n short =>
      exact spells_of_run (fun _ => rfl) (Lexer.signed_ne_nil n) (Lexer.all_isRunChar_signed n)
        (Lexer.runLexemes_signed n)
  | text points joined =>
      intro depth found
      rw [write, Lexer.foldl_step_writeText found joined]
      exact Lexer.yields_between _
  | list items each ih => exact spells_list blank ih
  | record fields nodup joined each ih => exact spells_record blank joined ih

include blank in
/-- The lexemes of a written value are those of its document. -/
theorem lexemes_write {v : Value} (plain : v.IsPlain) (depth : Nat) :
    lexemes (v.write gap depth) = v.document.lexemes := by
  rw [lexemes, (spells_of_isPlain blank plain depth []).1, List.append_nil, List.reverse_reverse]

end Gaps

theorem mem_blanks_of_mem_lineGap {depth : Nat} {c : Char} (member : c ∈ lineGap depth) :
    c ∈ Lexer.blanks := by
  rcases List.mem_cons.mp member with rfl | space
  · decide
  · rw [List.eq_of_mem_replicate space]
    decide

/-- A plain value is read back from its text. -/
theorem read_pretty {v : Value} (plain : v.IsPlain) : read v.pretty = .ok v :=
  read_eq_ok_iff.mpr ⟨v.document, lexemes_write (fun _ _ => mem_blanks_of_mem_lineGap) plain 0,
    long?_document plain, value_document plain⟩

end Value

end Reckoner.Json
