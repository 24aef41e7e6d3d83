import Mathlib.Tactic
import Reckoner.Proofs.Json.Document

/-!
# Reading documents

A text is read to a value exactly when its lexemes are those of a document without an over-long
number, and the value is the document's. The document's lexemes are read one item and one field
after the other, by induction on documents. The other way round, every lexeme that is read adds to
what is spelled of the lists and records that are still open, and a value that is complete has been
spelled as a whole.
-/

namespace Reckoner.Json

open Document

namespace Reading

/-! ## Documents are read -/

theorem step_awaitValue (stack : List Frame) (mayClose : Bool) (lexeme : Lexeme)
    (opens : lexeme ≠ .closeList) :
    (awaitValue stack mayClose).step lexeme = readValue stack lexeme := by
  unfold step
  split <;> simp_all

theorem run_awaitValue (stack : List Frame) (mayClose : Bool) (rest : List Lexeme)
    (lexeme : Lexeme) (opens : lexeme ≠ .closeList) :
    (awaitValue stack mayClose).run (lexeme :: rest) =
      (readValue stack lexeme).bind fun reading => reading.run rest := by
  rw [run, step_awaitValue stack mayClose lexeme opens]
  cases readValue stack lexeme <;> rfl

/-- Reads on behind a document, unless it has a number that is too long. -/
def resume (long? : Option Nat) (reading : Reading) (rest : List Lexeme) :
    Except ReadError Value :=
  match long? with
  | some digits => .error (.longInteger digits)
  | none => reading.run rest

/-- Whether the lexemes of a document hand its value to what is open. -/
def Delivers (d : Document) : Prop :=
  ∀ stack mayClose rest, (awaitValue stack mayClose).run (d.lexemes ++ rest) =
    resume d.long? (deliver d.value stack) rest

theorem run_items {items : List Document} (each : ∀ item ∈ items, Delivers item)
    (done : List Value) (stack : List Frame) (rest : List Lexeme) :
    (awaitMore (.items done :: stack)).run
        (items.flatMap (fun item => .comma :: item.lexemes) ++ .closeList :: rest) =
      resume (itemsLong? items) (deliver (.list (done.reverse ++ itemValues items)) stack)
        rest := by
  induction items generalizing done with
  | nil => simp [itemsLong?, itemValues, resume, run, step]
  | cons item items ih =>
      obtain ⟨first, others⟩ := List.forall_mem_cons.mp each
      simp only [List.flatMap_cons, List.cons_append, List.append_assoc, run, step]
      rw [first]
      cases long : item.long? with
      | some digits =>
          rw [itemsLong?, long]
          rfl
      | none =>
          have values : done.reverse ++ item.value :: itemValues items =
              (item.value :: done).reverse ++ itemValues items := by simp
          rw [itemsLong?, long, itemValues, values]
          exact ih others _

theorem run_fields {fields : List (CodePoints × Document)}
    (each : ∀ field ∈ fields, Delivers field.2) (done : List (CodePoints × Value))
    (stack : List Frame) (rest : List Lexeme) :
    (awaitMore (.fields done :: stack)).run
        (fields.flatMap (fun field => .comma :: fieldSpelling field) ++ .closeRecord :: rest) =
      resume (fieldsLong? fields) (deliver (.record (putFields done (fieldValues fields))) stack)
        rest := by
  induction fields generalizing done with
  | nil => simp [fieldsLong?, fieldValues, putFields, resume, run, step]
  | cons field fields ih =>
      obtain ⟨first, others⟩ := List.forall_mem_cons.mp each
      simp only [List.flatMap_cons, fieldSpelling, List.cons_append, List.append_assoc, run, step]
      rw [first]
      cases long : field.2.long? with
      | some digits =>
          rw [fieldsLong?, long]
          rfl
      | none =>
          rw [fieldsLong?, long]
          exact ih others _

/-- A document of one lexeme hands over the value that is read from it. -/
theorem delivers_of_readValue {d : Document} {lexeme : Lexeme} (spelled : d.lexemes = [lexeme])
    (short : d.long? = none) (opens : lexeme ≠ .closeList)
    (reads : ∀ stack, readValue stack lexeme = .ok (deliver d.value stack)) : Delivers d := by
  intro stack mayClose rest
  rw [spelled, List.singleton_append, run_awaitValue stack mayClose rest lexeme opens, reads,
    short]
  rfl

theorem delivers_int (negative : Bool) (digits : List Char) :
    Delivers (.int negative digits) := by
  intro stack mayClose rest
  rw [Document.lexemes, List.singleton_append,
    run_awaitValue stack mayClose rest (.int negative digits) (by simp), readValue, long?]
  by_cases long : digitLimit < digits.length
  · rw [if_pos long, if_pos long]
    rfl
  · rw [if_neg long, if_neg long]
    rfl

theorem delivers_list {items : List Document} (each : ∀ item ∈ items, Delivers item) :
    Delivers (.list items) := by
  intro stack mayClose rest
  rw [Document.lexemes, itemLexemes_eq_map, long?, value, List.cons_append,
    run_awaitValue stack mayClose _ .openList (by simp), readValue]
  cases items with
  | nil => rfl
  | cons item items =>
      obtain ⟨first, others⟩ := List.forall_mem_cons.mp each
      simp only [List.map_cons, intercalate_cons, List.flatMap_map, List.append_assoc]
      rw [itemsLong?, itemValues]
      refine (first (.items [] :: stack) true _).trans ?_
      cases long : item.long? with
      | some digits => rfl
      | none => exact run_items others [item.value] stack rest

theorem delivers_record {fields : List (CodePoints × Document)}
    (each : ∀ field ∈ fields, Delivers field.2) : Delivers (.record fields) := by
  intro stack mayClose rest
  rw [Document.lexemes, fieldLexemes_eq_map, long?, value, List.cons_append,
    run_awaitValue stack mayClose _ .openRecord (by simp), readValue]
  cases fields with
  | nil => rfl
  | cons field fields =>
      obtain ⟨first, others⟩ := List.forall_mem_cons.mp each
      simp only [List.map_cons, intercalate_cons, List.flatMap_map, List.append_assoc]
      rw [fieldsLong?, fieldValues]
      refine (first (.entry [] field.1 :: stack) false _).trans ?_
      cases long : field.2.long? with
      | some digits => rfl
      | none => exact run_fields others [(field.1, field.2.value)] stack rest

/-- Every document hands its value to what is open. -/
theorem delivers (d : Document) : Delivers d := by
  induction d using Document.nested with
  | null => exact delivers_of_readValue rfl rfl (by simp) fun _ => rfl
  | bool b => exact delivers_of_readValue rfl rfl (by simp) fun _ => rfl
  | int negative digits => exact delivers_int negative digits
  | float x => exact delivers_of_readValue rfl rfl (by simp) fun _ => rfl
  | text points => exact delivers_of_readValue rfl rfl (by simp) fun _ => rfl
  | list items each => exact delivers_list each
  | record fields each => exact delivers_record each

/-! ## What is read is a document -/

/-- The lexemes of parts with a comma behind each of them. -/
def leading (parts : List (List Lexeme)) : List Lexeme := parts.flatMap (· ++ [.comma])

theorem leading_map_append_singleton {α : Type} (f : α → List Lexeme) (xs : List α) (x : α) :
    leading ((xs ++ [x]).map f) = leading (xs.map f) ++ f x ++ [.comma] := by
  simp [leading]

/-- The lexemes that opened a stack and stand before the value that comes next. -/
inductive Opened : List Frame → List Lexeme → Prop
  | nothing : Opened [] []
  | items {stack : List Frame} {before : List Lexeme} (outer : Opened stack before)
      (items : List Document) (short : ∀ item ∈ items, item.long? = none) :
      Opened (.items (items.map value).reverse :: stack)
        (before ++ .openList :: leading (items.map Document.lexemes))
  | entry {stack : List Frame} {before : List Lexeme} (outer : Opened stack before)
      (fields : List (CodePoints × Document)) (short : ∀ field ∈ fields, field.2.long? = none)
      (name : CodePoints) :
      Opened (.entry (putFields [] (fields.map fieldValue)) name :: stack)
        (before ++ .openRecord :: (leading (fields.map fieldSpelling) ++ [.text name, .colon]))

/-- The lexemes that led to a reading. -/
inductive Spelled : Reading → List Lexeme → Prop
  | awaitValue {stack : List Frame} {before : List Lexeme} (opened : Opened stack before)
      (mayClose : Bool) : Spelled (.awaitValue stack mayClose) before
  | awaitName {stack : List Frame} {before : List Lexeme} (outer : Opened stack before)
      (fields : List (CodePoints × Document)) (short : ∀ field ∈ fields, field.2.long? = none)
      (mayClose : Bool) (first : mayClose = true → fields = []) :
      Spelled (.awaitName stack (putFields [] (fields.map fieldValue)) mayClose)
        (before ++ .openRecord :: leading (fields.map fieldSpelling))
  | awaitColon {stack : List Frame} {before : List Lexeme} (outer : Opened stack before)
      (fields : List (CodePoints × Document)) (short : ∀ field ∈ fields, field.2.long? = none)
      (name : CodePoints) :
      Spelled (.awaitColon stack (putFields [] (fields.map fieldValue)) name)
        (before ++ .openRecord :: (leading (fields.map fieldSpelling) ++ [.text name]))
  | moreItems {stack : List Frame} {before : List Lexeme} (outer : Opened stack before)
      (items : List Document) (short : ∀ item ∈ items, item.long? = none) (item : Document)
      (last : item.long? = none) :
      Spelled (.awaitMore (.items ((items ++ [item]).map value).reverse :: stack))
        (before ++ .openList :: (leading (items.map Document.lexemes) ++ item.lexemes))
  | moreFields {stack : List Frame} {before : List Lexeme} (outer : Opened stack before)
      (fields : List (CodePoints × Document)) (short : ∀ field ∈ fields, field.2.long? = none)
      (field : CodePoints × Document) (last : field.2.long? = none) :
      Spelled (.awaitMore (.fields (putFields [] ((fields ++ [field]).map fieldValue)) :: stack))
        (before ++ .openRecord :: (leading (fields.map fieldSpelling) ++ fieldSpelling field))
  | whole (d : Document) (short : d.long? = none) : Spelled (.whole d.value) d.lexemes

variable {stack : List Frame} {before : List Lexeme} {lexeme : Lexeme} {reading next : Reading}

/-- A document that is handed over is spelled with what stood before it. -/
theorem spelled_deliver (opened : Opened stack before) (d : Document) (short : d.long? = none) :
    Spelled (deliver d.value stack) (before ++ d.lexemes) := by
  cases opened with
  | nothing => exact .whole d short
  | items outer items shorts =>
      have more := Spelled.moreItems outer items shorts d short
      rw [List.map_append, List.reverse_append] at more
      rw [List.append_assoc, List.cons_append]
      exact more
  | entry outer fields shorts name =>
      have more := Spelled.moreFields outer fields shorts (name, d) short
      rw [List.map_append, putFields_append] at more
      rw [List.append_assoc, List.cons_append, List.append_assoc]
      exact more

theorem spelled_readValue (opened : Opened stack before)
    (read : readValue stack lexeme = .ok next) : Spelled next (before ++ [lexeme]) := by
  cases lexeme with
  | null =>
      cases read
      exact spelled_deliver opened .null rfl
  | bool b =>
      cases read
      exact spelled_deliver opened (.bool b) rfl
  | int negative digits =>
      rw [readValue] at read
      by_cases long : digitLimit < digits.length
      · rw [if_pos long] at read
        cases read
      · rw [if_neg long] at read
        cases read
        exact spelled_deliver opened (.int negative digits) (if_neg long)
  | float x =>
      cases read
      exact spelled_deliver opened (.float x) rfl
  | text points =>
      cases read
      exact spelled_deliver opened (.text points) rfl
  | openList =>
      cases read
      exact .awaitValue (.items opened [] nofun) true
  | openRecord =>
      cases read
      exact .awaitName opened [] nofun true fun _ => rfl
  | _ => cases read

/-- A list that closes where its first item may stand is empty. -/
theorem spelled_closeList {mayClose : Bool} (opened : Opened stack before)
    (read : (awaitValue stack mayClose).step .closeList = .ok next) :
    Spelled next (before ++ [.closeList]) := by
  cases opened with
  | nothing => cases mayClose <;> cases read
  | entry outer fields short name => cases mayClose <;> cases read
  | items outer items short =>
      cases items using List.reverseRecOn with
      | nil =>
          cases mayClose with
          | false => cases read
          | true =>
              cases read
              rw [List.append_assoc]
              exact spelled_deliver outer (.list []) rfl
      | append_singleton items item =>
          rw [List.map_append, List.reverse_append] at read
          cases mayClose <;> cases read

section Open

/-! Where a list or a record is open, `outer` is what it stands in. -/

variable (outer : Opened stack before)

include outer

/-- Where a name may come, a record that has none may also end. -/
theorem spelled_awaitName {fields : List (CodePoints × Document)}
    (short : ∀ field ∈ fields, field.2.long? = none) {mayClose : Bool}
    (first : mayClose = true → fields = [])
    (read : (awaitName stack (putFields [] (fields.map fieldValue)) mayClose).step lexeme =
      .ok next) :
    Spelled next (before ++ .openRecord :: (leading (fields.map fieldSpelling) ++ [lexeme])) := by
  cases lexeme with
  | text name =>
      have next := Spelled.awaitColon outer fields short name
      cases mayClose <;> cases read <;> exact next
  | closeRecord =>
      cases mayClose with
      | false => cases read
      | true =>
          cases read
          rw [first rfl]
          exact spelled_deliver outer (.record []) rfl
  | _ => cases mayClose <;> cases read

/-- Behind an item a list goes on or ends. -/
theorem spelled_moreItems {items : List Document} (short : ∀ item ∈ items, item.long? = none)
    {item : Document} (last : item.long? = none)
    (read : (awaitMore (.items ((items ++ [item]).map value).reverse :: stack)).step lexeme =
      .ok next) :
    Spelled next (before ++ .openList ::
      (leading (items.map Document.lexemes) ++ item.lexemes ++ [lexeme])) := by
  have shorts : ∀ other ∈ items ++ [item], other.long? = none :=
    List.forall_mem_append.mpr ⟨short, List.forall_mem_singleton.mpr last⟩
  cases lexeme with
  | comma =>
      cases read
      rw [← leading_map_append_singleton]
      exact .awaitValue (.items outer (items ++ [item]) shorts) false
  | closeList =>
      cases read
      -- The brackets and what stands between them are a document by themselves.
      have closed := spelled_deliver outer (.list (items ++ [item]))
        (itemsLong?_eq_none_iff.mpr shorts)
      rw [Document.lexemes, value, itemLexemes_eq_map, itemValues_eq_map,
        intercalate_map_append_singleton] at closed
      rw [List.reverse_reverse]
      exact closed
  | _ => cases read

/-- Behind a field a record goes on or ends. -/
theorem spelled_moreFields {fields : List (CodePoints × Document)}
    (short : ∀ field ∈ fields, field.2.long? = none) {field : CodePoints × Document}
    (last : field.2.long? = none)
    (read : (awaitMore (.fields (putFields [] ((fields ++ [field]).map fieldValue)) ::
      stack)).step lexeme = .ok next) :
    Spelled next (before ++ .openRecord ::
      (leading (fields.map fieldSpelling) ++ fieldSpelling field ++ [lexeme])) := by
  have shorts : ∀ other ∈ fields ++ [field], other.2.long? = none :=
    List.forall_mem_append.mpr ⟨short, List.forall_mem_singleton.mpr last⟩
  cases lexeme with
  | comma =>
      cases read
      rw [← leading_map_append_singleton]
      exact .awaitName outer (fields ++ [field]) shorts false nofun
  | closeRecord =>
      cases read
      have closed := spelled_deliver outer (.record (fields ++ [field]))
        (fieldsLong?_eq_none_iff.mpr shorts)
      rw [Document.lexemes, value, fieldLexemes_eq_map, fieldValues_eq_map,
        intercalate_map_append_singleton] at closed
      exact closed
  | _ => cases read

end Open

/-- A lexeme that is read adds to what is spelled. -/
theorem spelled_step (spelled : Spelled reading before) (read : reading.step lexeme = .ok next) :
    Spelled next (before ++ [lexeme]) := by
  cases spelled with
  | @awaitValue stack before opened mayClose =>
      by_cases closes : lexeme = .closeList
      · -- Only the list that was opened last can close here, and only at its start.
        subst closes
        exact spelled_closeList opened read
      · rw [step_awaitValue stack mayClose lexeme closes] at read
        exact spelled_readValue opened read
  | awaitName outer fields short mayClose first =>
      rw [List.append_assoc]
      exact spelled_awaitName outer short first read
  | awaitColon outer fields short name =>
      cases lexeme with
      | colon =>
          cases read
          rw [List.append_assoc, List.cons_append, List.append_assoc]
          exact .awaitValue (.entry outer fields short name) false
      | _ => cases read
  | moreItems outer items short item last =>
      rw [List.append_assoc]
      exact spelled_moreItems outer short last read
  | moreFields outer fields short field last =>
      rw [List.append_assoc]
      exact spelled_moreFields outer short last read
  | whole d short => cases read

/-- A run that comes to a value has read the lexemes of a document. -/
theorem exists_document_of_run {rest : List Lexeme} {v : Value} (spelled : Spelled reading before)
    (read : reading.run rest = .ok v) :
    ∃ d : Document, before ++ rest = d.lexemes ∧ d.long? = none ∧ d.value = v := by
  induction rest generalizing reading before with
  | nil =>
      cases spelled with
      | whole d short =>
          cases read
          exact ⟨d, List.append_nil _, short, rfl⟩
      | _ => cases read
  | cons lexeme rest ih =>
      rw [run] at read
      cases stepped : reading.step lexeme with
      | error e =>
          rw [stepped] at read
          cases read
      | ok next =>
          rw [stepped] at read
          rw [List.append_cons]
          exact ih (spelled_step spelled stepped) read

end Reading

/-- A text that spells a document is read to its value, unless it has a number that is too long. -/
theorem read_of_lexemes {cs : List Char} {d : Document} (spelled : lexemes cs = d.lexemes) :
    read cs = match d.long? with
      | some digits => .error (.longInteger digits)
      | none => .ok d.value := by
  rw [read, spelled, ← List.append_nil d.lexemes, Reading.delivers d]
  cases d.long? <;> rfl

/-- A text is read to a value exactly when it spells a document of that value, and none of its
numbers is too long. -/
theorem read_eq_ok_iff {cs : List Char} {v : Value} :
    read cs = .ok v ↔ ∃ d : Document, lexemes cs = d.lexemes ∧ d.long? = none ∧ d.value = v := by
  constructor
  · exact fun read => Reading.exists_document_of_run (.awaitValue .nothing false) read
  · rintro ⟨d, spelled, short, rfl⟩
    rw [read_of_lexemes spelled, short]

end Reckoner.Json
