import Mathlib.Tactic
import Reckoner.Json.Value

/-!
# Fields put in order

Fields are put into a record one after the other. Its names are the ones that it had and then the
new ones, in the order in which they first come; the value of a name is the last one that it was
given. A record is told from others by its names in order and the value of each.
-/

namespace Reckoner.Json

/-- Puts fields in order; one whose name is there already changes the value there. -/
def putFields (fields later : List (CodePoints × Value)) : List (CodePoints × Value) :=
  later.foldl (fun fields field => putField fields field.1 field.2) fields

@[simp] theorem putFields_nil (fields : List (CodePoints × Value)) :
    putFields fields [] = fields := rfl

@[simp] theorem putFields_cons (fields : List (CodePoints × Value)) (field : CodePoints × Value)
    (later : List (CodePoints × Value)) :
    putFields fields (field :: later) = putFields (putField fields field.1 field.2) later := rfl

theorem putFields_append (fields first second : List (CodePoints × Value)) :
    putFields fields (first ++ second) = putFields (putFields fields first) second := by
  rw [putFields, List.foldl_append]
  rfl

/-! ## Names -/

/-- The names of fields, in order. -/
def names (fields : List (CodePoints × Value)) : List CodePoints := fields.map Prod.fst

@[simp] theorem names_nil : names [] = [] := rfl

@[simp] theorem names_cons (field : CodePoints × Value) (fields : List (CodePoints × Value)) :
    names (field :: fields) = field.1 :: names fields := rfl

@[simp] theorem names_append (fields others : List (CodePoints × Value)) :
    names (fields ++ others) = names fields ++ names others := List.map_append

theorem putField_of_notMem {fields : List (CodePoints × Value)} {key : CodePoints}
    (new : key ∉ names fields) (value : Value) :
    putField fields key value = fields ++ [(key, value)] := by
  induction fields with
  | nil => rfl
  | cons field fields ih =>
      obtain ⟨name, old⟩ := field
      rw [names_cons, List.mem_cons, not_or] at new
      rw [putField, if_neg (Ne.symm new.1), ih new.2, List.cons_append]

theorem names_putField_of_mem {fields : List (CodePoints × Value)} {key : CodePoints}
    (old : key ∈ names fields) (value : Value) :
    names (putField fields key value) = names fields := by
  induction fields with
  | nil => cases old
  | cons field fields ih =>
      obtain ⟨name, was⟩ := field
      by_cases same : name = key
      · rw [putField, if_pos same, names_cons, names_cons]
      · have member : key ∈ names fields := by simpa [Ne.symm same] using old
        rw [putField, if_neg same, names_cons, names_cons, ih member]

/-- The names are the old ones, then the new ones in the order in which they first come. -/
theorem names_putFields (fields later : List (CodePoints × Value)) :
    names (putFields fields later) =
      names fields ++ ((names later).filter (· ∉ names fields)).eraseDups := by
  induction later generalizing fields with
  | nil => simp
  | cons field later ih =>
      rw [putFields_cons, ih, names_cons]
      by_cases old : field.1 ∈ names fields
      · rw [names_putField_of_mem old, List.filter_cons_of_neg (by simpa using old)]
      · rw [putField_of_notMem old, List.filter_cons_of_pos (by simpa using old),
          List.eraseDups_cons, List.filter_filter, names_append, List.append_assoc]
        have others : (fun name => decide (name ∉ names fields ++ names [(field.1, field.2)])) =
            fun name => (!name == field.1) && decide (name ∉ names fields) := by
          funext name
          by_cases same : name = field.1 <;> simp [same]
        rw [others]
        rfl

theorem nodup_names_nil : (names []).Nodup := List.nodup_nil

theorem nodup_names_putFields {fields : List (CodePoints × Value)} (nodup : (names fields).Nodup)
    (later : List (CodePoints × Value)) : (names (putFields fields later)).Nodup := by
  induction later generalizing fields with
  | nil => exact nodup
  | cons field later ih =>
      rw [putFields_cons]
      apply ih
      by_cases old : field.1 ∈ names fields
      · rwa [names_putField_of_mem old]
      · rw [putField_of_notMem old, names_append]
        exact nodup.append (List.nodup_singleton _) (by simpa using old)

theorem mem_putField {fields : List (CodePoints × Value)} {key : CodePoints} {value : Value}
    {field : CodePoints × Value} (member : field ∈ putField fields key value) :
    field ∈ fields ∨ field = (key, value) := by
  induction fields with
  | nil => exact .inr (List.mem_singleton.mp member)
  | cons first fields ih =>
      obtain ⟨name, old⟩ := first
      by_cases same : name = key
      · rw [putField, if_pos same, List.mem_cons] at member
        rcases member with rfl | member
        · exact .inr (by rw [same])
        · exact .inl (List.mem_cons_of_mem _ member)
      · rw [putField, if_neg same, List.mem_cons] at member
        rcases member with rfl | member
        · exact .inl (by simp)
        · exact (ih member).imp_left (List.mem_cons_of_mem _)

/-- Every field is one that was there or that was put. -/
theorem mem_putFields {fields later : List (CodePoints × Value)} {field : CodePoints × Value}
    (member : field ∈ putFields fields later) : field ∈ fields ∨ field ∈ later := by
  induction later generalizing fields with
  | nil => exact .inl member
  | cons first later ih =>
      rcases ih member with member | member
      · rcases mem_putField member with old | rfl
        · exact .inl old
        · exact .inr List.mem_cons_self
      · exact .inr (List.mem_cons_of_mem _ member)

/-- Fields with a name each are put behind the ones that are there. -/
theorem putFields_of_nodup {fields later : List (CodePoints × Value)}
    (nodup : (names (fields ++ later)).Nodup) : putFields fields later = fields ++ later := by
  induction later generalizing fields with
  | nil => simp
  | cons field later ih =>
      have new : field.1 ∉ names fields := by
        intro member
        rw [names_append] at nodup
        exact List.disjoint_of_nodup_append nodup member (by simp)
      rw [List.append_cons] at nodup ⊢
      rw [putFields_cons, putField_of_notMem new, ih nodup]

/-! ## Values -/

theorem lookup_cons_eq_ite (field : CodePoints × Value) (fields : List (CodePoints × Value))
    (name : CodePoints) :
    (field :: fields).lookup name =
      if name = field.1 then some field.2 else fields.lookup name := by
  rw [List.lookup_cons]
  by_cases same : name = field.1
  · rw [if_pos same, beq_iff_eq.mpr same]
  · rw [if_neg same, beq_eq_false_iff_ne.mpr same]

theorem lookup_putField (fields : List (CodePoints × Value)) (key : CodePoints) (value : Value)
    (name : CodePoints) :
    (putField fields key value).lookup name =
      if name = key then some value else fields.lookup name := by
  induction fields with
  | nil => exact lookup_cons_eq_ite (key, value) [] name
  | cons field fields ih =>
      obtain ⟨other, old⟩ := field
      by_cases first : other = key
      · subst first
        rw [putField, if_pos rfl, lookup_cons_eq_ite, lookup_cons_eq_ite]
        split <;> rfl
      · rw [putField, if_neg first, lookup_cons_eq_ite, lookup_cons_eq_ite, ih]
        by_cases same : name = other
        · rw [if_pos same, if_pos same, if_neg (same ▸ first)]
        · rw [if_neg same, if_neg same]

/-- The value of a name is the last one that it was given. -/
theorem lookup_putFields (fields later : List (CodePoints × Value)) (name : CodePoints) :
    (putFields fields later).lookup name =
      (later.reverse.lookup name).or (fields.lookup name) := by
  induction later generalizing fields with
  | nil => rfl
  | cons field later ih =>
      rw [putFields_cons, ih, lookup_putField, List.reverse_cons, List.lookup_append,
        Option.or_assoc, lookup_cons_eq_ite]
      by_cases same : name = field.1
      · rw [if_pos same, if_pos same]
        rfl
      · rw [if_neg same, if_neg same]
        rfl

theorem lookup_eq_none_of_notMem {fields : List (CodePoints × Value)} {name : CodePoints}
    (missing : name ∉ names fields) : fields.lookup name = none := by
  rw [List.lookup_eq_none_iff]
  intro field member
  have other : name ≠ field.1 := fun same => missing (same ▸ List.mem_map_of_mem member)
  simpa using other

/-- Names in order and their values leave one list of fields. -/
theorem eq_of_lookup_eq {fields others : List (CodePoints × Value)}
    (same : names fields = names others) (nodup : (names fields).Nodup)
    (values : ∀ name, fields.lookup name = others.lookup name) : fields = others := by
  induction fields generalizing others with
  | nil => exact (List.map_eq_nil_iff.mp same.symm).symm
  | cons field fields ih =>
      obtain _ | ⟨other, others⟩ := others
      · cases same
      · rw [names_cons, names_cons, List.cons.injEq] at same
        obtain ⟨heads, tails⟩ := same
        rw [names_cons, List.nodup_cons] at nodup
        simp only [lookup_cons_eq_ite] at values
        have first : field.2 = other.2 := by simpa [heads] using values field.1
        have rest : fields = others := by
          apply ih tails nodup.2
          intro key
          by_cases here : key = field.1
          · rw [here, lookup_eq_none_of_notMem nodup.1,
              lookup_eq_none_of_notMem (tails ▸ nodup.1)]
          · simpa [here, heads ▸ here] using values key
        rw [rest, Prod.ext heads first]

/-- With a name each it does not matter from which end a value is looked up. -/
theorem lookup_reverse_of_nodup {fields : List (CodePoints × Value)} (nodup : (names fields).Nodup)
    (name : CodePoints) : fields.reverse.lookup name = fields.lookup name := by
  induction fields with
  | nil => rfl
  | cons field fields ih =>
      rw [names_cons, List.nodup_cons] at nodup
      rw [List.reverse_cons, List.lookup_append, ih nodup.2, lookup_cons_eq_ite, lookup_cons_eq_ite]
      by_cases first : name = field.1
      · rw [if_pos first, if_pos first, first, lookup_eq_none_of_notMem nodup.1]
        rfl
      · rw [if_neg first, if_neg first]
        exact Option.or_none

/-- With a name each the value of a name is the one that stands with it. -/
theorem lookup_eq_some_iff_of_nodup {fields : List (CodePoints × Value)}
    (nodup : (names fields).Nodup) {name : CodePoints} {value : Value} :
    fields.lookup name = some value ↔ (name, value) ∈ fields := by
  induction fields with
  | nil => simp
  | cons field fields ih =>
      rw [names_cons, List.nodup_cons] at nodup
      rw [lookup_cons_eq_ite, List.mem_cons]
      by_cases first : name = field.1
      · have others : (name, value) ∉ fields := fun member =>
          nodup.1 (first ▸ List.mem_map_of_mem (f := Prod.fst) member)
        simp [first, Prod.ext_iff, eq_comm, first ▸ others]
      · simp [first, Prod.ext_iff, ih nodup.2]

/-! ## Putting twice -/

/-- What comes more than once is left out before and after a selection alike. -/
theorem eraseDups_filter_eraseDups (p : CodePoints → Bool) (keys : List CodePoints) :
    (keys.eraseDups.filter p).eraseDups = (keys.filter p).eraseDups := by
  induction size : keys.length using Nat.strongRecOn generalizing keys p with
  | _ length ih =>
      cases keys with
      | nil => rfl
      | cons key keys =>
          have shorter : (keys.filter fun other => !other == key).length < length := by
            rw [← size, List.length_cons]
            exact Nat.lt_succ_of_le (List.length_filter_le _ _)
          rw [List.eraseDups_cons]
          by_cases chosen : p key = true
          · rw [List.filter_cons_of_pos chosen, List.filter_cons_of_pos chosen,
              List.eraseDups_cons, List.eraseDups_cons, List.filter_filter]
            rw [ih _ shorter _ _ rfl, List.filter_filter, List.filter_filter]
            congr 2
            refine List.filter_congr fun other _ => ?_
            cases other == key <;> cases p other <;> rfl
          · rw [List.filter_cons_of_neg chosen, List.filter_cons_of_neg chosen,
              ih _ shorter _ _ rfl, List.filter_filter]
            congr 1
            refine List.filter_congr fun other _ => ?_
            by_cases same : other = key
            · simpa [same] using chosen
            · simp [same]

/-- Fields that were put over a part of a record are put over the record as they were. -/
theorem putFields_putFields_of_subset {fields part : List (CodePoints × Value)}
    (nodup : (names fields).Nodup) (nodupPart : (names part).Nodup) (within : part ⊆ fields)
    (later : List (CodePoints × Value)) :
    putFields fields (putFields part later) = putFields fields later := by
  apply eq_of_lookup_eq
  · have old : (names part).filter (fun name => decide (name ∉ names fields)) = [] := by
      rw [List.filter_eq_nil_iff]
      intro name member
      have inside : name ∈ names fields := List.map_subset Prod.fst within member
      simp [inside]
    have new : (fun name => decide (name ∉ names fields) && decide (name ∉ names part)) =
        fun name => decide (name ∉ names fields) := by
      funext name
      by_cases member : name ∈ names fields
      · simp [member]
      · have outside : name ∉ names part := fun inside =>
          member (List.map_subset Prod.fst within inside)
        simp [member, outside]
    rw [names_putFields, names_putFields, names_putFields, List.filter_append, old,
      List.nil_append, eraseDups_filter_eraseDups, List.filter_filter, new]
  · exact nodup_names_putFields nodup _
  · intro name
    have agree : (part.lookup name).or (fields.lookup name) = fields.lookup name := by
      cases found : part.lookup name with
      | none => rfl
      | some value =>
          have member := within ((lookup_eq_some_iff_of_nodup nodupPart).mp found)
          rw [(lookup_eq_some_iff_of_nodup nodup).mpr member]
          rfl
    rw [lookup_putFields, lookup_putFields,
      lookup_reverse_of_nodup (nodup_names_putFields nodupPart later), lookup_putFields,
      Option.or_assoc, agree]

end Reckoner.Json
