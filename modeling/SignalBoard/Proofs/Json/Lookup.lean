/-
# Looking keys up in documents

What a key has after a document was built from fields, after a value was assigned to a key, and
after one document was laid over another. An assignment fails only where there are no keys, so
on objects it is a function of the document.
-/

import SignalBoard.Json.Basic
import SignalBoard.Proofs.Table.Order

namespace SignalBoard.Json

/-- The document with a value assigned to a key. Only an object has keys. -/
def withField (document : Json) (key : String) (value : Json) : Json :=
  match document with
  | obj fields => obj (Table.insert key value fields)
  | other => other

/-- An object in which no key occurs twice. -/
def IsRecord : Json → Prop
  | obj fields => (fields.map Prod.fst).Nodup
  | _ => False

/-- A value that has a key is an object. -/
theorem isObject_of_get? {document value : Json} {key : String}
    (found : document.get? key = some value) : document.isObject = true := by
  cases document <;> simp_all [get?, isObject]

/-- Assigning to an object does not fail. -/
theorem assign_eq {document : Json} (object : document.isObject = true) (key : String)
    (value : Json) : document.assign key value = .ok (document.withField key value) := by
  cases document <;> simp_all [isObject, assign, withField]

@[simp] theorem isObject_withField (document : Json) (key : String) (value : Json) :
    (document.withField key value).isObject = document.isObject := by
  cases document <;> rfl

/-- Looking a key up after an assignment. -/
theorem get?_withField {document : Json} (object : document.isObject = true)
    (key other : String) (value : Json) :
    (document.withField key value).get? other =
      if other = key then some value else document.get? other := by
  cases document <;> simp_all [isObject, withField, get?, Table.get?_insert]

/-- A key has what was assigned to it. -/
theorem get?_of_assign {document changed value : Json} {key : String}
    (assigned : document.assign key value = .ok changed) : changed.get? key = some value := by
  cases document with
  | null =>
      obtain rfl : obj [(key, value)] = changed := by simpa [assign] using assigned
      simp [get?, Table.get?]
  | obj fields =>
      rw [assign_eq rfl] at assigned
      obtain rfl := Except.ok.inj assigned
      rw [get?_withField rfl, if_pos rfl]
  | _ => simp [assign] at assigned

/-- An assignment leaves the other keys alone. -/
theorem get?_of_assign_of_ne {document changed value : Json} {key other : String}
    (assigned : document.assign key value = .ok changed) (different : other ≠ key) :
    changed.get? other = document.get? other := by
  cases document with
  | null =>
      obtain rfl : obj [(key, value)] = changed := by simpa [assign] using assigned
      simp [get?, Table.get?, Ne.symm different]
  | obj fields =>
      rw [assign_eq rfl] at assigned
      obtain rfl := Except.ok.inj assigned
      rw [get?_withField rfl, if_neg different]
  | _ => simp [assign] at assigned

/-- What a key has is what its look-up gives, or `null`. -/
theorem field_of_get? {document value : Json} {key : String}
    (found : document.get? key = some value) : document.field key = value := by
  simp [field, found]

/-- The text that a key has. -/
theorem string?_field (document : Json) (key : String) :
    (document.field key).string? = (document.get? key).bind string? := by
  rw [field]
  cases document.get? key <;> rfl

/-- A record is an object. -/
theorem IsRecord.isObject {document : Json} (record : document.IsRecord) :
    document.isObject = true := by
  cases document <;> simp_all [IsRecord, Json.isObject]

/-- Anything that an object is laid over becomes an object. -/
theorem isObject_overlay {upper : Json} (object : upper.isObject = true) (base : Json) :
    (base.overlay upper).isObject = true := by
  cases upper <;> cases base <;> simp_all [isObject, overlay]

/-- Looking a key up after a record was laid over an object. -/
theorem get?_overlay {base upper : Json} (object : base.isObject = true)
    (record : upper.IsRecord) (key : String) :
    (base.overlay upper).get? key = (upper.get? key).or (base.get? key) := by
  cases base <;> cases upper <;> simp_all [isObject, IsRecord, overlay, get?]
  exact Table.get?_insertAll record _ key

/-- Assigns a field that has a value. -/
def putField (done : Table Json) (field : String × Option Json) : Table Json :=
  match field.2 with
  | some value => done.insert field.1 value
  | none => done

/-- A record is built field by field. -/
theorem record_eq (fields : List (String × Option Json)) :
    record fields = obj (fields.foldl putField []) := rfl

/-- Looking a key up in the fields that have a value, put after others. -/
private theorem get?_foldl_putField {fields : List (String × Option Json)}
    (once : (fields.map Prod.fst).Nodup) (done : Table Json) (key : String) :
    (fields.foldl putField done).get? key =
      ((Table.get? key fields).join).or (done.get? key) := by
  induction fields generalizing done with
  | nil => simp [Table.get?]
  | cons entry rest ih =>
      obtain ⟨k, v⟩ := entry
      rw [List.map_cons, List.nodup_cons] at once
      rw [List.foldl_cons, ih once.2]
      by_cases same : key = k
      · subst same
        cases v <;> simp [putField, Table.get?, Table.get?_eq_none once.1]
      · cases v <;> simp [putField, Table.get?, Ne.symm same, Table.get?_insert, same]

/-- Looking a key up in a record that was built from fields, no key twice. -/
theorem get?_record {fields : List (String × Option Json)}
    (once : (fields.map Prod.fst).Nodup) (key : String) :
    (record fields).get? key = (Table.get? key fields).join := by
  refine (get?_foldl_putField once [] key).trans ?_
  simp [Table.get?]

/-- The fields that have a value ascend when they are put into an ordered table. -/
private theorem ordered_foldl_putField (fields : List (String × Option Json)) {done : Table Json}
    (ordered : done.Ordered) : Table.Ordered (fields.foldl putField done) := by
  induction fields generalizing done with
  | nil => exact ordered
  | cons entry rest ih =>
      obtain ⟨k, v⟩ := entry
      cases v with
      | none => exact ih ordered
      | some v => exact ih (ordered.insert k v)

/-- An object whose keys ascend. -/
def Sorted : Json → Prop
  | obj fields => Table.Ordered fields
  | _ => False

/-- The keys of a document built from fields ascend. -/
theorem sorted_record (fields : List (String × Option Json)) : (record fields).Sorted :=
  ordered_foldl_putField fields Table.ordered_nil

namespace Sorted

variable {document value : Json} {key : String}

/-- Ascending keys occur once each. -/
theorem isRecord (sorted : document.Sorted) : document.IsRecord := by
  cases document with
  | obj fields => exact Table.Ordered.nodup sorted
  | _ => cases sorted

/-- Assigning keeps the keys ascending. -/
theorem withField (sorted : document.Sorted) (key : String) (value : Json) :
    (document.withField key value).Sorted := by
  cases document with
  | obj fields => exact Table.Ordered.insert sorted key value
  | _ => cases sorted

/-- Assigning what a document has changes nothing. -/
theorem withField_of_get? (sorted : document.Sorted) (found : document.get? key = some value) :
    document.withField key value = document := by
  cases document with
  | obj fields => exact congrArg obj (Table.Ordered.insert_of_get? sorted found)
  | _ => cases sorted

/-- Laying a document over itself changes nothing. -/
theorem overlay_self (sorted : document.Sorted) : document.overlay document = document := by
  cases document with
  | obj fields =>
      apply congrArg obj
      apply Table.Ordered.insertAll_of_get? sorted
      intro entry member
      exact (Table.Ordered.mem_iff sorted).mp member
  | _ => cases sorted

end Sorted

/-- A document built from fields is a record. -/
theorem isRecord_record (fields : List (String × Option Json)) : (record fields).IsRecord :=
  (sorted_record fields).isRecord

/-- The object has the identifier, and assigning it once more changes nothing. Where a table is
not ordered this says more than that the identifier is found. -/
def Stamped (id : String) (document : Json) : Prop :=
  document.isObject = true ∧ document.withField "id" (.str id) = document

namespace Stamped

variable {id key : String} {document changed value : Json}

/-- An object that was just given an identifier has it. -/
theorem withField_id (object : document.isObject = true) (id : String) :
    (document.withField "id" (.str id)).Stamped id := by
  refine ⟨by simpa, ?_⟩
  cases document <;> simp [withField, Table.insert_insert]

/-- The identifier of a document stays when another key is assigned. -/
theorem of_assign (stamped : document.Stamped id) (other : key ≠ "id")
    (assigned : document.assign key value = .ok changed) : changed.Stamped id := by
  obtain ⟨object, same⟩ := stamped
  rw [assign_eq object] at assigned
  obtain rfl := Except.ok.inj assigned
  refine ⟨by simpa, ?_⟩
  cases document with
  | obj fields =>
      simp only [withField, obj.injEq] at same ⊢
      rw [Table.insert_comm other, same]
  | _ => cases object

/-- A document that an identifier can be assigned to has it then. -/
theorem of_assign_id (assigned : document.assign "id" (.str id) = .ok changed) :
    changed.Stamped id := by
  cases document with
  | null =>
      obtain rfl : obj [("id", .str id)] = changed := by simpa [assign] using assigned
      exact ⟨rfl, by simp [withField]⟩
  | obj fields =>
      rw [assign_eq rfl] at assigned
      obtain rfl := Except.ok.inj assigned
      exact withField_id rfl id
  | _ => simp [assign] at assigned

theorem get?_id (stamped : document.Stamped id) : document.get? "id" = some (.str id) := by
  rw [← stamped.2, get?_withField stamped.1, if_pos rfl]

end Stamped

end SignalBoard.Json
