/-
# Renaming identifiers in documents

Documents hold identifiers under three keys, at any depth. Renaming them is a map over the
document that leaves every other value alone, and it commutes with everything the operations do
with documents: assigning, laying one over another, building from fields and looking up.
-/

import SignalBoard.Proofs.Json.Lookup
import SignalBoard.Proofs.Store.Path
import SignalBoard.Reconcile.Layout
import SignalBoard.Reconcile.Lookup

namespace SignalBoard

namespace Json

/-- The keys under which documents hold identifiers. -/
def idKeys : List String := ["id", "groupId", "chartId"]

/-- The value of a key, renamed if it is a text and the key holds identifiers. -/
def renameAt (rename : String → String) (key : String) : Json → Json
  | str text => if key ∈ idKeys then str (rename text) else str text
  | other => other

mutual

/-- The document with the identifiers in it renamed. -/
def renameIds (rename : String → String) : Json → Json
  | arr items => arr (renameItems rename items)
  | obj fields => obj (renameFields rename fields)
  | other => other

/-- The items with the identifiers in them renamed. -/
def renameItems (rename : String → String) : List Json → List Json
  | [] => []
  | item :: rest => renameIds rename item :: renameItems rename rest

/-- The fields with the identifiers in them renamed. -/
def renameFields (rename : String → String) : List (String × Json) → List (String × Json)
  | [] => []
  | (key, value) :: rest =>
      (key, renameAt rename key (renameIds rename value)) :: renameFields rename rest

end

/-- The text of a key that holds identifiers. -/
def idTextAt (key : String) : Json → List String
  | str text => if key ∈ idKeys then [text] else []
  | _ => []

mutual

/-- The texts in a document that stand for identifiers. -/
def idTexts : Json → List String
  | arr items => idTextsOfItems items
  | obj fields => idTextsOfFields fields
  | _ => []

/-- The texts in items that stand for identifiers. -/
def idTextsOfItems : List Json → List String
  | [] => []
  | item :: rest => idTexts item ++ idTextsOfItems rest

/-- The texts in fields that stand for identifiers. -/
def idTextsOfFields : List (String × Json) → List String
  | [] => []
  | (key, value) :: rest => idTextAt key value ++ idTexts value ++ idTextsOfFields rest

end

variable {rename : String → String}

mutual

/-- A document whose identifiers keep their names stays as it is. -/
theorem renameIds_eq_self : (document : Json) →
    (∀ text ∈ document.idTexts, rename text = text) → document.renameIds rename = document
  | null, _ | bool _, _ | int _, _ | float _, _ | str _, _ => rfl
  | arr items, kept => by rw [renameIds, renameItems_eq_self items kept]
  | obj fields, kept => by rw [renameIds, renameFields_eq_self fields kept]

private theorem renameItems_eq_self : (items : List Json) →
    (∀ text ∈ idTextsOfItems items, rename text = text) → renameItems rename items = items
  | [], _ => rfl
  | item :: rest, kept => by
      rw [idTextsOfItems] at kept
      rw [renameItems, renameIds_eq_self item fun text member =>
          kept text (List.mem_append_left _ member),
        renameItems_eq_self rest fun text member => kept text (List.mem_append_right _ member)]

private theorem renameFields_eq_self : (fields : List (String × Json)) →
    (∀ text ∈ idTextsOfFields fields, rename text = text) →
    renameFields rename fields = fields
  | [], _ => rfl
  | (key, value) :: rest, kept => by
      simp only [idTextsOfFields, List.mem_append] at kept
      have here : renameAt rename key value = value := by
        cases value with
        | str text =>
            by_cases holds : key ∈ idKeys
            · simp [renameAt, holds, kept text (by simp [idTextAt, holds])]
            · simp [renameAt, holds]
        | _ => rfl
      rw [renameFields, renameIds_eq_self value fun text member => kept text (.inl (.inr member)),
        here, renameFields_eq_self rest fun text member => kept text (.inr member)]

end

theorem renameItems_eq_map (items : List Json) :
    renameItems rename items = items.map (renameIds rename) := by
  induction items with
  | nil => rfl
  | cons item rest ih => rw [renameItems, ih, List.map_cons]

end Json

namespace Table

variable {α β : Type}

/-- The table with every value changed, with regard to its key. -/
def mapValues (change : String → α → β) (table : Table α) : Table β :=
  table.map fun entry => (entry.1, change entry.1 entry.2)

/-- Changing all values commutes with assigning. -/
theorem mapValues_insert (change : String → α → β) (key : String) (value : α) (table : Table α) :
    mapValues change (table.insert key value) =
      (mapValues change table).insert key (change key value) := by
  induction table with
  | nil => rfl
  | cons entry rest ih =>
      obtain ⟨k, v⟩ := entry
      simp only [mapValues, insert, List.map_cons] at ih ⊢
      split
      · rfl
      · split
        · rfl
        · rw [List.map_cons, ih]

/-- Changing all values commutes with assigning all entries of a table. -/
theorem mapValues_insertAll (change : String → α → β) (upper base : Table α) :
    mapValues change (insertAll upper base) =
      insertAll (mapValues change upper) (mapValues change base) := by
  induction upper generalizing base with
  | nil => rfl
  | cons entry rest ih =>
      obtain ⟨k, v⟩ := entry
      refine (ih (base.insert k v)).trans ?_
      rw [mapValues_insert]
      rfl

/-- Changing all values commutes with looking up. -/
theorem get?_mapValues (change : String → α → β) (key : String) (table : Table α) :
    (mapValues change table).get? key = (table.get? key).map (change key) := by
  induction table with
  | nil => rfl
  | cons entry rest ih =>
      obtain ⟨k, v⟩ := entry
      simp only [mapValues, get?, List.map_cons] at ih ⊢
      split
      case isTrue same => rw [same, Option.map_some]
      case isFalse different => exact ih

end Table

namespace Json

/-- The object with every value changed, with regard to its key. Only an object has values. -/
def mapFields (change : String → Json → Json) : Json → Json
  | obj fields => obj (Table.mapValues change fields)
  | other => other

variable {change : String → Json → Json}

/-- Assigning, then changing all values. -/
theorem mapFields_withField (document : Json) (key : String) (value : Json) :
    (document.withField key value).mapFields change =
      (document.mapFields change).withField key (change key value) := by
  cases document with
  | obj fields => exact congrArg obj (Table.mapValues_insert ..)
  | _ => rfl

/-- Looking a key up after all values were changed. -/
theorem get?_mapFields (document : Json) (key : String) :
    (document.mapFields change).get? key = (document.get? key).map (change key) := by
  cases document with
  | obj fields => exact Table.get?_mapValues ..
  | _ => rfl

/-- Laying one object over another, then changing all values. -/
theorem mapFields_overlay {upper : Json} (object : upper.isObject = true) (base : Json) :
    (base.overlay upper).mapFields change =
      (base.mapFields change).overlay (upper.mapFields change) := by
  cases upper with
  | obj uppers =>
      cases base with
      | obj fields => exact congrArg obj (Table.mapValues_insertAll ..)
      | _ => rfl
  | _ => cases object

/-- Building from fields, then changing all values. -/
theorem mapFields_record (fields : List (String × Option Json)) :
    (record fields).mapFields change =
      record (fields.map fun entry => (entry.1, entry.2.map (change entry.1))) := by
  suffices every : ∀ done : Table Json,
      Table.mapValues change (fields.foldl putField done) =
        (fields.map fun entry => (entry.1, entry.2.map (change entry.1))).foldl
          putField (Table.mapValues change done) by
    rw [record_eq, mapFields, every []]
    rfl
  induction fields with
  | nil => exact fun done => rfl
  | cons entry rest ih =>
      intro done
      obtain ⟨key, value⟩ := entry
      cases value with
      | none => exact ih done
      | some value =>
          refine (ih (done.insert key value)).trans ?_
          rw [Table.mapValues_insert]
          rfl

end Json

namespace Json

variable {rename : String → String}

/-- The value of a key with the identifiers in it renamed, itself included. -/
def renameValue (rename : String → String) (key : String) (value : Json) : Json :=
  renameAt rename key (value.renameIds rename)

/-- Renaming in an object changes its values. -/
theorem renameIds_obj (fields : Table Json) :
    (obj fields).renameIds rename = obj (Table.mapValues (renameValue rename) fields) := by
  rw [renameIds, obj.injEq]
  induction fields with
  | nil => rfl
  | cons entry rest ih =>
      rw [renameFields, ih]
      rfl

@[simp] theorem isObject_renameIds (document : Json) :
    (document.renameIds rename).isObject = document.isObject := by
  cases document <;> rfl

/-- Assigning, then renaming. -/
theorem renameIds_withField (document : Json) (key : String) (value : Json) :
    (document.withField key value).renameIds rename =
      (document.renameIds rename).withField key (renameValue rename key value) := by
  cases document with
  | obj fields =>
      rw [withField, renameIds_obj, renameIds_obj]
      exact mapFields_withField (obj fields) key value
  | _ => rfl

/-- Looking a key up after renaming. -/
theorem get?_renameIds (document : Json) (key : String) :
    (document.renameIds rename).get? key = (document.get? key).map (renameValue rename key) := by
  cases document with
  | obj fields =>
      rw [renameIds_obj]
      exact get?_mapFields (obj fields) key
  | _ => rfl

theorem field_renameIds (document : Json) (key : String) :
    (document.renameIds rename).field key = renameValue rename key (document.field key) := by
  rw [field, get?_renameIds, field]
  cases document.get? key <;> rfl

/-- Laying one document over another, then renaming. -/
theorem renameIds_overlay (base upper : Json) :
    (base.overlay upper).renameIds rename =
      (base.renameIds rename).overlay (upper.renameIds rename) := by
  cases base with
  | obj fields =>
      cases upper with
      | obj uppers =>
          rw [overlay, renameIds_obj, renameIds_obj, renameIds_obj]
          have object : (obj uppers).isObject = true := rfl
          exact mapFields_overlay object (obj fields)
      | _ => rfl
  | _ => cases upper <;> rfl

/-- Building from fields, then renaming. -/
theorem renameIds_record (fields : List (String × Option Json)) :
    (record fields).renameIds rename =
      record (fields.map fun entry => (entry.1, entry.2.map (renameValue rename entry.1))) := by
  rw [record_eq, renameIds_obj]
  exact mapFields_record fields

/-- A text under a key that holds identifiers is renamed. -/
theorem string?_renameValue (key : String) (value : Json) :
    (renameValue rename key value).string? =
      if key ∈ idKeys then value.string?.map rename else value.string? := by
  cases value with
  | str text =>
      by_cases holds : key ∈ idKeys <;> simp [renameValue, renameIds, renameAt, string?, holds]
  | _ => simp [renameValue, renameIds, renameAt, string?]

/-- The identifier of a document is renamed with it. -/
theorem id?_renameIds (document : Json) :
    (document.renameIds rename).id? = document.id?.map rename := by
  rw [id?, get?_renameIds, id?]
  cases document.get? "id" with
  | none => rfl
  | some value => exact (string?_renameValue "id" value).trans (if_pos (by decide))

end Json

end SignalBoard
