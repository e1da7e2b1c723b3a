/-
# JSON documents

Requests and replies are JSON values. An object is a list of fields; the fields of a document
that this library builds or reads stand in the order of their keys and no key occurs twice, so
that such documents are equal as maps exactly when they are equal as values. Looking a key up
and assigning to it are defined for every list of fields, and the laws that join the two need
no order.
-/

import SignalBoard.Number.Text
import SignalBoard.Table

namespace SignalBoard

/-- A JSON value. Integers and doubles are different values even when they denote the same
number. -/
inductive Json where
  | null
  | bool (value : Bool)
  | int (value : Int)
  | float (value : Binary64)
  | str (value : String)
  | arr (items : List Json)
  | obj (fields : List (String × Json))
deriving Inhabited

namespace Json

/-- The fields of an object. -/
abbrev Fields := Table Json

/-- The object with the fields that have a value. -/
def record (fields : List (String × Option Json)) : Json :=
  .obj (fields.foldl (fun done (key, value) =>
    match value with
    | some v => Table.insert key v done
    | none => done) [])

/-- The value of a key; nothing if the value is no object or lacks the key. -/
def get? (key : String) : Json → Option Json
  | obj fields => Table.get? key fields
  | _ => none

/-- The value of a key; `null` if the value is no object or lacks the key. -/
def field (key : String) (doc : Json) : Json :=
  (doc.get? key).getD null

/-- The text, if the value is a string. -/
def string? : Json → Option String
  | str s => some s
  | _ => none

/-- The items, if the value is an array. -/
def items? : Json → Option (List Json)
  | arr items => some items
  | _ => none

/-- The items of an array; none of any other value. -/
def items (doc : Json) : List Json := doc.items?.getD []

/-- The number, if the value is an integer from `0` up to below `2 ^ 64`. -/
def word? : Json → Option UInt64
  | int (.ofNat n) => if fitsWord n then some (.ofNat n) else none
  | _ => none

/-- The truth value, if the value is one. -/
def bool? : Json → Option Bool
  | bool b => some b
  | _ => none

/-- Is the value an object? -/
def isObject : Json → Bool
  | obj _ => true
  | _ => false

/-- A string or, without one, nothing. -/
def ofString? (s : Option String) : Option Json := s.map str

/-- An array of strings. -/
def ofStrings (texts : List String) : Json := arr (texts.map str)

/-- An array of the documents of a list, if it has items. -/
def ofItems? {α : Type} (document : α → Json) (items : List α) : Option Json :=
  if items.isEmpty then none else some (arr (items.map document))

/-- A natural number. -/
def ofNat (n : Nat) : Json := int n

/-- Why a key could not be assigned: the value is there, but no object. -/
inductive AssignError where
  | notAnObject (key : String)
deriving DecidableEq, Repr

/-- Assigns a value to a key. `null` becomes an object with that key; any other value that is
no object has no keys to assign. -/
def assign (document : Json) (key : String) (value : Json) : Except AssignError Json :=
  match document with
  | obj fields => .ok (obj (Table.insert key value fields))
  | null => .ok (obj [(key, value)])
  | _ => .error (.notAnObject key)

/-- Lays one document over another: the fields of an object replace those of an object, and
anything else replaces the whole. -/
def overlay : Json → Json → Json
  | obj base, obj upper => obj (Table.insertAll upper base)
  | _, upper => upper

mutual

/-- Do two values agree, given when two doubles do? -/
def agree (same : Binary64 → Binary64 → Bool) : Json → Json → Bool
  | null, null => true
  | bool a, bool b => a == b
  | int a, int b => a == b
  | float a, float b => same a b
  | str a, str b => a == b
  | arr a, arr b => agreeItems same a b
  | obj a, obj b => agreeFields same a b
  | _, _ => false

/-- Do two lists agree item by item? -/
def agreeItems (same : Binary64 → Binary64 → Bool) : List Json → List Json → Bool
  | [], [] => true
  | a :: as, b :: bs => agree same a b && agreeItems same as bs
  | _, _ => false

/-- Do two objects agree field by field? -/
def agreeFields (same : Binary64 → Binary64 → Bool) :
    List (String × Json) → List (String × Json) → Bool
  | [], [] => true
  | (j, a) :: as, (k, b) :: bs => j == k && (agree same a b && agreeFields same as bs)
  | _, _ => false

end

/-- Equality of documents with doubles compared as numbers. -/
instance : BEq Json := ⟨agree (· == ·)⟩

mutual

/-- Values that agree with doubles compared bit by bit are equal. -/
theorem agree_iff_eq : (a b : Json) → (agree (fun x y => decide (x = y)) a b = true ↔ a = b)
  | null, b => by cases b <;> simp [agree]
  | bool _, b => by cases b <;> simp [agree]
  | int _, b => by cases b <;> simp [agree]
  | float _, b => by cases b <;> simp [agree]
  | str _, b => by cases b <;> simp [agree]
  | arr items, b => by
      cases b with
      | arr others => simp [agree, agreeItems_iff_eq items others]
      | _ => simp [agree]
  | obj fields, b => by
      cases b with
      | obj others => simp [agree, agreeFields_iff_eq fields others]
      | _ => simp [agree]

/-- Lists that agree with doubles compared bit by bit are equal. -/
theorem agreeItems_iff_eq :
    (as bs : List Json) → (agreeItems (fun x y => decide (x = y)) as bs = true ↔ as = bs)
  | [], bs => by cases bs <;> simp [agreeItems]
  | a :: as, bs => by
      cases bs with
      | nil => simp [agreeItems]
      | cons b bs => simp [agreeItems, agree_iff_eq a b, agreeItems_iff_eq as bs]

/-- Fields that agree with doubles compared bit by bit are equal. -/
theorem agreeFields_iff_eq :
    (as bs : List (String × Json)) →
      (agreeFields (fun x y => decide (x = y)) as bs = true ↔ as = bs)
  | [], bs => by cases bs <;> simp [agreeFields]
  | (j, a) :: as, bs => by
      cases bs with
      | nil => simp [agreeFields]
      | cons b bs =>
          obtain ⟨k, b⟩ := b
          simp [agreeFields, agree_iff_eq a b, agreeFields_iff_eq as bs, and_assoc]

end

instance : DecidableEq Json := fun a b => decidable_of_iff _ (agree_iff_eq a b)

mutual

/-- The same document with the fields of every object in the order of their keys. Of a repeated
key the last value is kept. -/
def canonical : Json → Json
  | arr items => arr (canonicalItems items)
  | obj fields => obj (Table.insertAll (canonicalFields fields) [])
  | other => other

/-- The canonical form of every item. -/
def canonicalItems : List Json → List Json
  | [] => []
  | item :: rest => canonical item :: canonicalItems rest

/-- The canonical form of the value of every field. -/
def canonicalFields : List (String × Json) → List (String × Json)
  | [] => []
  | (key, value) :: rest => (key, canonical value) :: canonicalFields rest

end

end Json

end SignalBoard
