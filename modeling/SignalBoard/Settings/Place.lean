/-
# Places in settings

A place is a way from the root of a document down to a value: by a key into a table, or by an
index into an array. A negative index counts from the end of the array. A place can always be
changed: what stands in the way of a step is replaced by an empty table or array, and an array
too short for an index gets `null` in the places that are missing. A change at a place is seen
there and is made to the value that was there before.
-/

import SignalBoard.Json.Basic
import SignalBoard.Text.Fields

namespace SignalBoard.Settings

/-- A step from a value to a value inside it. -/
inductive Step where
  | key (name : String)
  | index (offset : Int)
deriving DecidableEq, Repr

/-- May the character stand in a key of a place? -/
def isKeyChar (c : Char) : Bool := c.isAlpha || c.isDigit || c = '_' || c = '-'

/-- The offset in front of a closing bracket. Spaces may stand around it. -/
def offset? (cs : List Char) : Option Int := do
  let isBlank (c : Char) : Bool := c = ' ' || c = '\t'
  match cs.reverse with
  | ']' :: inside =>
      let trimmed := (inside.dropWhile isBlank).reverse.dropWhile isBlank
      let n ← if trimmed.head? = some '+' then none else readSignedDigits? trimmed
      if fitsSignedWord n then some n else none
  | _ => none

/-- The steps of a key with the indices behind it. -/
def stepsOf? (part : List Char) : Option (List Step) :=
  match Text.fields '[' part with
  | name :: indices =>
      if !name.isEmpty && name.all isKeyChar then do
        let offsets ← indices.mapM offset?
        return .key (String.ofList name) :: offsets.map .index
      else none
  | [] => none

/-- The place that a text names: keys with points between them, each perhaps with indices in
brackets. Any other text is a single key. -/
def place (text : String) : List Step :=
  match (Text.fields '.' text.toList).mapM stepsOf? with
  | some steps => steps.flatten
  | none => [.key text]

/-- The items with as many `null` more as an offset needs to name one of them. -/
def stretch (offset : Int) (items : List Json) : List Json :=
  if 0 ≤ offset then items ++ List.replicate (offset.toNat + 1 - items.length) .null
  else List.replicate (offset.natAbs - items.length) .null ++ items

/-- The position of the item that an offset names among so many. -/
def position (offset : Int) (length : Nat) : Nat :=
  if 0 ≤ offset then offset.toNat else length - offset.natAbs

/-- The item that an offset names; `null` if there is none. -/
def itemAt (offset : Int) (items : List Json) : Json :=
  (stretch offset items).getD (position offset (stretch offset items).length) .null

/-- Puts an item where an offset says. -/
def putAt (offset : Int) (item : Json) (items : List Json) : List Json :=
  (stretch offset items).set (position offset (stretch offset items).length) item

/-- The value inside a value; `null` if there is none. -/
def Step.follow : Step → Json → Json
  | key name, value => value.field name
  | index offset, value => itemAt offset value.items

/-- Puts a value inside a value, which becomes a table or an array if it is none. -/
def Step.put (inner : Json) : Step → Json → Json
  | key name, .obj fields => .obj (Table.insert name inner fields)
  | key name, _ => .obj (Table.insert name inner [])
  | index offset, value => .arr (putAt offset inner value.items)

/-- Changes the value at a place. -/
def changeAt (change : Json → Json) : List Step → Json → Json
  | [], value => change value
  | step :: rest, value => step.put (changeAt change rest (step.follow value)) value

/-- The value at a place. -/
def valueAt (path : List Step) (value : Json) : Json :=
  path.foldl (fun value step => step.follow value) value

/-- An array that is long enough for an offset stays as it is. -/
theorem stretch_eq_self {offset : Int} {items : List Json}
    (h : if 0 ≤ offset then offset.toNat < items.length else offset.natAbs ≤ items.length) :
    stretch offset items = items := by
  unfold stretch
  split at h
  · rename_i forward
    rw [if_pos forward, Nat.sub_eq_zero_of_le h]
    simp
  · rename_i backward
    rw [if_neg backward, Nat.sub_eq_zero_of_le h]
    simp

/-- A stretched array is long enough for its offset. -/
theorem reaches_length_stretch (offset : Int) (items : List Json) :
    if 0 ≤ offset then offset.toNat < (stretch offset items).length
    else offset.natAbs ≤ (stretch offset items).length := by
  unfold stretch
  split
  · simp
    omega
  · simp
    omega

/-- The position of an offset is one of the stretched array. -/
theorem position_lt_length_stretch (offset : Int) (items : List Json) :
    position offset (stretch offset items).length < (stretch offset items).length := by
  have reaches := reaches_length_stretch offset items
  unfold position
  split at reaches
  · rename_i forward
    rw [if_pos forward]
    exact reaches
  · rename_i backward
    rw [if_neg backward]
    omega

/-- What was put where an offset says is what the offset names. -/
theorem itemAt_putAt (offset : Int) (item : Json) (items : List Json) :
    itemAt offset (putAt offset item items) = item := by
  have same : stretch offset (putAt offset item items) = putAt offset item items :=
    stretch_eq_self (by simpa [putAt] using reaches_length_stretch offset items)
  unfold itemAt
  rw [same]
  simp [putAt, List.getD_eq_getElem?_getD, position_lt_length_stretch]

/-- What was put inside a value is found there. -/
theorem Step.follow_put (step : Step) (inner value : Json) :
    step.follow (step.put inner value) = inner := by
  cases step with
  | key name => cases value <;> simp [Step.follow, Step.put, Json.field, Json.get?]
  | index offset => exact itemAt_putAt offset inner value.items

/-- After a change at a place, the changed value is found there. -/
theorem valueAt_changeAt (change : Json → Json) (path : List Step) (value : Json) :
    valueAt path (changeAt change path value) = change (valueAt path value) := by
  induction path generalizing value with
  | nil => rfl
  | cons step rest ih =>
      simp only [valueAt, List.foldl_cons, changeAt] at ih ⊢
      rw [step.follow_put, ih]

end SignalBoard.Settings
