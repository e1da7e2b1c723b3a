/-
# Tables

A table is a list of entries with text keys. The entries of a table that grows from the empty
one stand in the order of their keys, by code points, and no key occurs twice. Looking up,
assigning and removing are defined for every list of entries, and the laws that join them need
no order.
-/

namespace SignalBoard

/-- Entries with text keys. -/
abbrev Table (α : Type) := List (String × α)

namespace Table

variable {α : Type}

/-- The value of a key, if the table has it. -/
def get? (key : String) : Table α → Option α
  | [] => none
  | (k, v) :: rest => if k = key then some v else get? key rest

/-- Has the table the key? -/
def has (key : String) (table : Table α) : Bool := (table.get? key).isSome

/-- Assigns a value to a key. A new key goes before the first key that is greater. -/
def insert (key : String) (value : α) : Table α → Table α
  | [] => [(key, value)]
  | (k, v) :: rest =>
      if k = key then (key, value) :: rest
      else if key < k then (key, value) :: (k, v) :: rest
      else (k, v) :: insert key value rest

/-- Removes a key. -/
def erase (key : String) (table : Table α) : Table α := table.filter fun (k, _) => k ≠ key

/-- Changes the value of a key that the table has. -/
def modify (key : String) (change : α → α) (table : Table α) : Table α :=
  match table.get? key with
  | some value => table.insert key (change value)
  | none => table

/-- Assigns the entries of `upper` one after the other. -/
def insertAll (upper base : Table α) : Table α :=
  upper.foldl (fun table (k, v) => insert k v table) base

/-- The entries of `new` that `old` does not have, or has with another value. -/
def changes [BEq α] (old new : Table α) : Table α :=
  new.filter fun (key, value) => (old.get? key).all fun other => !(value == other)

/-- The keys of `old` that `new` does not have. -/
def losses (old new : Table α) : List String :=
  (old.filter fun (key, _) => !new.has key).map (·.1)

/-- A key that was just assigned has its new value. -/
@[simp] theorem get?_insert_self (key : String) (value : α) (table : Table α) :
    (table.insert key value).get? key = some value := by
  induction table with
  | nil => simp [insert, get?]
  | cons entry rest ih =>
      obtain ⟨k, v⟩ := entry
      unfold insert
      split
      · simp [get?]
      · split
        · simp [get?]
        · simp_all [get?]

/-- Assigning to a key leaves every other key alone. -/
theorem get?_insert_of_ne {key other : String} (value : α) (table : Table α)
    (different : other ≠ key) : (table.insert key value).get? other = table.get? other := by
  induction table with
  | nil => simp [insert, get?, different.symm]
  | cons entry rest ih =>
      obtain ⟨k, v⟩ := entry
      unfold insert
      split
      · rename_i same
        subst same
        simp [get?, different.symm]
      · split
        · simp [get?, different.symm]
        · simp [get?, ih]

/-- A key that was removed is gone. -/
@[simp] theorem get?_erase_self (key : String) (table : Table α) :
    (table.erase key).get? key = none := by
  induction table with
  | nil => simp [erase, get?]
  | cons entry rest ih =>
      obtain ⟨k, v⟩ := entry
      by_cases same : k = key
      · simpa [erase, same] using ih
      · simpa [erase, same, get?] using ih

/-- Removing a key leaves every other key alone. -/
theorem get?_erase_of_ne {key other : String} (table : Table α) (different : other ≠ key) :
    (table.erase key).get? other = table.get? other := by
  induction table with
  | nil => simp [erase, get?]
  | cons entry rest ih =>
      obtain ⟨k, v⟩ := entry
      by_cases same : k = key
      · have : key ≠ other := different.symm
        simpa [erase, same, get?, this] using ih
      · by_cases found : k = other
        · simp [erase, get?, found, different]
        · simpa [erase, same, get?, found] using ih

end Table

end SignalBoard
