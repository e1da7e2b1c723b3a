/-
# Tables with ascending keys

A table that grows from the empty one keeps its keys ascending, so every key has one value and
looking a key up finds exactly the entries that are there. The laws of looking up after several
assignments need no order of the table below, only that no key is assigned twice.
-/

import Mathlib.Data.List.Nodup
import Mathlib.Data.String.Basic
import SignalBoard.Table

namespace SignalBoard

/-- What is found in a list with one more element is the last one, or is found before it. -/
theorem append_cons_eq_concat {α : Type} {items before since : List α} {found last : α} :
    items ++ [last] = before ++ found :: since ↔
      (since = [] ∧ items = before ∧ last = found) ∨
        ∃ earlier, since = earlier ++ [last] ∧ items = before ++ found :: earlier := by
  constructor
  · intro whole
    rcases List.eq_nil_or_concat since with rfl | ⟨earlier, other, rfl⟩
    · obtain ⟨same, ends⟩ := List.append_inj' whole rfl
      exact .inl ⟨rfl, same, by simpa using ends⟩
    · have split : items ++ [last] = (before ++ found :: earlier) ++ [other] := by simpa using whole
      obtain ⟨same, ends⟩ := List.append_inj' split rfl
      obtain rfl : last = other := by simpa using ends
      exact .inr ⟨earlier, List.concat_eq_append, same⟩
  · rintro (⟨rfl, rfl, rfl⟩ | ⟨earlier, rfl, rfl⟩)
    · rfl
    · simp

namespace Table

variable {α : Type}

/-- The keys ascend, so that none occurs twice. -/
def Ordered (table : Table α) : Prop := table.Pairwise fun first second => first.1 < second.1

@[simp] theorem ordered_nil : Ordered ([] : Table α) := List.Pairwise.nil

/-- Looking a key up after an assignment. -/
theorem get?_insert (key other : String) (value : α) (table : Table α) :
    (table.insert key value).get? other =
      if other = key then some value else table.get? other := by
  by_cases same : other = key
  · subst same
    simp
  · rw [if_neg same, get?_insert_of_ne value table same]

/-- Looking a key up after a removal. -/
theorem get?_erase (key other : String) (table : Table α) :
    (table.erase key).get? other = if other = key then none else table.get? other := by
  by_cases same : other = key
  · subst same
    simp
  · rw [if_neg same, get?_erase_of_ne table same]

/-- An entry that is found is there. -/
theorem mem_of_get? {table : Table α} {key : String} {value : α}
    (found : table.get? key = some value) : (key, value) ∈ table := by
  induction table with
  | nil => cases found
  | cons entry rest ih =>
      obtain ⟨k, v⟩ := entry
      by_cases same : k = key
      · simp_all [get?]
      · have later : get? key rest = some value := by simpa [get?, same] using found
        exact List.mem_cons_of_mem _ (ih later)

/-- A key that is not among the keys has no value. -/
theorem get?_eq_none {table : Table α} {key : String} (absent : key ∉ table.map Prod.fst) :
    table.get? key = none := by
  cases found : table.get? key with
  | none => rfl
  | some value => exact absurd (List.mem_map_of_mem (mem_of_get? found)) absent

/-- A key that has no value is not among the keys. -/
theorem not_mem_of_get?_eq_none {table : Table α} {key : String}
    (absent : table.get? key = none) : key ∉ table.map Prod.fst := by
  induction table with
  | nil => simp
  | cons entry rest ih =>
      obtain ⟨k, v⟩ := entry
      by_cases same : k = key
      · simp [get?, same] at absent
      · rw [List.map_cons, List.mem_cons, not_or]
        exact ⟨Ne.symm same, ih (by simpa [get?, same] using absent)⟩

/-- With each key once, an entry that is there is found. -/
theorem get?_of_mem {table : Table α} (once : (table.map Prod.fst).Nodup) {key : String}
    {value : α} (member : (key, value) ∈ table) : table.get? key = some value := by
  induction table with
  | nil => cases member
  | cons entry rest ih =>
      obtain ⟨k, v⟩ := entry
      rw [List.map_cons, List.nodup_cons] at once
      rcases List.mem_cons.mp member with here | later
      · cases here
        simp [get?]
      · have other : k ≠ key := by
          rintro rfl
          exact once.1 (List.mem_map.mpr ⟨_, later, rfl⟩)
        simpa [get?, other] using ih once.2 later

/-- Ascending keys occur once each. -/
theorem Ordered.nodup {table : Table α} (ordered : table.Ordered) :
    (table.map Prod.fst).Nodup := by
  refine List.pairwise_map.mpr (List.Pairwise.imp ?_ ordered)
  intro first second ascending same
  rw [same] at ascending
  exact lt_irrefl _ ascending

/-- In an ordered table the entries that are there are the ones that are found. -/
theorem Ordered.mem_iff {table : Table α} (ordered : table.Ordered) {key : String} {value : α} :
    (key, value) ∈ table ↔ table.get? key = some value :=
  ⟨get?_of_mem ordered.nodup, mem_of_get?⟩

/-- The entries after an assignment are the new one and old ones. -/
theorem mem_insert {table : Table α} {key : String} {value : α} {entry : String × α}
    (member : entry ∈ table.insert key value) : entry = (key, value) ∨ entry ∈ table := by
  induction table with
  | nil => simpa [insert] using member
  | cons head rest ih =>
      obtain ⟨k, v⟩ := head
      unfold insert at member
      split at member
      · rcases List.mem_cons.mp member with here | later
        · exact Or.inl here
        · exact Or.inr (List.mem_cons_of_mem _ later)
      · split at member
        · exact List.mem_cons.mp member
        · rcases List.mem_cons.mp member with rfl | later
          · exact Or.inr List.mem_cons_self
          · exact (ih later).imp id (List.mem_cons_of_mem _)

/-- Assigning keeps the keys ascending. -/
theorem Ordered.insert {table : Table α} (ordered : table.Ordered) (key : String) (value : α) :
    (Table.insert key value table).Ordered := by
  induction table with
  | nil => exact List.pairwise_singleton _ _
  | cons head rest ih =>
      obtain ⟨k, v⟩ := head
      have tail := (List.pairwise_cons.mp ordered).2
      have below := (List.pairwise_cons.mp ordered).1
      unfold Table.insert
      split
      case isTrue same =>
        subst same
        exact List.pairwise_cons.mpr ⟨below, tail⟩
      case isFalse different =>
        split
        case isTrue smaller =>
          refine List.pairwise_cons.mpr ⟨?_, ordered⟩
          intro entry member
          rcases List.mem_cons.mp member with rfl | later
          · exact smaller
          · exact lt_trans smaller (below entry later)
        case isFalse larger =>
          refine List.pairwise_cons.mpr ⟨?_, ih tail⟩
          intro entry member
          rcases mem_insert member with rfl | old
          · exact lt_of_le_of_ne (not_lt.mp larger) different
          · exact below entry old

/-- Removing keeps the keys ascending. -/
theorem Ordered.erase {table : Table α} (ordered : table.Ordered) (key : String) :
    (Table.erase key table).Ordered :=
  List.Pairwise.filter _ ordered

@[simp] theorem insert_cons_self (key : String) (value old : α) (rest : Table α) :
    insert key value ((key, old) :: rest) = (key, value) :: rest := by
  simp [insert]

/-- A key goes behind a smaller one. -/
theorem insert_cons_of_lt {k key : String} (smaller : k < key) (value v : α) (rest : Table α) :
    insert key value ((k, v) :: rest) = (k, v) :: insert key value rest := by
  rw [insert, if_neg smaller.ne, if_neg (not_lt_of_gt smaller)]

/-- A key goes before a greater one. -/
theorem insert_cons_of_gt {k key : String} (greater : key < k) (value v : α) (rest : Table α) :
    insert key value ((k, v) :: rest) = (key, value) :: (k, v) :: rest := by
  rw [insert, if_neg greater.ne', if_pos greater]

/-- Of two assignments to one key the later one counts. -/
theorem insert_insert (key : String) (first second : α) (table : Table α) :
    (table.insert key first).insert key second = table.insert key second := by
  induction table with
  | nil => simp [insert]
  | cons head rest ih =>
      obtain ⟨k, v⟩ := head
      rcases lt_trichotomy k key with smaller | rfl | greater
      · simp only [insert_cons_of_lt smaller, ih]
      · simp only [insert_cons_self]
      · simp only [insert_cons_of_gt greater, insert_cons_self]

private theorem insert_comm_of_lt {first second : String} (less : first < second)
    (value value' : α) (table : Table α) :
    (table.insert first value).insert second value' =
      (table.insert second value').insert first value := by
  induction table with
  | nil =>
      simp only [insert, if_neg less.ne, if_neg less.ne', if_neg (not_lt_of_gt less), less,
        if_true]
  | cons head rest ih =>
      obtain ⟨k, v⟩ := head
      -- Where the smaller key goes decides whether the two meet.
      rcases lt_trichotomy k first with below | rfl | above
      · have below' := lt_trans below less
        simp only [insert_cons_of_lt below, insert_cons_of_lt below', ih]
      · simp only [insert_cons_self, insert_cons_of_lt less]
      · rw [insert_cons_of_gt above, insert_cons_of_lt less]
        rcases lt_trichotomy k second with below' | rfl | above'
        · rw [insert_cons_of_lt below', insert_cons_of_gt above]
        · rw [insert_cons_self, insert_cons_of_gt above]
        · rw [insert_cons_of_gt above', insert_cons_of_gt less]

/-- Assignments to different keys can change places. -/
theorem insert_comm {first second : String} (different : first ≠ second) (value value' : α)
    (table : Table α) :
    (table.insert first value).insert second value' =
      (table.insert second value').insert first value := by
  rcases lt_or_gt_of_ne different with less | greater
  · exact insert_comm_of_lt less value value' table
  · exact (insert_comm_of_lt greater value' value table).symm

/-- An assignment to a key that is assigned later does not count. -/
theorem insertAll_insert_of_mem {upper : Table α} {key : String}
    (member : key ∈ upper.map Prod.fst) (value : α) (base : Table α) :
    insertAll upper (base.insert key value) = insertAll upper base := by
  induction upper generalizing base with
  | nil => cases member
  | cons entry rest ih =>
      obtain ⟨k, v⟩ := entry
      change insertAll rest ((base.insert key value).insert k v) = insertAll rest (base.insert k v)
      by_cases same : key = k
      · rw [same, insert_insert]
      · rw [insert_comm same]
        exact ih ((List.mem_cons.mp member).resolve_left same) _

/-- An assignment to a key that is not assigned later can wait. -/
theorem insertAll_insert_of_not_mem {upper : Table α} {key : String}
    (absent : key ∉ upper.map Prod.fst) (value : α) (base : Table α) :
    insertAll upper (base.insert key value) = (insertAll upper base).insert key value := by
  induction upper generalizing base with
  | nil => rfl
  | cons entry rest ih =>
      obtain ⟨k, v⟩ := entry
      rw [List.map_cons, List.mem_cons, not_or] at absent
      change insertAll rest ((base.insert key value).insert k v) = _
      rw [insert_comm absent.1, ih absent.2]
      rfl

/-- Assigning the same entries again changes nothing. -/
theorem insertAll_insertAll (upper base : Table α) :
    insertAll upper (insertAll upper base) = insertAll upper base := by
  induction upper generalizing base with
  | nil => rfl
  | cons entry rest ih =>
      obtain ⟨k, v⟩ := entry
      change insertAll rest ((insertAll rest (base.insert k v)).insert k v) =
        insertAll rest (base.insert k v)
      by_cases member : k ∈ rest.map Prod.fst
      · rw [insertAll_insert_of_mem member, ih]
      · rw [← insertAll_insert_of_not_mem member, insert_insert, ih]

/-- Assigning what an ordered table has changes nothing. -/
theorem Ordered.insert_of_get? {table : Table α} (ordered : table.Ordered) {key : String}
    {value : α} (found : table.get? key = some value) : table.insert key value = table := by
  induction table with
  | nil => cases found
  | cons entry rest ih =>
      obtain ⟨k, v⟩ := entry
      have below := (List.pairwise_cons.mp ordered).1
      by_cases same : k = key
      · subst same
        obtain rfl : v = value := by simpa [get?] using found
        rw [insert_cons_self]
      · have later : get? key rest = some value := by simpa [get?, same] using found
        rw [insert_cons_of_lt (below _ (mem_of_get? later)),
          ih (List.pairwise_cons.mp ordered).2 later]

/-- Assigning entries that an ordered table has changes nothing. -/
theorem Ordered.insertAll_of_get? {upper table : Table α} (ordered : table.Ordered)
    (found : ∀ entry ∈ upper, table.get? entry.1 = some entry.2) :
    insertAll upper table = table := by
  induction upper with
  | nil => rfl
  | cons entry rest ih =>
      change insertAll rest (table.insert entry.1 entry.2) = table
      rw [ordered.insert_of_get? (found entry List.mem_cons_self)]
      exact ih fun other later => found other (.tail _ later)

/-- Ordered tables in which every key has the same value are the same. -/
theorem Ordered.ext {first second : Table α} (ordered : first.Ordered) (ordered' : second.Ordered)
    (same : ∀ key, first.get? key = second.get? key) : first = second := by
  have entries : first.Perm second :=
    (List.perm_ext_iff_of_nodup (List.Nodup.of_map _ ordered.nodup)
      (List.Nodup.of_map _ ordered'.nodup)).mpr
      fun ⟨key, value⟩ => by rw [ordered.mem_iff, ordered'.mem_iff, same]
  apply entries.eq_of_pairwise ?_ ordered ordered'
  intro entry entry' _ _ before after
  exact absurd (lt_trans before after) (lt_irrefl _)

/-- Looking a key up after the entries of another table were assigned, no key twice. -/
theorem get?_insertAll {upper : Table α} (once : (upper.map Prod.fst).Nodup) (base : Table α)
    (key : String) : (insertAll upper base).get? key = (upper.get? key).or (base.get? key) := by
  induction upper generalizing base with
  | nil => simp [insertAll, get?]
  | cons entry rest ih =>
      obtain ⟨k, v⟩ := entry
      rw [List.map_cons, List.nodup_cons] at once
      change get? key (insertAll rest (base.insert k v)) = _
      rw [ih once.2, get?_insert]
      by_cases same : key = k
      · subst same
        simp [get?, get?_eq_none once.1]
      · simp [get?, same, Ne.symm same]

end Table
end SignalBoard
