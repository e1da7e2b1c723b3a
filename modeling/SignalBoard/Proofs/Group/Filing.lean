/-
# Dashboards filed in groups

Dashboards and groups refer to each other: a dashboard names its group, and the group lists its
dashboards. Filing is the agreement of the two, told without documents: of a dashboard its face is
all that matters, and of a group its list. Each way in which faces and lists change together
keeps the agreement.
-/

import Mathlib.Data.List.Nodup
import Mathlib.Logic.Function.Basic

namespace SignalBoard

open Function (update)

/-- What is there after one entry was written is the entry that was written, or it was there
before. -/
theorem eq_or_of_update {α : Type} {entries : String → Option α} {id other : String}
    {new entry : α} (present : update entries id (some new) other = some entry) :
    (other = id ∧ entry = new) ∨ (other ≠ id ∧ entries other = some entry) := by
  by_cases here : other = id
  · rw [here, Function.update_self] at present
    exact .inl ⟨here, (Option.some.inj present).symm⟩
  · rw [Function.update_of_ne here] at present
    exact .inr ⟨here, present⟩

/-- What matters of a dashboard in a group. -/
structure Face where
  name : Option String
  groupId : Option String
  /-- The names of the charts on the layout, entry by entry. -/
  charts : List (Option String)
deriving DecidableEq

/-- Every dashboard names a group that is there, and every group lists, once each, the dashboards
that name it. -/
structure Filed (faces : String → Option Face) (lists : String → Option (List String)) :
    Prop where
  belongs : ∀ id face, faces id = some face →
    ∃ groupId, face.groupId = some groupId ∧ (lists groupId).isSome
  once : ∀ groupId ids, lists groupId = some ids → ids.Nodup
  mem_iff : ∀ groupId ids, lists groupId = some ids → ∀ id,
    id ∈ ids ↔ ∃ face, faces id = some face ∧ face.groupId = some groupId

namespace Filed

variable {faces : String → Option Face} {lists : String → Option (List String)}
  {id groupId : String} {ids : List String}

/-- Every dashboard is listed by the group that it names. -/
theorem exists_listed (filed : Filed faces lists) {face : Face} (found : faces id = some face)
    (names : face.groupId = some groupId) : ∃ ids, lists groupId = some ids ∧ id ∈ ids := by
  obtain ⟨own, names', listed⟩ := filed.belongs id face found
  obtain rfl := Option.some.inj (names.symm.trans names')
  obtain ⟨ids, listed⟩ := Option.isSome_iff_exists.mp listed
  exact ⟨ids, listed, (filed.mem_iff groupId ids listed id).mpr ⟨face, found, names⟩⟩

/-- A dashboard that stays in its group. -/
theorem revise (filed : Filed faces lists) {old new : Face} (there : faces id = some old)
    (same : new.groupId = old.groupId) : Filed (update faces id (some new)) lists where
  belongs := by
    intro other face found
    obtain ⟨rfl, rfl⟩ | ⟨-, found⟩ := eq_or_of_update found
    · rw [same]
      exact filed.belongs other old there
    · exact filed.belongs other face found
  once := filed.once
  mem_iff := by
    intro groupId ids listed other
    rw [filed.mem_iff groupId ids listed]
    by_cases here : other = id
    · subst here
      simp [there, same]
    · rw [Function.update_of_ne here]

/-- A group that is there is still there when a list is written. -/
theorem isSome_update {ids' : List String} {other : String} (there : (lists other).isSome) :
    (update lists groupId (some ids') other).isSome := by
  by_cases here : other = groupId
  · simp [here]
  · rwa [Function.update_of_ne here]

/-- Dashboards name groups that are there, and go on to do so when a list is written. -/
theorem belongs_update (filed : Filed faces lists) (ids' : List String) {face : Face}
    (found : faces id = some face) :
    ∃ own, face.groupId = some own ∧ (update lists groupId (some ids') own).isSome := by
  obtain ⟨own, names, there⟩ := filed.belongs id face found
  exact ⟨own, names, isSome_update there⟩

/-- A new group is empty. -/
theorem newGroup (filed : Filed faces lists) (fresh : lists groupId = none) :
    Filed faces (update lists groupId (some [])) where
  belongs _ _ found := filed.belongs_update [] found
  once := by
    intro other list present
    obtain ⟨-, rfl⟩ | ⟨-, present⟩ := eq_or_of_update present
    · exact List.nodup_nil
    · exact filed.once other list present
  mem_iff := by
    intro other list present id
    obtain ⟨rfl, rfl⟩ | ⟨-, present⟩ := eq_or_of_update present
    · refine ⟨fun member => (nomatch member), ?_⟩
      rintro ⟨face, found, names⟩
      obtain ⟨own, names', there⟩ := filed.belongs id face found
      obtain rfl := Option.some.inj (names.symm.trans names')
      rw [fresh] at there
      cases there
    · exact filed.mem_iff other list present id

/-- It does not matter in which order a group lists its dashboards. -/
theorem reorder (filed : Filed faces lists) (listed : lists groupId = some ids)
    {ids' : List String} (perm : ids'.Perm ids) :
    Filed faces (update lists groupId (some ids')) where
  belongs _ _ found := filed.belongs_update ids' found
  once := by
    intro other list present
    obtain ⟨-, rfl⟩ | ⟨-, present⟩ := eq_or_of_update present
    · exact perm.nodup_iff.mpr (filed.once groupId ids listed)
    · exact filed.once other list present
  mem_iff := by
    intro other list present id
    obtain ⟨rfl, rfl⟩ | ⟨-, present⟩ := eq_or_of_update present
    · rw [perm.mem_iff]
      exact filed.mem_iff other ids listed id
    · exact filed.mem_iff other list present id

/-- A new dashboard is listed last by its group. -/
theorem add (filed : Filed faces lists) (fresh : faces id = none)
    (listed : lists groupId = some ids) {face : Face} (names : face.groupId = some groupId) :
    Filed (update faces id (some face)) (update lists groupId (some (ids ++ [id]))) where
  belongs := by
    intro other found present
    obtain ⟨-, rfl⟩ | ⟨-, present⟩ := eq_or_of_update present
    · exact ⟨groupId, names, isSome_update (by simp [listed])⟩
    · exact filed.belongs_update _ present
  once := by
    intro other list present
    obtain ⟨-, rfl⟩ | ⟨-, present⟩ := eq_or_of_update present
    · rw [List.nodup_append]
      refine ⟨filed.once groupId ids listed, List.nodup_singleton id, ?_⟩
      rintro earlier member _ isId rfl
      obtain rfl := List.mem_singleton.mp isId
      obtain ⟨_, found, -⟩ := (filed.mem_iff groupId ids listed earlier).mp member
      rw [fresh] at found
      cases found
    · exact filed.once other list present
  mem_iff := by
    intro other list present id'
    by_cases isNew : id' = id
    · subst isNew
      obtain ⟨rfl, rfl⟩ | ⟨here, present⟩ := eq_or_of_update present
      · simp [names]
      · rw [filed.mem_iff other list present]
        simp [fresh, names, Ne.symm here]
    · rw [Function.update_of_ne isNew]
      obtain ⟨rfl, rfl⟩ | ⟨-, present⟩ := eq_or_of_update present
      · rw [List.mem_append, List.mem_singleton, or_iff_left isNew]
        exact filed.mem_iff other ids listed id'
      · exact filed.mem_iff other list present id'

/-- Dashboards are removed from the lists of their groups, and at most groups that had no others
with them. -/
theorem restrict (filed : Filed faces lists) (gone : List String)
    {lists' : String → Option (List String)}
    (left : ∀ groupId ids', lists' groupId = some ids' → ∃ ids, lists groupId = some ids ∧
      ids'.Nodup ∧ ∀ id, id ∈ ids' ↔ id ∈ ids ∧ id ∉ gone)
    (empty : ∀ groupId ids, lists groupId = some ids → lists' groupId = none →
      ∀ id ∈ ids, id ∈ gone) :
    Filed (fun id => if id ∈ gone then none else faces id) lists' where
  belongs := by
    intro id face present
    split at present
    case isTrue => cases present
    case isFalse kept =>
      obtain ⟨own, names, isSome⟩ := filed.belongs id face present
      obtain ⟨ids, listed⟩ := Option.isSome_iff_exists.mp isSome
      refine ⟨own, names, ?_⟩
      rw [Option.isSome_iff_ne_none]
      intro none
      have member := (filed.mem_iff own ids listed id).mpr ⟨face, present, names⟩
      exact kept (empty own ids listed none id member)
  once := by
    intro groupId ids' listed
    obtain ⟨_, -, once, -⟩ := left groupId ids' listed
    exact once
  mem_iff := by
    intro groupId ids' listed id
    obtain ⟨ids, listedBefore, -, mem_iff⟩ := left groupId ids' listed
    rw [mem_iff, filed.mem_iff groupId ids listedBefore]
    by_cases removed : id ∈ gone
    · simp [removed]
    · simp [removed]

end Filed

end SignalBoard
