/-
# Lists of any shape

A group lists its dashboards in an array of texts, as far as the service writes it. A group that was
stored by others may have something else there, or nothing: it then counts as empty, and is left
empty when a dashboard is added to it or removed from it.
-/

import SignalBoard.Proofs.Group.View
import SignalBoard.Proofs.Store.Creation

namespace SignalBoard

/-- A list without some texts. -/
def Json.leaving (removed : List String) (members : List Json) : List Json :=
  members.filter fun entry => ∀ id ∈ removed, entry ≠ .str id

theorem Json.leaving_nil : leaving [] = id := by
  funext members
  simp [leaving]

theorem Json.leaving_singleton (id : String) : leaving [id] = List.filter (· ≠ .str id) := by
  funext members
  exact List.filter_congr fun entry _ => by simp

theorem Json.leaving_append (removed removed' : List String) (members : List Json) :
    leaving removed' (leaving removed members) = leaving (removed ++ removed') members := by
  rw [leaving, leaving, leaving, List.filter_filter]
  refine List.filter_congr fun entry _ => ?_
  rw [← Bool.decide_and, decide_eq_decide, List.forall_mem_append, and_comm]

theorem Json.str_mem_leaving {id : String} {removed : List String} {members : List Json} :
    .str id ∈ leaving removed members ↔ .str id ∈ members ∧ id ∉ removed := by
  simp [leaving, imp_not_comm]

theorem Json.leaving_map_str (removed ids : List String) :
    leaving removed (ids.map .str) = (ids.filter (· ∉ removed)).map .str := by
  rw [leaving, List.filter_map]
  congr 1
  exact List.filter_congr fun other _ => by simp [imp_not_comm]

/-- What a group lists besides a proper list is nothing. -/
theorem DashboardGroup.members_eq_nil {group : Json}
    (none : ∀ members, group.get? "dashboards" ≠ some (.arr members)) : members group = [] := by
  rw [members, Json.field]
  cases held : group.get? "dashboards" with
  | none => rfl
  | some value =>
      cases value with
      | arr members => exact (none members held).elim
      | _ => rfl

/-- What a group lists is a text of its list. -/
theorem DashboardGroup.mem_members_iff {group : Json} {id : String} :
    id ∈ members group ↔
      ∃ members, group.get? "dashboards" = some (.arr members) ∧ .str id ∈ members := by
  constructor
  · intro member
    have listed : ∃ members, group.get? "dashboards" = some (.arr members) := by
      by_contra none
      rw [members_eq_nil fun members held => none ⟨members, held⟩] at member
      cases member
    obtain ⟨list, held⟩ := listed
    refine ⟨list, held, ?_⟩
    rw [members, Json.field_of_get? held] at member
    obtain ⟨entry, among, isText⟩ := List.mem_filterMap.mp member
    cases entry with
    | str text => exact Option.some.inj isText ▸ among
    | _ => cases isText
  · rintro ⟨list, held, among⟩
    rw [members, Json.field_of_get? held]
    exact List.mem_filterMap.mpr ⟨_, among, rfl⟩

/-- The document of a group with its list changed. -/
structure Json.Relisted (change : List Json → List Json) (old new : Json) : Prop where
  isNamed : new.name? = old.name?
  lists : ∀ members, old.get? "dashboards" = some (.arr members) →
    new.get? "dashboards" = some (.arr (change members))
  empty : (∀ members, old.get? "dashboards" ≠ some (.arr members)) →
    DashboardGroup.members new = []

namespace Json.Relisted

variable {change : List Json → List Json} {old new : Json} {id other : String}

/-- What a group lists afterwards comes from the changed list. -/
theorem exists_of_mem (relisted : Relisted change old new)
    (member : other ∈ DashboardGroup.members new) :
    ∃ members, old.get? "dashboards" = some (.arr members) ∧ .str other ∈ change members := by
  have listed : ∃ members, old.get? "dashboards" = some (.arr members) := by
    by_contra none
    rw [relisted.empty fun members held => none ⟨members, held⟩] at member
    cases member
  obtain ⟨members, held⟩ := listed
  obtain ⟨list, held', among⟩ := DashboardGroup.mem_members_iff.mp member
  cases (relisted.lists members held).symm.trans held'
  exact ⟨members, held, among⟩

/-- A group that a dashboard was added to lists at most that one besides. -/
theorem mem_of_add (relisted : Relisted (· ++ [.str id]) old new)
    (member : other ∈ DashboardGroup.members new) :
    other ∈ DashboardGroup.members old ∨ other = id := by
  obtain ⟨members, held, among⟩ := relisted.exists_of_mem member
  rw [List.mem_append, List.mem_singleton, str.injEq] at among
  exact among.imp_left fun earlier => DashboardGroup.mem_members_iff.mpr ⟨members, held, earlier⟩

/-- A proper list stays one. -/
theorem lists_add {ids : List String} (relisted : Relisted (· ++ [.str id]) old new)
    (lists : old.Lists ids) : new.Lists (ids ++ [id]) := by
  rw [Lists, relisted.lists _ lists, List.map_append]
  rfl

variable {removed removed' ids : List String}

theorem refl (group : Json) : Relisted (leaving []) group group where
  isNamed := rfl
  lists := fun members held => by rw [leaving_nil, held]; rfl
  empty := DashboardGroup.members_eq_nil

/-- A group that dashboards were removed from lists the others. -/
theorem mem_iff (relisted : Relisted (leaving removed) old new) :
    other ∈ DashboardGroup.members new ↔
      other ∈ DashboardGroup.members old ∧ other ∉ removed := by
  constructor
  · intro member
    obtain ⟨members, held, among⟩ := relisted.exists_of_mem member
    obtain ⟨among, kept⟩ := str_mem_leaving.mp among
    exact ⟨DashboardGroup.mem_members_iff.mpr ⟨members, held, among⟩, kept⟩
  · rintro ⟨member, kept⟩
    obtain ⟨members, held, among⟩ := DashboardGroup.mem_members_iff.mp member
    exact DashboardGroup.mem_members_iff.mpr
      ⟨_, relisted.lists members held, str_mem_leaving.mpr ⟨among, kept⟩⟩

/-- Removing some dashboards and then others. -/
theorem trans {last : Json} (first : Relisted (leaving removed) old new)
    (second : Relisted (leaving removed') new last) :
    Relisted (leaving (removed ++ removed')) old last where
  isNamed := second.isNamed.trans first.isNamed
  lists := fun members held => by
    rw [second.lists _ (first.lists members held), leaving_append]
  empty := by
    intro none
    rw [List.eq_nil_iff_forall_not_mem]
    intro other member
    have listed := (second.mem_iff.mp member).1
    rw [first.empty none] at listed
    cases listed

/-- A proper list stays one. -/
theorem lists_leaving (relisted : Relisted (leaving removed) old new) (lists : old.Lists ids) :
    new.Lists (ids.filter (· ∉ removed)) := by
  rw [Lists, relisted.lists _ lists, leaving_map_str]

end Json.Relisted

namespace Store

variable {store : Store} {groupId : String} {group : Json}

/-- The list of a stored group is changed, whatever it is. -/
theorem exists_relisted (stored : store.documents.get? (Kind.group.path groupId) = some group)
    (object : group.isObject = true) (change : List Json → List Json) :
    ∃ new, perform (updateMembers groupId change) store =
        (.ok (), store.set (Kind.group.path groupId) new) ∧ group.Relisted change new := by
  cases held : group.get? "dashboards" with
  | none =>
      refine ⟨group.withField "dashboards" .null, ?_, Json.name?_withField object (by decide) _, ?_,
        fun _ => ?_⟩
      · simp only [updateMembers, perform_bind, perform_get, stored, changeMembers, held,
          perform_assign, Json.assign_eq object, perform_keep]
      · simp [held]
      · rw [DashboardGroup.members, Json.field, Json.get?_withField object, if_pos rfl]
        rfl
  | some value =>
      by_cases isList : ∃ members, value = .arr members
      · obtain ⟨members, rfl⟩ := isList
        have named := Json.name?_withField object (by decide : "dashboards" ≠ "name")
        refine ⟨_, perform_updateMembers stored held change, named _, fun members' held' => ?_,
          fun none => (none members held).elim⟩
        rw [Json.get?_withField object, if_pos rfl]
        cases held.symm.trans held'
        rfl
      · refine ⟨group, ?_, rfl, fun members held' => ?_, fun _ => ?_⟩
        · cases value with
          | arr members => exact (isList ⟨members, rfl⟩).elim
          | _ =>
              simp only [updateMembers, perform_bind, perform_get, stored, changeMembers, held,
                perform_pure, perform_keep]
        · exact (isList ⟨members, Option.some.inj (held.symm.trans held')⟩).elim
        · exact DashboardGroup.members_eq_nil fun members held' =>
            isList ⟨members, Option.some.inj (held.symm.trans held')⟩

/-- The list of a group that is not stored is not changed. -/
theorem perform_updateMembers_none (missing : store.documents.get? (Kind.group.path groupId) = none)
    (change : List Json → List Json) :
    perform (updateMembers groupId change) store = (.ok (), store) := by
  simp only [updateMembers, perform_bind, perform_get, missing, perform_pure]

/-- A dashboard is added for a stored group, whatever it lists. -/
theorem exists_addDashboard (stored : store.documents.get? (Kind.group.path groupId) = some group)
    (object : group.isObject = true) (name : String) (layout : List Json) :
    ∃ new, perform (addDashboard name groupId layout) store =
        (.ok (dashboardDocument name groupId layout (ident (store.allocated + 1))),
          (store.allocate.set (Kind.dashboard.path (ident (store.allocated + 1)))
            (dashboardDocument name groupId layout (ident (store.allocated + 1)))).set
            (Kind.group.path groupId) new) ∧
      group.Relisted (· ++ [.str (ident (store.allocated + 1))]) new := by
  have still : (store.allocate.set (Kind.dashboard.path (ident (store.allocated + 1)))
      (dashboardDocument name groupId layout (ident (store.allocated + 1)))).documents.get?
      (Kind.group.path groupId) = some group := by
    rw [get?_set, if_neg (Kind.path_ne (by decide) _ _), documents_allocate, stored]
  obtain ⟨new, updates, relisted⟩ :=
    exists_relisted still object (· ++ [.str (ident (store.allocated + 1))])
  exact ⟨new, perform_addDashboard_of_updates updates, relisted⟩

end Store

end SignalBoard
