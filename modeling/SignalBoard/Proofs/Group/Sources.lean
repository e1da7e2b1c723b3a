/-
# Removing the originals of clones

Originals are removed group by group: a group that lists nothing else goes with them, any other
group stays and lists what is left. The groups are taken one after the other, each with all its
originals, so that no original is asked for twice and none is missed.
-/

import SignalBoard.Proofs.Group.Removal

namespace SignalBoard

/-- No item is left twice by a deduplication. -/
theorem nodup_eraseDups {α : Type} [BEq α] [LawfulBEq α] :
    ∀ items : List α, items.eraseDups.Nodup
  | [] => by simp
  | item :: rest => by
      rw [List.eraseDups_cons, List.nodup_cons]
      refine ⟨?_, nodup_eraseDups _⟩
      rw [List.mem_eraseDups]
      simp
termination_by items => items.length
decreasing_by
  have shorter := List.length_filter_le (fun other => !other == item) rest
  rw [List.length_cons]
  omega

namespace DashboardGroup

open Store (Dropped)

variable {answer : Question → Bool} {store : Store} {groupId target : String}
  {ids : List String}

/-- Dashboards of a group are deleted one by one. A group that is stored stays. -/
theorem ensures_forM_deleteById (sound : store.Sound) (consistent : store.Consistent)
    (once : ids.Nodup)
    (belong : ∀ id ∈ ids, ∃ face, store.face? id = some face ∧ face.groupId = some groupId) :
    Plan.Ensures Store.server answer (ids.forM Dashboard.deleteById) store
      fun _ after => Dropped ids store after ∧
        ((store.resource? .group groupId).isSome → (after.resource? .group groupId).isSome) := by
  induction ids generalizing store with
  | nil => exact Plan.ensures_pure ⟨.refl sound consistent, id⟩
  | cons id rest ih =>
      rw [List.nodup_cons] at once
      obtain ⟨face, there, names⟩ := belong id List.mem_cons_self
      change Plan.Ensures _ _ (Dashboard.deleteById id >>= fun _ =>
        rest.forM Dashboard.deleteById) _ _
      refine Plan.ensures_bind (ensures_deleteById sound consistent there names) ?_
      rintro _ between ⟨dropped, stays⟩
      refine (ih dropped.sound dropped.consistent once.2 ?_).mono ?_
      · intro other later
        obtain ⟨face', there', names'⟩ := belong other (.tail _ later)
        refine ⟨face', ?_, names'⟩
        rw [dropped.face?_of_not_mem, there']
        rw [List.mem_singleton]
        rintro rfl
        exact once.1 later
      · rintro _ after ⟨droppedRest, staysRest⟩
        exact ⟨dropped.trans droppedRest, fun isSome => staysRest (stays isSome)⟩

/-- Dashboards that are all that a group lists are removed with the group. -/
theorem ensures_removeGroup (sound : store.Sound) (consistent : store.Consistent)
    (once : ids.Nodup) (filled : ids ≠ []) {group : Json}
    (stored : store.resource? .group groupId = some group)
    (same : ∀ id, id ∈ ids ↔ id ∈ members group)
    (belong : ∀ id ∈ ids, ∃ face, store.face? id = some face ∧ face.groupId = some groupId) :
    Plan.Ensures Store.server answer (do
      ids.forM Dashboard.deleteChartsOf
      Plan.delete (Kind.group.path groupId)) store
      fun _ after => Dropped ids store after ∧ after.resource? .group groupId = none := by
  have there : ∀ id ∈ ids, (store.resource? .dashboard id).isSome := by
    intro id member
    obtain ⟨face, found, -⟩ := belong id member
    obtain ⟨dashboard, found, -⟩ := Store.exists_of_face? found
    rw [found]
    rfl
  refine Plan.ensures_bind ((ensures_forM_deleteChartsOf sound consistent once there
    (Store.AgreesOff.refl [] store) (by simp)).keeping Store.sound_server sound) ?_
  rintro _ between ⟨deleted, soundBetween⟩
  have stillGroup : between.documents.get? (Kind.group.path groupId) = some group :=
    (deleted _ (Kind.path_not_mem_paths (by decide) _ _)).trans (Store.get?_of_resource? stored)
  have answered := Store.server_delete_group stillGroup
  have goneGroup := Store.resource?_of_delete_group (Store.clean_of_resource? stored) between group
  refine Plan.ensures_call answered (Plan.ensures_pure ⟨?_, goneGroup⟩)
  obtain ⟨id, member⟩ := List.exists_mem_of_ne_nil ids filled
  obtain ⟨face, found, -⟩ := belong id member
  suffices removed : Store.DashboardsRemoved groupId ids store _ by
    refine removed.dropped consistent (soundBetween.of_server answered) member found ?_ ?_
    · exact fun new now => nomatch goneGroup.symm.trans now
    · intro old storedOld _ other listed
      obtain rfl := Option.some.inj (stored.symm.trans storedOld)
      exact (same other).mpr listed
  constructor
  case elsewhere =>
    intro path untouched
    rw [List.mem_cons, List.mem_append, not_or, not_or] at untouched
    have notDashboard : path ∉ Kind.dashboard.paths (members group) := by
      intro member
      obtain ⟨id, listed, rfl⟩ := List.mem_map.mp member
      exact untouched.2.1 (Kind.path_mem_paths.mpr ((same id).mpr listed))
    rw [Store.get?_removeAll, if_neg notDashboard, Store.get?_remove, if_neg untouched.1,
      deleted path untouched.2.2]
  case gone =>
    intro id member
    obtain ⟨dashboard, found⟩ := Option.isSome_iff_exists.mp (there id member)
    rw [Store.resource?_of_clean (Store.clean_of_resource? found), Store.get?_removeAll,
      if_pos (Kind.path_mem_paths.mpr ((same id).mp member))]
  case belonged =>
    intro id member face found
    obtain ⟨own, there, names⟩ := belong id member
    exact Option.some.inj (there.symm.trans found) ▸ names

/-- Dashboards that are in a group and that it lists. -/
def Has (store : Store) (groupId : String) (ids : List String) : Prop :=
  ∀ id ∈ ids, ∃ face, store.face? id = some face ∧ face.groupId = some groupId ∧
    ∃ list, store.listed? groupId = some list ∧ id ∈ list

/-- Dashboards of a group are removed, with the group if it lists no others. -/
theorem ensures_removeFrom (sound : store.Sound) (consistent : store.Consistent)
    (once : ids.Nodup) (filled : ids ≠ []) (has : Has store groupId ids) :
    Plan.Ensures Store.server answer (removeFrom groupId ids) store
      fun _ after => Dropped ids store after ∧
        ∀ list, store.listed? groupId = some list → list ⊆ ids →
          after.resource? .group groupId = none := by
  have belong : ∀ id ∈ ids, ∃ face, store.face? id = some face ∧ face.groupId = some groupId :=
    fun id member => (has id member).imp fun _ ⟨found, names, _⟩ => ⟨found, names⟩
  obtain ⟨id, member⟩ := List.exists_mem_of_ne_nil ids filled
  obtain ⟨_, _, _, _, listed, _⟩ := has id member
  obtain ⟨group, stored, rfl⟩ := Option.map_eq_some_iff.mp listed
  have isListed : ∀ id ∈ ids, id ∈ members group := by
    intro id member
    obtain ⟨_, _, _, _, listed', among⟩ := has id member
    exact Option.some.inj (listed.symm.trans listed') ▸ among
  refine Plan.ensures_call (Store.server_get (Store.get?_of_resource? stored)) ?_
  change Plan.Ensures _ _ (if (members group).all ids.contains then _ else _) _ _
  split
  case isTrue all =>
    have same : ∀ id, id ∈ ids ↔ id ∈ members group := fun id => ⟨isListed id, fun among =>
      List.contains_iff_mem.mp (List.all_eq_true.mp all id among)⟩
    exact (ensures_removeGroup sound consistent once filled stored same belong).mono
      fun _ _ ⟨dropped, gone⟩ => ⟨dropped, fun _ _ _ => gone⟩
  case isFalse others =>
    refine (ensures_forM_deleteById sound consistent once belong).mono ?_
    rintro _ after ⟨dropped, -⟩
    refine ⟨dropped, fun list listed' subset => (others ?_).elim⟩
    obtain rfl := Option.some.inj (listed.symm.trans listed')
    exact List.all_eq_true.mpr fun id among => List.contains_iff_mem.mpr (subset among)

/-- Dashboards of several groups are removed, group by group. A group that listed no others is
gone. -/
theorem ensures_forM_removeFrom {groups : List (String × List String)} (sound : store.Sound)
    (consistent : store.Consistent) (apart : (groups.map (·.1)).Nodup)
    (each : ∀ group ∈ groups, group.2.Nodup ∧ group.2 ≠ [] ∧ Has store group.1 group.2) :
    Plan.Ensures Store.server answer
      (groups.forM fun (groupId, dashboardIds) => removeFrom groupId dashboardIds) store
      fun _ after => Dropped (groups.flatMap (·.2)) store after ∧
        ∀ group ∈ groups, ∀ list, store.listed? group.1 = some list → list ⊆ group.2 →
          after.resource? .group group.1 = none := by
  induction groups generalizing store with
  | nil => exact Plan.ensures_pure ⟨.refl sound consistent, fun _ member => nomatch member⟩
  | cons group rest ih =>
      rw [List.map_cons, List.nodup_cons] at apart
      obtain ⟨once, filled, has⟩ := each group List.mem_cons_self
      change Plan.Ensures _ _ (removeFrom group.1 group.2 >>= fun _ =>
        rest.forM fun (groupId, dashboardIds) => removeFrom groupId dashboardIds) _ _
      refine Plan.ensures_bind (ensures_removeFrom sound consistent once filled has) ?_
      rintro _ between ⟨dropped, gone⟩
      have others : ∀ groupId, groupId ≠ group.1 →
          between.resource? .group groupId = store.resource? .group groupId := by
        intro groupId different
        refine dropped.groups groupId fun id member face found names => different ?_
        obtain ⟨face', found', names', -⟩ := has id member
        obtain rfl := Option.some.inj (found.symm.trans found')
        exact Option.some.inj (names.symm.trans names')
      have away : ∀ other ∈ rest, other.1 ≠ group.1 := fun other later same =>
        apart.1 (same ▸ List.mem_map_of_mem later)
      refine (ih dropped.sound dropped.consistent apart.2 fun other later => ?_).mono ?_
      · obtain ⟨once', filled', has'⟩ := each other (.tail _ later)
        refine ⟨once', filled', fun id member => ?_⟩
        obtain ⟨face, found, names, listed⟩ := has' id member
        refine ⟨face, ?_, names, ?_⟩
        · rw [dropped.face?_of_not_mem, found]
          intro removed
          obtain ⟨face', found', names', -⟩ := has id removed
          obtain rfl := Option.some.inj (found.symm.trans found')
          exact away other later (Option.some.inj (names.symm.trans names'))
        · rwa [Store.listed?, others other.1 (away other later)]
      · rintro _ after ⟨droppedRest, goneRest⟩
        refine ⟨dropped.trans droppedRest, fun other member list listed subset => ?_⟩
        rcases List.mem_cons.mp member with rfl | later
        · exact droppedRest.missing (gone list listed subset)
        · refine goneRest other later list ?_ subset
          rwa [Store.listed?, others other.1 (away other later)]

/-- Every group of a placement is named once. -/
theorem nodup_byGroup (placements : List Placement) :
    ((byGroup placements).map (·.1)).Nodup := by
  rw [byGroup, List.map_map]
  refine (List.Perm.nodup_iff ?_).mpr (nodup_eraseDups (placements.map (·.groupId)))
  exact (List.map_id _).symm ▸ List.mergeSort_perm _ _

/-- A group has all dashboards that are placed in it, and no others. -/
theorem mem_byGroup {placements : List Placement} {group : String × List String}
    (member : group ∈ byGroup placements) :
    group.1 ∈ placements.map (·.groupId) ∧
      group.2 = (placements.filter (·.groupId = group.1)).map (·.dashboardId) := by
  obtain ⟨groupId, among, rfl⟩ := List.mem_map.mp member
  rw [List.mem_mergeSort, List.mem_eraseDups] at among
  exact ⟨among, rfl⟩

/-- The group of a placement is there, with all that is placed in it. -/
theorem group_mem_byGroup {placements : List Placement} {placement : Placement}
    (member : placement ∈ placements) :
    (placement.groupId, (placements.filter (·.groupId = placement.groupId)).map (·.dashboardId)) ∈
      byGroup placements := by
  refine List.mem_map.mpr ⟨placement.groupId, ?_, rfl⟩
  rw [List.mem_mergeSort, List.mem_eraseDups]
  exact List.mem_map_of_mem member

/-- A placement is among those of its group. -/
theorem mem_filter_groupId {placements : List Placement} {placement : Placement}
    (member : placement ∈ placements) :
    placement.dashboardId ∈
      (placements.filter (·.groupId = placement.groupId)).map (·.dashboardId) :=
  List.mem_map_of_mem (List.mem_filter.mpr ⟨member, by simp⟩)

/-- Grouping placements loses none of their dashboards. -/
theorem mem_flatMap_byGroup {placements : List Placement} {id : String} :
    id ∈ (byGroup placements).flatMap (·.2) ↔ id ∈ placements.map (·.dashboardId) := by
  rw [List.mem_flatMap]
  constructor
  · rintro ⟨group, member, among⟩
    rw [(mem_byGroup member).2] at among
    obtain ⟨placement, filtered, same⟩ := List.mem_map.mp among
    exact List.mem_map.mpr ⟨placement, (List.mem_filter.mp filtered).1, same⟩
  · intro member
    obtain ⟨placement, placed, rfl⟩ := List.mem_map.mp member
    exact ⟨_, group_mem_byGroup placed, mem_filter_groupId placed⟩

/-- The dashboards that are placed elsewhere than in the target group. -/
def originals (target : String) (placements : List Placement) : List String :=
  (placements.filter (·.groupId ≠ target)).map (·.dashboardId)

theorem mem_originals {placements : List Placement} {id : String} :
    id ∈ originals target placements ↔
      ∃ placement ∈ placements, placement.groupId ≠ target ∧ placement.dashboardId = id := by
  simp [originals, and_assoc]

/-- The originals that are not in the target group are removed, and with them every group that
listed no others. -/
theorem ensures_removeSources {sources : List Placement} (sound : store.Sound)
    (consistent : store.Consistent) (once : (sources.map (·.dashboardId)).Nodup)
    (has : ∀ source ∈ sources, source.groupId ≠ target →
      Has store source.groupId [source.dashboardId]) :
    Plan.Ensures Store.server answer (removeSources target sources) store
      fun _ after => Dropped (originals target sources) store after ∧
        ∀ source ∈ sources, source.groupId ≠ target →
          store.listed? source.groupId = some [source.dashboardId] →
          after.resource? .group source.groupId = none := by
  unfold originals
  generalize isElsewhere : sources.filter (·.groupId ≠ target) = elsewhere
  have mem_iff : ∀ source, source ∈ elsewhere ↔ source ∈ sources ∧ source.groupId ≠ target := by
    intro source
    rw [← isElsewhere, List.mem_filter, decide_eq_true_iff]
  have subset : elsewhere.Sublist sources := isElsewhere ▸ List.filter_sublist
  have each : ∀ group ∈ byGroup elsewhere,
      group.2.Nodup ∧ group.2 ≠ [] ∧ Has store group.1 group.2 := by
    intro group member
    obtain ⟨among, ids⟩ := mem_byGroup member
    obtain ⟨placement, placed, same⟩ := List.mem_map.mp among
    rw [ids]
    refine ⟨once.sublist ((List.filter_sublist.trans subset).map _), ?_, ?_⟩
    · exact List.ne_nil_of_mem (List.mem_map_of_mem (List.mem_filter.mpr ⟨placed, by simp [same]⟩))
    · intro id isOne
      obtain ⟨source, filtered, rfl⟩ := List.mem_map.mp isOne
      obtain ⟨kept, names⟩ := List.mem_filter.mp filtered
      obtain ⟨isSource, outside⟩ := (mem_iff source).mp kept
      rw [← of_decide_eq_true names]
      exact has source isSource outside _ List.mem_cons_self
  rw [removeSources, isElsewhere]
  refine (ensures_forM_removeFrom sound consistent (nodup_byGroup elsewhere) each).mono ?_
  rintro _ after ⟨dropped, gone⟩
  refine ⟨dropped.congr fun _ => mem_flatMap_byGroup, fun source isSource outside listed => ?_⟩
  have kept := (mem_iff source).mpr ⟨isSource, outside⟩
  refine gone _ (group_mem_byGroup kept) _ listed fun id among => ?_
  rw [List.mem_singleton.mp among]
  exact mem_filter_groupId kept

end DashboardGroup

end SignalBoard
