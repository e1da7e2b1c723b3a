/-
# Removing dashboards keeps a store intact

Charts are deleted before the dashboard that shows them. For a while the layout then names charts
that are gone, so what is left in between is told exactly, by the paths that were removed, until the
dashboard is deleted or the whole group with it. A group that is deleted by itself takes its
dashboards along, but not their charts.
-/

import SignalBoard.Proofs.Group.Sources
import SignalBoard.Proofs.Integrity.Dashboard

namespace SignalBoard

open Store (DashboardsRemoved Intact)

variable {answer : Question → Bool} {store : Store} {id groupId : String} {ids : List String}
  {loose : String → Prop}

namespace Store

/-- Charts that are removed do not change what layouts name. -/
theorem layoutOf_removeAll (store : Store) (chartIds : List String) :
    (store.removeAll (Kind.chart.paths chartIds)).layoutOf = store.layoutOf := by
  funext id
  rw [layoutOf, layoutOf, resource?_congr]
  rw [get?_removeAll, if_neg (Kind.path_not_mem_paths (by decide) _ _)]

theorem removeAll_append (store : Store) (first second : List String) :
    store.removeAll (first ++ second) = (store.removeAll first).removeAll second :=
  List.foldl_append

theorem Sound.removeAll (sound : store.Sound) (paths : List String) :
    (store.removeAll paths).Sound := by
  induction paths generalizing store with
  | nil => exact sound
  | cons path rest ih => exact ih ((Step.remove store path).sound sound)

/-- Deleting charts removes them, as they are all stored, and nothing else. -/
theorem yields_forM_deleteChart (chartIds : List String) :
    Plan.Yields server answer (chartIds.forM Chart.deleteById) store
      fun _ after => (∀ chartId ∈ chartIds,
          (store.documents.get? (Kind.chart.path chartId)).isSome) ∧
        after = store.removeAll (Kind.chart.paths chartIds) := by
  induction chartIds generalizing store with
  | nil => exact Plan.yields_pure ⟨by simp, rfl⟩
  | cons chartId rest ih =>
      show Plan.Yields server answer
        (Chart.deleteById chartId >>= fun _ => rest.forM Chart.deleteById) store _
      have deletes : Plan.Yields server answer (Chart.deleteById chartId) store
          fun _ after => (store.documents.get? (Kind.chart.path chartId)).isSome ∧
            after = store.remove (Kind.chart.path chartId) :=
        Plan.yields_call fun reply after answered =>
          Plan.yields_pure (eq_remove_of_delete_chart answered)
      apply Plan.yields_bind deletes
      rintro _ _ ⟨isSome, rfl⟩
      apply ih.mono
      rintro _ after ⟨later, rfl⟩
      refine ⟨fun other member => ?_, rfl⟩
      rcases List.mem_cons.mp member with rfl | among
      · exact isSome
      · have still := later other among
        rw [get?_remove] at still
        split at still
        · cases still
        · exact still

/-- Deleting the charts of a dashboard removes what its layout names. The dashboard is stored, and
so are these charts. -/
theorem yields_deleteChartsOf (clean : '/' ∉ id.toList) :
    Plan.Yields server answer (Dashboard.deleteChartsOf id) store
      fun _ after => (store.resource? .dashboard id).isSome ∧
        (∀ chartId ∈ store.layoutOf id,
          (store.documents.get? (Kind.chart.path chartId)).isSome) ∧
        after = store.removeAll (Kind.chart.paths (store.layoutOf id)) := by
  apply Plan.yields_call
  intro dashboard after answered
  obtain ⟨atPath, rfl⟩ := stored_of_get answered
  have stored : after.resource? .dashboard id = some dashboard := by
    rw [resource?_of_clean clean, atPath]
  rw [layoutOf_eq stored, stored]
  exact (yields_forM_deleteChart (Layout.chartIds dashboard)).mono fun _ _ deleted => ⟨rfl, deleted⟩

/-- Deleting the charts of several dashboards removes what their layouts name. -/
theorem yields_forM_deleteChartsOf (clean : ∀ id ∈ ids, '/' ∉ id.toList) :
    Plan.Yields server answer (ids.forM Dashboard.deleteChartsOf) store
      fun _ after => after = store.removeAll (Kind.chart.paths (ids.flatMap store.layoutOf)) := by
  induction ids generalizing store with
  | nil => exact Plan.yields_pure rfl
  | cons id rest ih =>
      show Plan.Yields server answer
        (Dashboard.deleteChartsOf id >>= fun _ => rest.forM Dashboard.deleteChartsOf) store _
      apply Plan.yields_bind (yields_deleteChartsOf (clean id List.mem_cons_self))
      rintro _ _ ⟨-, -, rfl⟩
      apply (ih fun other later => clean other (.tail _ later)).mono
      rintro _ _ rfl
      rw [layoutOf_removeAll, List.flatMap_cons, Kind.paths_append, removeAll_append]

/-- Dashboards that name a group, told by their faces. -/
theorem groupId_face?_of_home? (homes : ∀ id ∈ ids, store.home? id = some groupId) :
    ∀ id ∈ ids, ∀ face, store.face? id = some face → face.groupId = some groupId := by
  intro id member face found
  obtain ⟨dashboard, stored, rfl⟩ := exists_of_face? found
  exact (home?_eq stored).symm.trans (homes id member)

namespace Intact

/-- A dashboard whose charts were deleted is deleted. -/
theorem delete_dashboard (intact : Intact loose store)
    (isSome : (store.resource? .dashboard id).isSome) :
    ∃ after, server (.delete (Kind.dashboard.path id))
        (store.removeAll (Kind.chart.paths (store.layoutOf id))) = (.ok .null, after) ∧
      Intact loose after ∧
      ∀ other, after.home? other = if other = id then none else store.home? other := by
  obtain ⟨dashboard, stored⟩ := Option.isSome_iff_exists.mp isSome
  obtain ⟨groupId, home, isSomeGroup⟩ := intact.homed id isSome
  have soundBetween := intact.sound.removeAll (Kind.chart.paths (store.layoutOf id))
  obtain ⟨after, answered, removed, agrees, left, stays⟩ := exists_dashboardRemoved intact.sound
    stored ((home?_eq stored).symm.trans home) soundBetween fun path away => by
      rw [get?_removeAll, if_neg away]
  have gone : ∀ chartId ∈ [id].flatMap store.layoutOf,
      ¬ (after.resource? .chart chartId).isSome := by
    intro chartId member isSome
    obtain ⟨chart, found⟩ := Option.isSome_iff_exists.mp isSome
    have there := get?_of_resource? found
    rw [agrees _ (by simp [Kind.path_ne]), get?_removeAll,
      if_pos (Kind.path_mem_paths.mpr (by simpa using member))] at there
    cases there
  obtain ⟨intactAfter, homes⟩ := intact.remove removed (soundBetween.of_server answered) left
    fun none => absurd (stays isSomeGroup) (by simp [none])
  refine ⟨after, answered, intactAfter.congr fun chartId => ?_, fun other => by
    simpa using homes other⟩
  exact ⟨.inl, fun isLoose => isLoose.resolve_right fun left => gone chartId left.1 left.2⟩

/-- A group is deleted after some of the charts on its dashboards. Its dashboards go with it, and
their other charts are then loose. -/
theorem delete_group (intact : Intact loose store) {group : Json}
    (stored : store.resource? .group groupId = some group) {chartIds : List String}
    (own : chartIds ⊆ (DashboardGroup.members group).flatMap store.layoutOf) :
    ∃ after, server (.delete (Kind.group.path groupId))
        (store.removeAll (Kind.chart.paths chartIds)) = (.ok .null, after) ∧
      Intact (fun chartId => loose chartId ∨ chartId ∉ chartIds ∧
        chartId ∈ (DashboardGroup.members group).flatMap store.layoutOf) after ∧
      ∀ other, after.home? other =
        if other ∈ DashboardGroup.members group then none else store.home? other := by
  have homes : ∀ id ∈ DashboardGroup.members group, store.home? id = some groupId :=
    fun id => (intact.mem_members_iff stored).mp
  have soundBetween := intact.sound.removeAll (Kind.chart.paths chartIds)
  have stillGroup : (store.removeAll (Kind.chart.paths chartIds)).documents.get?
      (Kind.group.path groupId) = some group := by
    rw [get?_removeAll, if_neg (Kind.path_not_mem_paths (by decide) _ _), get?_of_resource? stored]
  have answered := server_delete_group stillGroup
  have goneGroup := resource?_of_delete_group (clean_of_resource? stored)
    (store.removeAll (Kind.chart.paths chartIds)) group
  refine ⟨_, answered, ?_⟩
  suffices removed : DashboardsRemoved groupId (DashboardGroup.members group) store _ by
    obtain ⟨intactAfter, homesAfter⟩ := intact.remove removed (soundBetween.of_server answered)
      (fun new now => nomatch goneGroup.symm.trans now)
      fun _ id => (intact.mem_members_iff stored).mpr
    refine ⟨intactAfter.congr fun chartId => or_congr_right ?_, homesAfter⟩
    rw [and_comm]
    refine and_congr_right fun member => ?_
    obtain ⟨id, -, onLayout⟩ := List.mem_flatMap.mp member
    obtain ⟨chart, found⟩ :=
      Option.isSome_iff_exists.mp (intact.consistent.stored_of_layoutOf onLayout)
    rw [resource?_of_clean (clean_of_resource? found), get?_removeAll,
      if_neg (Kind.path_not_mem_paths (by decide) _ _), get?_remove,
      if_neg (Kind.path_ne (by decide) _ _), get?_removeAll, get?_of_resource? found]
    by_cases deleted : chartId ∈ chartIds
    · simp [deleted, Kind.path_mem_paths]
    · simp [deleted, Kind.path_mem_paths]
  constructor
  case elsewhere =>
    intro path untouched
    rw [List.mem_cons, List.mem_append, not_or, not_or] at untouched
    obtain ⟨notGroup, notDashboard, notChart⟩ := untouched
    rw [get?_removeAll, if_neg notDashboard, get?_remove, if_neg notGroup, get?_removeAll, if_neg]
    intro member
    obtain ⟨chartId, deleted, rfl⟩ := List.mem_map.mp member
    exact notChart (Kind.path_mem_paths.mpr (own deleted))
  case gone =>
    intro id member
    rw [resource?_of_clean (clean_of_home? (homes id member)), get?_removeAll,
      if_pos (Kind.path_mem_paths.mpr member)]
  case belonged => exact groupId_face?_of_home? homes

/-- A dashboard is deleted with its charts. -/
theorem yields_deleteById (intact : Intact loose store) (clean : '/' ∉ id.toList) :
    Plan.Yields server answer (Dashboard.deleteById id) store
      fun _ after => Intact loose after ∧
        ∀ other, after.home? other = if other = id then none else store.home? other := by
  apply Plan.yields_bind (yields_deleteChartsOf clean)
  rintro _ _ ⟨isSome, -, rfl⟩
  obtain ⟨after, answered, kept⟩ := intact.delete_dashboard isSome
  refine (Plan.ensures_call answered ?_).yields
  exact Plan.ensures_pure kept

/-- Dashboards are deleted one by one, with their charts. -/
theorem yields_forM_deleteById (intact : Intact loose store) (clean : ∀ id ∈ ids, '/' ∉ id.toList) :
    Plan.Yields server answer (ids.forM Dashboard.deleteById) store
      fun _ after => Intact loose after ∧
        ∀ other, after.home? other = if other ∈ ids then none else store.home? other := by
  induction ids generalizing store with
  | nil => exact Plan.yields_pure ⟨intact, fun _ => rfl⟩
  | cons id rest ih =>
      show Plan.Yields server answer
        (Dashboard.deleteById id >>= fun _ => rest.forM Dashboard.deleteById) store _
      apply Plan.yields_bind (intact.yields_deleteById (clean id List.mem_cons_self))
      rintro _ between ⟨intactBetween, homes⟩
      apply (ih intactBetween fun other later => clean other (.tail _ later)).mono
      rintro _ after ⟨intactAfter, homesAfter⟩
      refine ⟨intactAfter, fun other => ?_⟩
      rw [homesAfter, homes]
      by_cases first : other = id
      · simp [first]
      · simp [first]

end Intact

end Store

namespace DashboardGroup

variable {target : String}

/-- Dashboards are removed from their group with their charts. Dashboards of other groups stay. -/
theorem yields_removeFrom (intact : Intact loose store) (clean : '/' ∉ groupId.toList)
    (homes : ∀ id ∈ ids, store.home? id = some groupId) :
    Plan.Yields Store.server answer (removeFrom groupId ids) store
      fun _ after => Intact loose after ∧
        ∀ id, store.home? id ≠ some groupId → after.home? id = store.home? id := by
  apply Plan.yields_call
  intro group store answered
  obtain ⟨atPath, rfl⟩ := Store.stored_of_get answered
  have stored : store.resource? .group groupId = some group := by
    rw [Store.resource?_of_clean clean, atPath]
  change Plan.Yields _ _ (if (members group).all ids.contains then _ else _) _ _
  split
  case isTrue all =>
    have same : ∀ id, id ∈ ids ↔ id ∈ members group := fun id =>
      ⟨fun member => (intact.mem_members_iff stored).mpr (homes id member),
        fun among => List.contains_iff_mem.mp (List.all_eq_true.mp all id among)⟩
    have charts : ∀ chartId, chartId ∈ ids.flatMap store.layoutOf ↔
        chartId ∈ (members group).flatMap store.layoutOf := by
      simp only [List.mem_flatMap, same, implies_true]
    apply Plan.yields_bind (Store.yields_forM_deleteChartsOf fun id member =>
      Store.clean_of_home? (homes id member))
    rintro _ _ rfl
    obtain ⟨after, answered, intactAfter, homesAfter⟩ := intact.delete_group stored
      fun chartId => (charts chartId).mp
    refine (Plan.ensures_call answered ?_).yields
    refine Plan.ensures_pure ⟨intactAfter.congr fun chartId => ?_, fun id other => ?_⟩
    · rw [← charts]
      simp
    · rw [homesAfter, if_neg fun among => other (homes id ((same id).mpr among))]
  case isFalse others =>
    apply (intact.yields_forM_deleteById fun id member =>
      Store.clean_of_home? (homes id member)).mono
    rintro _ after ⟨intactAfter, homesAfter⟩
    refine ⟨intactAfter, fun id other => ?_⟩
    rw [homesAfter, if_neg fun member => other (homes id member)]

/-- The originals of clones are removed with their charts. What is in the target group stays. -/
theorem yields_removeSources (intact : Intact loose store) {sources : List Placement}
    (homes : ∀ source ∈ sources, store.home? source.dashboardId = some source.groupId) :
    Plan.Yields Store.server answer (removeSources target sources) store
      fun _ after => Intact loose after ∧
        ∀ id, store.home? id = some target → after.home? id = some target := by
  let groups := byGroup (sources.filter (·.groupId ≠ target))
  have each : ∀ group ∈ groups, group.1 ≠ target ∧ '/' ∉ group.1.toList ∧
      ∀ id ∈ group.2, store.home? id = some group.1 := by
    intro group member
    obtain ⟨among, ids⟩ := mem_byGroup member
    obtain ⟨source, filtered, same⟩ := List.mem_map.mp among
    obtain ⟨isSource, outside⟩ := List.mem_filter.mp filtered
    refine ⟨same ▸ of_decide_eq_true outside,
      same ▸ intact.clean_group (homes source isSource), fun id isOne => ?_⟩
    rw [ids] at isOne
    obtain ⟨other, filtered, rfl⟩ := List.mem_map.mp isOne
    obtain ⟨kept, names⟩ := List.mem_filter.mp filtered
    rw [homes other (List.mem_filter.mp kept).1, of_decide_eq_true names]
  have apart : (groups.map (·.1)).Nodup := nodup_byGroup _
  have removes : Plan.Yields Store.server answer
      (groups.forM fun group => removeFrom group.1 group.2) store
      fun _ after => Intact loose after ∧ ∀ id groupId, groupId ∉ groups.map (·.1) →
        store.home? id = some groupId → after.home? id = some groupId := by
    apply Plan.yields_forM (fun past after => Intact loose after ∧
      ∀ id groupId, groupId ∉ past.map (·.1) → store.home? id = some groupId →
        after.home? id = some groupId) ?_ (List.nil_append groups) ⟨intact, fun _ _ _ home => home⟩
    rintro past group rest between split ⟨intactBetween, keeps⟩
    obtain ⟨-, clean, homesHere⟩ := each group (split ▸ by simp)
    have notPast : group.1 ∉ past.map (·.1) := by
      rw [← split, List.map_append, List.map_cons, List.nodup_append] at apart
      exact fun among => apart.2.2 _ among _ List.mem_cons_self rfl
    apply (yields_removeFrom intactBetween clean fun id member =>
      keeps id group.1 notPast (homesHere id member)).mono
    rintro _ after ⟨intactAfter, others⟩
    refine ⟨intactAfter, fun id groupId away home => ?_⟩
    rw [List.map_append, List.mem_append, not_or] at away
    have there := keeps id groupId away.1 home
    rw [others, there]
    rw [there]
    exact fun same => away.2 (by simp [Option.some.inj same])
  apply removes.mono
  rintro _ after ⟨intactAfter, keeps⟩
  refine ⟨intactAfter, fun id => keeps id target fun among => ?_⟩
  obtain ⟨group, member, same⟩ := List.mem_map.mp among
  exact (each group member).1 same

end DashboardGroup

namespace Dashboard

/-- Deleting a dashboard by its name deletes it with its charts. -/
theorem yields_delete_intact (intact : Intact loose store) (dashboard : Dashboard) :
    Plan.Yields Store.server answer dashboard.delete store fun _ after => Intact loose after := by
  apply Plan.yields_bind (intact.sound.yields_requireUnique .dashboard dashboard.name)
  rintro remote store ⟨rfl, -, id, identified, stored⟩
  rw [requireId_eq identified, pure_bind]
  exact (intact.yields_deleteById (Store.clean_of_resource? stored)).mono
    fun _ _ deleted => deleted.1

end Dashboard

end SignalBoard
