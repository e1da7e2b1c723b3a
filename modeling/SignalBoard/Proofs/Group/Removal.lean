/-
# Removing dashboards and groups

Dashboards are removed with their charts, one by one from a group that stays, or all together
with the group. Which of the two it is makes no difference for faces, nor for the lists of other
groups. All that is asked for is that the store is sound and consistent.
-/

import SignalBoard.Proofs.Group.Answer
import SignalBoard.Proofs.Group.Dropped
import SignalBoard.Proofs.Reconcile.Charts

namespace SignalBoard

namespace Store

variable {store : Store} {answer : Question → Bool}

/-- A stored dashboard is deleted, and its group, if it names one that is stored, lists at most
others. -/
theorem exists_delete_dashboard {id groupId : String} {dashboard : Json} (sound : store.Sound)
    (stored : store.documents.get? (Kind.dashboard.path id) = some dashboard)
    (identified : dashboard.id? = some id) (names : dashboard.groupId?.getD "" = groupId) :
    ∃ after, server (.delete (Kind.dashboard.path id)) store = (.ok .null, after) ∧
      store.AgreesOff [Kind.dashboard.path id, Kind.group.path groupId] after ∧
      after.documents.get? (Kind.dashboard.path id) = none ∧
      (∀ new, after.resource? .group groupId = some new →
        ∃ old, store.resource? .group groupId = some old ∧ old.Relisted (Json.leaving [id]) new) ∧
      ((store.resource? .group groupId).isSome → (after.resource? .group groupId).isSome) := by
  have isDashboard : "/dashboard/".toList.isPrefixOf (Kind.dashboard.path id).toList = true :=
    (Kind.isPrefixOf_path_iff .dashboard .dashboard id).mpr rfl
  have named : (dashboard.field "groupId").string?.getD "" = groupId := names
  have stillGroup : (store.remove (Kind.dashboard.path id)).documents.get?
      (Kind.group.path groupId) = store.documents.get? (Kind.group.path groupId) := by
    rw [get?_remove, if_neg (Kind.path_ne (by decide) _ _)]
  have answered : ∀ {after}, perform (updateMembers groupId (Json.leaving [id]))
      (store.remove (Kind.dashboard.path id)) = (.ok (), after) →
      server (.delete (Kind.dashboard.path id)) store = (.ok .null, after) := by
    intro after updates
    rw [Json.leaving_singleton] at updates
    rw [server_eq_perform]
    simp only [answer, delete, perform_bind, perform_fetch, stored, perform_drop, isDashboard,
      if_true, named, Json.field_of_id? identified, updates, perform_pure]
  cases storedGroup : store.documents.get? (Kind.group.path groupId) with
  | none =>
      have missing := stillGroup.trans storedGroup
      refine ⟨_, answered (perform_updateMembers_none missing _), ?_, ?_, ?_, ?_⟩
      · intro path untouched
        rw [get?_remove, if_neg (List.ne_of_not_mem_cons untouched)]
      · rw [get?_remove, if_pos rfl]
      · intro new now
        cases missing.symm.trans (get?_of_resource? now)
      · intro isSome
        obtain ⟨old, there⟩ := Option.isSome_iff_exists.mp isSome
        cases storedGroup.symm.trans (get?_of_resource? there)
  | some group =>
      obtain ⟨new, updates, relisted⟩ := exists_relisted (stillGroup.trans storedGroup)
        (sound.isObject storedGroup) (Json.leaving [id])
      refine ⟨_, answered updates, ?_, ?_, ?_, ?_⟩
      · intro path untouched
        simp only [List.mem_cons, List.not_mem_nil, or_false, not_or] at untouched
        rw [get?_set, if_neg untouched.2, get?_remove, if_neg untouched.1]
      · rw [get?_set, if_neg (Kind.path_ne (by decide) _ _), get?_remove, if_pos rfl]
      · intro last now
        have clean := clean_of_resource? now
        rw [resource?_of_clean clean, get?_set, if_pos rfl] at now
        exact ⟨group, by rw [resource?_of_clean clean, storedGroup], Option.some.inj now ▸ relisted⟩
      · intro isSome
        obtain ⟨old, there⟩ := Option.isSome_iff_exists.mp isSome
        rw [resource?_of_clean (clean_of_resource? there), get?_set, if_pos rfl]
        rfl

/-- A stored dashboard is deleted after its charts. Its group, if it is stored, stays and lists at
most others. -/
theorem exists_dashboardRemoved {between : Store} {id groupId : String} {dashboard : Json}
    (sound : store.Sound) (stored : store.resource? .dashboard id = some dashboard)
    (names : dashboard.groupId? = some groupId) (soundBetween : between.Sound)
    (deleted : store.AgreesOff (Kind.chart.paths (store.layoutOf id)) between) :
    ∃ after, server (.delete (Kind.dashboard.path id)) between = (.ok .null, after) ∧
      DashboardsRemoved groupId [id] store after ∧
      between.AgreesOff [Kind.dashboard.path id, Kind.group.path groupId] after ∧
      (∀ new, after.resource? .group groupId = some new →
        ∃ old, store.resource? .group groupId = some old ∧ old.Relisted (Json.leaving [id]) new) ∧
      ((store.resource? .group groupId).isSome → (after.resource? .group groupId).isSome) := by
  have stillDashboard : between.documents.get? (Kind.dashboard.path id) = some dashboard :=
    (deleted _ (Kind.path_not_mem_paths (by decide) _ _)).trans (get?_of_resource? stored)
  have stillGroup : between.resource? .group groupId = store.resource? .group groupId :=
    deleted.resource?_eq (Kind.path_not_mem_paths (by decide) _ _)
  obtain ⟨after, answered, agrees, gone, left, stays⟩ := exists_delete_dashboard soundBetween
    stillDashboard (sound.id_of_resource? stored).1 (by rw [names, Option.getD_some])
  rw [stillGroup] at left stays
  refine ⟨after, answered, ?_, agrees, left, stays⟩
  constructor
  case elsewhere =>
    intro path untouched
    rw [List.mem_cons, List.mem_append, not_or, not_or] at untouched
    rw [agrees path, deleted path]
    · simpa using untouched.2.2
    · rw [List.mem_pair, not_or]
      exact ⟨fun same => untouched.2.1 (by simp [same, Kind.paths]), untouched.1⟩
  case gone =>
    intro other member
    rw [List.mem_singleton.mp member, resource?_of_clean (clean_of_resource? stored), gone]
  case belonged =>
    intro other member face found
    rw [List.mem_singleton.mp member, face?_eq stored] at found
    exact Option.some.inj found ▸ names

/-- The store without the documents at some paths. -/
def removeAll (store : Store) (paths : List String) : Store := paths.foldl remove store

theorem get?_removeAll (store : Store) (paths : List String) (path : String) :
    (store.removeAll paths).documents.get? path =
      if path ∈ paths then none else store.documents.get? path := by
  induction paths generalizing store with
  | nil => simp [removeAll]
  | cons first rest ih =>
      change ((store.remove first).removeAll rest).documents.get? path = _
      rw [ih, get?_remove]
      by_cases here : path = first
      · simp [here]
      · simp [here]

theorem perform_drops (ids : List String) (store : Store) :
    perform (ids.forM fun id => drop (Kind.dashboard.path id)) store =
      (.ok (), store.removeAll (Kind.dashboard.paths ids)) := by
  induction ids generalizing store with
  | nil => rfl
  | cons id rest ih =>
      change perform (drop (Kind.dashboard.path id) >>= fun _ =>
        rest.forM fun id => drop (Kind.dashboard.path id)) store = _
      simp only [perform_bind, perform_drop, ih]
      rfl

/-- A stored group is deleted with the dashboards that it lists. -/
theorem server_delete_group {groupId : String} {group : Json}
    (stored : store.documents.get? (Kind.group.path groupId) = some group) :
    server (.delete (Kind.group.path groupId)) store =
      (.ok .null, (store.remove (Kind.group.path groupId)).removeAll
        (Kind.dashboard.paths (DashboardGroup.members group))) := by
  have notDashboard : "/dashboard/".toList.isPrefixOf (Kind.group.path groupId).toList ≠ true :=
    fun beginning => nomatch (Kind.isPrefixOf_path_iff .dashboard .group groupId).mp beginning
  have isGroup : "/dashboardgroup/".toList.isPrefixOf (Kind.group.path groupId).toList = true :=
    (Kind.isPrefixOf_path_iff .group .group groupId).mpr rfl
  have listed : (group.field "dashboards").items.filterMap Json.string? =
      DashboardGroup.members group := rfl
  rw [server_eq_perform]
  simp only [answer, delete, perform_bind, perform_fetch, stored, perform_drop,
    if_neg notDashboard, isGroup, if_true, listed, perform_drops, perform_pure]

/-- A group that was deleted is gone. -/
theorem resource?_of_delete_group {groupId : String} (clean : '/' ∉ groupId.toList) (store : Store)
    (group : Json) :
    ((store.remove (Kind.group.path groupId)).removeAll
      (Kind.dashboard.paths (DashboardGroup.members group))).resource? .group groupId = none := by
  rw [resource?_of_clean clean, get?_removeAll, if_neg (Kind.path_not_mem_paths (by decide) _ _),
    get?_remove, if_pos rfl]

end Store

/-- The charts of a stored dashboard are deleted. -/
theorem Dashboard.ensures_deleteChartsOf {answer : Question → Bool} {store : Store} {id : String}
    {remote : Json}
    (atPath : store.documents.get? (Kind.dashboard.path id) = some remote)
    (once : (Layout.chartIds remote).Nodup)
    (stored : ∀ chartId ∈ Layout.chartIds remote, store.HasChart chartId) :
    Plan.Ensures Store.server answer (Dashboard.deleteChartsOf id) store
      fun _ after => Dashboard.ChartsDeleted (Layout.chartIds remote) store after :=
  Plan.ensures_call (Store.server_get atPath) (Dashboard.ensures_deleteCharts once stored)

namespace DashboardGroup

open Store (Dropped)

variable {answer : Question → Bool} {before current store : Store} {id groupId : String}
  {ids : List String} {paths : List String}

/-- The charts of a dashboard are deleted, when neither it nor one of them has been touched. -/
theorem ensures_deleteChartsOf (sound : before.Sound) (consistent : before.Consistent)
    {dashboard : Json} (stored : before.resource? .dashboard id = some dashboard)
    (agrees : before.AgreesOff paths current) (away : Kind.dashboard.path id ∉ paths)
    (awayCharts : ∀ chartId ∈ before.layoutOf id, Kind.chart.path chartId ∉ paths) :
    Plan.Ensures Store.server answer (Dashboard.deleteChartsOf id) current
      fun _ after => current.AgreesOff (Kind.chart.paths (before.layoutOf id)) after := by
  have here : current.documents.get? (Kind.dashboard.path id) = some dashboard :=
    (agrees _ away).trans (Store.get?_of_resource? stored)
  rw [Store.layoutOf_eq stored] at awayCharts ⊢
  apply (Dashboard.ensures_deleteChartsOf here (consistent.once id dashboard stored) ?_).mono
  · exact fun _ _ deleted => deleted.elsewhere
  · intro chartId member
    obtain ⟨chart, found⟩ :=
      Option.isSome_iff_exists.mp (consistent.placed id dashboard stored chartId member)
    have hasBefore : before.HasChart chartId :=
      ⟨chart, Store.get?_of_resource? found, (sound.id_of_resource? found).1⟩
    exact hasBefore.of_agreesOff agrees (awayCharts chartId member)

/-- The charts of several dashboards are deleted. -/
theorem ensures_forM_deleteChartsOf (sound : before.Sound) (consistent : before.Consistent)
    (once : ids.Nodup) (stored : ∀ id ∈ ids, (before.resource? .dashboard id).isSome)
    (agrees : before.AgreesOff paths current)
    (away : ∀ id ∈ ids, Kind.dashboard.path id ∉ paths ∧
      ∀ chartId ∈ before.layoutOf id, Kind.chart.path chartId ∉ paths) :
    Plan.Ensures Store.server answer (ids.forM Dashboard.deleteChartsOf) current
      fun _ after => current.AgreesOff (Kind.chart.paths (ids.flatMap before.layoutOf)) after := by
  induction ids generalizing current paths with
  | nil => exact Plan.ensures_pure (Store.AgreesOff.refl _ _)
  | cons id rest ih =>
      rw [List.nodup_cons] at once
      obtain ⟨dashboard, found⟩ := Option.isSome_iff_exists.mp (stored id List.mem_cons_self)
      obtain ⟨awayId, awayCharts⟩ := away id List.mem_cons_self
      change Plan.Ensures _ _ (Dashboard.deleteChartsOf id >>= fun _ =>
        rest.forM Dashboard.deleteChartsOf) _ _
      refine Plan.ensures_bind
        (ensures_deleteChartsOf sound consistent found agrees awayId awayCharts) ?_
      intro _ between deleted
      refine (ih once.2 (fun other later => stored other (.tail _ later)) (agrees.trans deleted)
        fun other later => ?_).mono fun _ after deletedToo => ?_
      · obtain ⟨awayOther, awayOtherCharts⟩ := away other (.tail _ later)
        refine ⟨fun touched => ?_, fun chartId member touched => ?_⟩
        · exact (List.mem_append.mp touched).elim awayOther
            (Kind.path_not_mem_paths (by decide) _ _)
        · refine (List.mem_append.mp touched).elim (awayOtherCharts chartId member) fun among => ?_
          have same := consistent.eq_of_layoutOf member (Kind.path_mem_paths.mp among)
          exact once.1 (same ▸ later)
      · have whole := deleted.trans deletedToo
        rwa [Kind.paths, Kind.paths, ← List.map_append] at whole

/-- A dashboard of a group is deleted with its charts. A group that is stored stays. -/
theorem ensures_deleteById (sound : store.Sound) (consistent : store.Consistent) {face : Face}
    (there : store.face? id = some face) (names : face.groupId = some groupId) :
    Plan.Ensures Store.server answer (Dashboard.deleteById id) store
      fun _ after => Dropped [id] store after ∧
        ((store.resource? .group groupId).isSome → (after.resource? .group groupId).isSome) := by
  obtain ⟨dashboard, stored, rfl⟩ := Store.exists_of_face? there
  have namesGroup : dashboard.groupId? = some groupId := names
  refine Plan.ensures_bind ((ensures_deleteChartsOf sound consistent stored
    (Store.AgreesOff.refl [] _) (by simp) (by simp)).keeping Store.sound_server sound) ?_
  rintro _ between ⟨deleted, soundBetween⟩
  obtain ⟨after, answered, removed, -, left, stays⟩ :=
    Store.exists_dashboardRemoved sound stored namesGroup soundBetween deleted
  refine Plan.ensures_call answered (Plan.ensures_pure ⟨?_, stays⟩)
  apply removed.dropped consistent (soundBetween.of_server answered) List.mem_cons_self there left
  intro old storedOld none
  have isSome := stays (by rw [storedOld]; rfl)
  rw [none] at isSome
  cases isSome

end DashboardGroup

end SignalBoard
