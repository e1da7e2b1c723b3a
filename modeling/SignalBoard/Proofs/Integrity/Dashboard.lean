/-
# Operations on dashboards keep a store intact

A dashboard that is created takes its charts and its group with it; one that is updated exchanges
charts for others and stays in its group; and one that is deleted is preceded by its charts and
leaves the list of its group. Nothing is assumed of names: two local charts may share one, and so
may two stored dashboards.
-/

import SignalBoard.Proofs.Group.Aligned
import SignalBoard.Proofs.Integrity.Basic
import SignalBoard.Proofs.Plan.Left

namespace SignalBoard

open Function (update)
open Store (Intact KeepsHomes)

variable {answer : Question → Bool} {store before between after : Store} {id groupId : String}
  {loose : String → Prop}

namespace Store

/-- A dashboard was written, and the others are in the groups they were in. -/
structure Lodged (loose : String → Prop) (before : Store) (reply : Json) (after : Store) :
    Prop where
  intact : Intact loose after
  keeps : before.KeepsHomes after
  home : ∃ id groupId, reply.id? = some id ∧ reply.groupId? = some groupId ∧
    after.home? id = some groupId

/-- Adding a dashboard keeps the others in their groups. -/
theorem keepsHomes_of_update {home : Option String} (fresh : before.home? id = none)
    (homes : after.home? = update before.home? id home) : before.KeepsHomes after := by
  intro other groupId there
  rw [homes, Function.update_of_ne, there]
  rintro rfl
  rw [fresh] at there
  cases there

theorem Extended.home?_eq_none {chartIds : List String} {dashboard : Json}
    (extended : Extended groupId id chartIds dashboard before after) : before.home? id = none := by
  rw [home?, extended.fresh, Option.bind_none]

/-- A question whether a name is taken leaves the store alone, whatever the user says. -/
theorem yields_guardCreate_same (kind : Kind) (name : String) (options : CreateOptions) :
    Plan.Yields server answer (guardCreate kind name options) store fun _ after => after = store :=
  have sends : Plan.Sends (fun request => request.mutates = false)
      (guardCreate kind name options) := Plan.sends_guardCreate rfl
  have still : ∀ request state, request.mutates = false → state = store →
      (server request state).2 = store := fun _ state reads same =>
    (server_of_reads reads state).trans same
  (sends.leaves still rfl).yields

/-- The resource that a name identifies, with the identifier under which it is stored. -/
theorem Sound.yields_requireUnique (sound : store.Sound) (kind : Kind) (name : String) :
    Plan.Yields server answer (requireUnique kind name) store
      fun remote after => after = store ∧ store.named kind name = [remote] ∧
        ∃ id, remote.id? = some id ∧ store.resource? kind id = some remote := by
  apply Plan.yields_bind (yields_findUnique kind name)
  rintro found store ⟨alone, rfl⟩
  cases found with
  | none => exact Plan.yields_fail _
  | some remote =>
      obtain ⟨id, stored, -⟩ := sound.exists_of_named alone
      exact Plan.yields_pure ⟨rfl, alone, id, (sound.id_of_resource? stored).1, stored⟩

end Store

namespace Dashboard

variable {dashboard : Dashboard} {overrides : Overrides} {remote reply : Json}
  {chartIds : List String}

/-- A dashboard that was created is in the new group. -/
theorem Created.lodged
    (created : dashboard.Created overrides groupId id chartIds reply before after)
    (intact : Intact loose before) (sound : after.Sound) :
    Store.Lodged loose before reply after := by
  obtain ⟨group, listed, lists⟩ := created.group
  have proper : Layout.Proper reply := by
    refine ⟨_, created.charts_reply, fun entry member => ?_⟩
    obtain ⟨_, -, chartId, names, -⟩ := Store.exists_of_forall₂_right
      (Store.forall₂_placedEntries created.shown 0) member
    rw [names]
    rfl
  have unnamed : ∀ other, before.home? other ≠ some groupId := by
    intro other home
    have isSome := intact.group_of_home? home
    rw [created.freshGroup] at isSome
    cases isSome
  obtain ⟨intactAfter, homes⟩ := intact.extend created.toExtended sound proper
    created.groupId?_reply listed lists fun other => by simp [unnamed]
  refine ⟨intactAfter, Store.keepsHomes_of_update created.home?_eq_none homes, id, groupId,
    (sound.id_of_resource? created.stored).1, created.groupId?_reply, ?_⟩
  rw [homes, Function.update_self]

/-- Every entry of the layout after an update names a chart. -/
theorem proper_updated (object : remote.isObject = true) :
    Layout.Proper (dashboard.updated overrides store id remote) := by
  refine ⟨_, charts_updated overrides id object, fun entry member => ?_⟩
  cases List.mem_append.mp member with
  | inl old => exact (List.mem_filter.mp (List.mem_filter.mp old).1).2
  | inr new =>
      have same : ∀ ids : List String, List.Forall₂ (· = ·) ids ids :=
        fun ids => List.forall₂_same.mpr fun _ _ => rfl
      obtain ⟨_, -, chartId, names, -⟩ := Store.exists_of_forall₂_right
        (Layout.forall₂_stacked (same _) _) new
      rw [names]
      rfl

/-- Besides the charts on the new layout, an update of a dashboard leaves the charts that were not
on its old one. -/
theorem Reconciled.charts (reconciled : dashboard.Reconciled (Layout.entries remote) store between)
    (placeable : Placeable store (Layout.entries remote)) (object : remote.isObject = true)
    {chartId : String}
    (hidden : chartId ∉ Layout.chartIds (dashboard.updated overrides store id remote)) :
    (between.documents.get? (Kind.chart.path chartId)).isSome ↔
      (store.documents.get? (Kind.chart.path chartId)).isSome ∧
        chartId ∉ Layout.chartIds remote := by
  rw [chartIds_updated overrides id object, List.mem_append, not_or] at hidden
  by_cases onOld : chartId ∈ Layout.chartIds remote
  case pos =>
    have shown := onOld
    rw [← Layout.filterMap_entries] at shown
    obtain ⟨entry, among, names⟩ := List.mem_filterMap.mp shown
    have own : (store.placed entry).id = chartId :=
      Option.some.inj ((placeable.chartId?_eq among).symm.trans names)
    have unnamed : dashboard.chartNamed? (store.placed entry).name = none := by
      by_contra named
      exact hidden.1 (List.mem_filterMap.mpr
        ⟨entry, List.mem_filter.mpr ⟨among, Option.isSome_iff_ne_none.mpr named⟩, names⟩)
    rw [← own, reconciled.gone entry among unnamed, own]
    simp [onOld]
  case neg =>
    rw [reconciled.elsewhere]
    · simp [onOld]
    · rw [Kind.path_mem_paths, List.mem_append, not_or, Layout.filterMap_entries]
      exact ⟨onOld, hidden.2⟩

/-- An update of a dashboard puts only charts on its layout that were there or were not stored. -/
theorem Reconciled.added (reconciled : dashboard.Reconciled (Layout.entries remote) store between)
    (sound : store.Sound) (object : remote.isObject = true) {chartId : String}
    (shown : chartId ∈ Layout.chartIds (dashboard.updated overrides store id remote)) :
    chartId ∈ Layout.chartIds remote ∨ store.resource? .chart chartId = none := by
  rw [chartIds_updated overrides id object, List.mem_append] at shown
  refine shown.imp (fun kept => ?_) fun new => ?_
  · rw [← Layout.filterMap_entries]
    exact (List.filter_sublist.filterMap _).subset kept
  · obtain ⟨chart, -, unknown, -⟩ := Store.exists_of_forall₂_right
      (reconciled.created_fresh sound id remote) new
    exact unknown .chart

/-- A stored dashboard that was updated is in the group it was in. -/
theorem Reconciled.lodged (reconciled : dashboard.Reconciled (Layout.entries remote) store between)
    (intact : Intact loose store) (stored : store.resource? .dashboard id = some remote)
    (overrides : Overrides)
    (sound : (between.set (Kind.dashboard.path id)
      (dashboard.updated overrides store id remote)).Sound) :
    Store.Lodged loose store (dashboard.updated overrides store id remote)
      (between.set (Kind.dashboard.path id) (dashboard.updated overrides store id remote)) := by
  let reply := dashboard.updated overrides store id remote
  have object := intact.sound.isObject (Store.get?_of_resource? stored)
  have placeable := intact.consistent.placeable intact.sound stored
  have clean := Store.clean_of_resource? stored
  have now : (between.set (Kind.dashboard.path id) reply).resource? .dashboard id = some reply := by
    rw [Store.resource?_of_clean clean, Store.get?_set, if_pos rfl]
  have sameGroup : reply.groupId? = remote.groupId? := groupId?_updated object
  have charts : ∀ chartId, chartId ∉ Layout.chartIds reply →
      (((between.set (Kind.dashboard.path id) reply).resource? .chart chartId).isSome ↔
        (store.resource? .chart chartId).isSome ∧ chartId ∉ Layout.chartIds remote) := by
    intro chartId hidden
    by_cases clean : '/' ∈ chartId.toList
    · simp [Store.resource?, clean]
    · rw [resource?_chart_set clean, Store.resource?_of_clean clean]
      exact reconciled.charts placeable object hidden
  obtain ⟨intactAfter, homes⟩ := intact.relay sound
    (reconciled.consistent_set intact.sound intact.consistent stored overrides sound) stored now
    (fun other different => reconciled.resource?_dashboard_set different reply)
    (fun other => (reconciled.agreesOff_set reply).resource?_eq (by
      rw [List.mem_cons, not_or]
      exact ⟨Kind.path_ne (by decide) _ _, Kind.path_not_mem_paths (by decide) _ _⟩))
    (proper_updated object) sameGroup charts fun _ => reconciled.added intact.sound object
  obtain ⟨groupId, home, -⟩ := intact.homed id (by rw [stored]; rfl)
  have names : reply.groupId? = some groupId := by rw [sameGroup, ← Store.home?_eq stored, home]
  exact ⟨intactAfter, Store.keepsHomes_of_eq homes, id, groupId, (sound.id_of_resource? now).1,
    names, (congrFun homes id).trans home⟩

/-- However a dashboard is created, it is in a new group. -/
theorem yields_createUnguarded_lodged (intact : Intact loose store)
    (valid : dashboard.check = .ok ()) (overrides : Overrides) :
    Plan.Yields Store.server answer (dashboard.createUnguarded overrides) store
      fun reply after => Store.Lodged loose store reply after := by
  apply ((ensures_createUnguarded_created intact.sound valid overrides).yields.keeping
    Store.sound_server intact.sound).mono
  rintro reply after ⟨⟨groupId, id, chartIds, created⟩, sound⟩
  exact created.lodged intact sound

theorem yields_create_intact (intact : Intact loose store) (options : CreateOptions) :
    Plan.Yields Store.server answer (dashboard.create options) store
      fun _ after => Intact loose after := by
  apply Plan.yields_checked_bind
  rintro ⟨⟩ valid
  apply Plan.yields_bind (Store.yields_guardCreate_same _ _ options)
  rintro _ store rfl
  exact (yields_createUnguarded_lodged intact valid {}).mono fun _ _ lodged => lodged.intact

/-- An update puts a dashboard into its group, or leaves it there. -/
theorem yields_update_lodged (intact : Intact loose store) (overrides : Overrides) :
    Plan.Yields Store.server answer (dashboard.update overrides) store
      fun reply after => Store.Lodged loose store reply after := by
  apply (yields_update_found overrides).assuming
  rintro ⟨valid, found, alone⟩
  cases found with
  | none =>
      unfold update
      rw [Plan.checked_eq valid, pure_bind]
      apply Plan.yields_bind (Store.ensures_findUnique alone).yields
      rintro _ store ⟨rfl, rfl⟩
      exact yields_createUnguarded_lodged intact valid overrides
  | some remote =>
      obtain ⟨id, stored, -⟩ := intact.sound.exists_of_named alone
      have placeable := intact.consistent.placeable intact.sound stored
      apply ((ensures_update_stored valid intact.sound overrides alone stored
        placeable).yields.keeping Store.sound_server intact.sound).mono
      rintro _ _ ⟨⟨rfl, between, reconciled, rfl⟩, sound⟩
      exact reconciled.lodged intact stored overrides sound

end Dashboard

end SignalBoard
