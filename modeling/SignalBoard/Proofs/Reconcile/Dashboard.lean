/-
# Reconciling a stored dashboard

The loops over the charts of a layout, one after the other, and the update of a stored dashboard
around them. What an update leaves is told from the store before it: every chart with a local
name is revised, every other chart of the layout is gone, every missing chart is stored under
the next fresh identifier, and nothing else but the dashboard itself has changed.
-/

import Mathlib.Data.List.Forall2
import Mathlib.Data.List.Nodup
import SignalBoard.Proofs.Reconcile.Renewal

namespace SignalBoard.Dashboard

variable {answer : Question → Bool} {dashboard : Dashboard} {store : Store}

/-- The entries of a layout whose chart has a local name. -/
def kept (dashboard : Dashboard) (store : Store) (layout : List Json) : List Json :=
  layout.filter fun entry => (dashboard.chartNamed? (store.placed entry).name).isSome

/-- The local charts whose name no chart of a layout has. -/
def absent (dashboard : Dashboard) (store : Store) (layout : List Json) : List Chart :=
  dashboard.missing (layout.map store.placed)

/-- The layout after a reconciliation: the kept entries as they were, then one entry for every
missing chart, from the first free row on. -/
def relaid (dashboard : Dashboard) (store : Store) (layout : List Json) : List Json :=
  dashboard.kept store layout ++
    Layout.stacked (store.freshIds (dashboard.absent store layout).length)
      (Layout.bottom (dashboard.kept store layout))

/-- The charts of a layout, each placed once and stored under the identifier it names. -/
structure Placeable (store : Store) (layout : List Json) : Prop where
  once : (layout.filterMap Layout.chartId?).Nodup
  named : ∀ entry ∈ layout, (Layout.chartId? entry).isSome
  stored : ∀ id ∈ layout.filterMap Layout.chartId?, store.HasChart id

/-- The charts of a layout that have no local name. -/
theorem exists_of_mem_stale {layout : List Json} {id : String}
    (member : id ∈ (dashboard.stale (layout.map store.placed)).map (·.id)) :
    ∃ entry ∈ layout, (store.placed entry).id = id ∧
      dashboard.chartNamed? (store.placed entry).name = none := by
  obtain ⟨placed, isStale, rfl⟩ := List.mem_map.mp member
  obtain ⟨among, unnamed⟩ := List.mem_filter.mp isStale
  obtain ⟨entry, member', rfl⟩ := List.mem_map.mp among
  exact ⟨entry, member', rfl, Option.isNone_iff_eq_none.mp unnamed⟩

/-- Dropping the entries of the stale charts leaves those whose chart has a local name. -/
theorem without_stale {layout : List Json}
    (named : ∀ entry ∈ layout, (Layout.chartId? entry).isSome) (dashboard : Dashboard) :
    Layout.without ((dashboard.stale (layout.map store.placed)).map (·.id)) layout =
      dashboard.kept store layout := by
  refine List.filter_congr fun entry member => ?_
  rw [Store.chartId?_eq_placed store (named entry member)]
  cases isNamed : dashboard.chartNamed? (store.placed entry).name with
  | none =>
      have isStale : store.placed entry ∈ dashboard.stale (layout.map store.placed) :=
        List.mem_filter.mpr ⟨List.mem_map_of_mem member, by simp [isNamed]⟩
      simpa using ⟨_, isStale, rfl⟩
  | some chart =>
      simp only [Option.isSome_some, Bool.not_eq_true', List.any_eq_false, List.mem_map,
        decide_eq_true_eq, Option.some.injEq]
      intro id isStale same
      obtain ⟨other, -, rfl, unnamed⟩ := exists_of_mem_stale (List.mem_map.mpr isStale)
      rw [← Store.placed_eq_of_id same, isNamed] at unnamed
      cases unnamed

namespace Placeable

variable {layout : List Json}

/-- An entry of the layout places the chart that it names. -/
theorem chartId?_eq (placeable : Placeable store layout) {entry : Json} (member : entry ∈ layout) :
    Layout.chartId? entry = some (store.placed entry).id :=
  Store.chartId?_eq_placed store (placeable.named entry member)

/-- The identifiers of what is placed are those that the entries name. -/
theorem ids_eq (placeable : Placeable store layout) :
    (layout.map store.placed).map (·.id) = layout.filterMap Layout.chartId? := by
  rw [List.map_map, ← List.filterMap_eq_map]
  exact List.filterMap_congr fun entry member => (placeable.chartId?_eq member).symm

theorem mem_ids (placeable : Placeable store layout) {entry : Json} (member : entry ∈ layout) :
    (store.placed entry).id ∈ layout.filterMap Layout.chartId? :=
  List.mem_filterMap.mpr ⟨entry, member, placeable.chartId?_eq member⟩

/-- Charts of the layout are stored, so none of them is among the fresh ones. -/
theorem not_mem_freshIds (placeable : Placeable store layout) (sound : store.Sound)
    {entry : Json} (member : entry ∈ layout) (count : Nat) :
    (store.placed entry).id ∉ store.freshIds count := by
  obtain ⟨_, stored, -⟩ := placeable.stored _ (placeable.mem_ids member)
  exact Store.not_mem_freshIds sound stored count

end Placeable

/-- How a store has changed once the charts of a layout are the local ones. -/
structure Reconciled (dashboard : Dashboard) (layout : List Json) (before after : Store) :
    Prop where
  allocated : after.allocated = before.allocated + (dashboard.absent before layout).length
  elsewhere : before.AgreesOff (Kind.chart.paths (layout.filterMap Layout.chartId? ++
    before.freshIds (dashboard.absent before layout).length)) after
  revised : ∀ entry ∈ layout, ∀ chart,
    dashboard.chartNamed? (before.placed entry).name = some chart →
    ∀ old, before.documents.get? (Kind.chart.path (before.placed entry).id) = some old →
    after.documents.get? (Kind.chart.path (before.placed entry).id) =
      some (chart.revise (before.placed entry).id old)
  gone : ∀ entry ∈ layout, dashboard.chartNamed? (before.placed entry).name = none →
    after.documents.get? (Kind.chart.path (before.placed entry).id) = none
  created : List.Forall₂ (fun chart id => after.documents.get? (Kind.chart.path id) =
    some (chart.storedAs id)) (dashboard.absent before layout)
    (before.freshIds (dashboard.absent before layout).length)

/-- Charts are updated, then the missing ones are added, then the stale ones are deleted. -/
theorem Placeable.reconciled {layout : List Json} {updated added after : Store}
    (placeable : Placeable store layout) (sound : store.Sound)
    (updating : dashboard.ChartsRenewed ((layout.map store.placed).map (·.id)) store updated)
    (adding : ChartsAdded (dashboard.absent store layout) updated added)
    (deleting : ChartsDeleted ((dashboard.stale (layout.map store.placed)).map (·.id))
      added after) :
    dashboard.Reconciled layout store after := by
  have agrees := adding.elsewhere
  have created := adding.created
  rw [updating.freshIds_eq] at agrees created
  have still : ∀ entry ∈ layout, added.documents.get? (Kind.chart.path (store.placed entry).id) =
      updated.documents.get? (Kind.chart.path (store.placed entry).id) := fun entry member =>
    agrees _ fun touched =>
      placeable.not_mem_freshIds sound member _ (Kind.path_mem_paths.mp touched)
  constructor
  case allocated => rw [deleting.allocated, adding.allocated, updating.allocated]
  case elsewhere =>
    intro path untouched
    rw [Kind.paths, List.map_append, List.mem_append, not_or] at untouched
    rw [deleting.elsewhere path ?_, agrees path untouched.2, updating.agreesOff path ?_]
    · rw [placeable.ids_eq]
      exact untouched.1
    · intro touched
      obtain ⟨id, member, rfl⟩ := List.mem_map.mp touched
      obtain ⟨entry, member', rfl, -⟩ := exists_of_mem_stale member
      exact untouched.1 (Kind.path_mem_paths.mpr (placeable.mem_ids member'))
  case revised =>
    intro entry member chart isNamed old stored
    obtain ⟨document, there, identified⟩ := placeable.stored _ (placeable.mem_ids member)
    obtain rfl := Option.some.inj (stored.symm.trans there)
    rw [deleting.elsewhere _ ?_, still entry member]
    · exact updating.revised (List.mem_map_of_mem (List.mem_map_of_mem member)) stored identified
        (Store.placed_name_eq stored ▸ isNamed)
    intro touched
    obtain ⟨other, -, same, unnamed⟩ := exists_of_mem_stale (Kind.path_mem_paths.mp touched)
    rw [Store.placed_eq_of_id same, isNamed] at unnamed
    cases unnamed
  case gone =>
    intro entry member unnamed
    refine deleting.gone _
      (List.mem_map.mpr ⟨store.placed entry, List.mem_filter.mpr ⟨?_, ?_⟩, rfl⟩)
    · exact List.mem_map_of_mem member
    · simp [unnamed]
  case created =>
    refine List.forall₂_iff_zip.mpr ⟨created.length_eq, fun {chart id} member => ?_⟩
    rw [deleting.elsewhere _ ?_]
    · exact (List.forall₂_iff_zip.mp created).2 member
    · intro touched
      obtain ⟨entry, member', rfl, -⟩ := exists_of_mem_stale (Kind.path_mem_paths.mp touched)
      exact placeable.not_mem_freshIds sound member' _ (List.of_mem_zip member).2

/-- The charts of a layout become the local ones. -/
theorem ensures_reconcileCharts (valid : dashboard.check = .ok ()) (sound : store.Sound)
    {layout : List Json} (placeable : Placeable store layout) :
    Plan.Ensures Store.server answer (dashboard.reconcileCharts layout) store
      fun entries after => entries = dashboard.relaid store layout ∧
        dashboard.Reconciled layout store after := by
  have ids := placeable.ids_eq
  unfold reconcileCharts
  refine Plan.ensures_bind (ensures_readPlaced fun entry member => ?_) ?_
  · obtain ⟨_, found, -⟩ := placeable.stored _ (placeable.mem_ids member)
    simp [found]
  rintro _ store ⟨rfl, rfl⟩
  refine Plan.ensures_bind (ensures_renewAll valid sound ?_) ?_
  · intro chart member
    obtain ⟨entry, among, rfl⟩ := List.mem_map.mp member
    obtain ⟨_, found, -⟩ := placeable.stored _ (placeable.mem_ids among)
    exact placed_of_isSome (by rw [found]; rfl)
  rintro _ updated updating
  dsimp only
  rw [without_stale placeable.named]
  refine Plan.ensures_bind (ensures_addCharts fun chart member =>
    check_charts valid chart (List.mem_filter.mp member).1) ?_
  rintro _ added ⟨rfl, adding⟩
  have deletes : ((dashboard.stale (layout.map store.placed)).forM fun chart =>
      Chart.deleteById chart.id) =
      ((dashboard.stale (layout.map store.placed)).map (·.id)).forM Chart.deleteById := by
    simp
  rw [deletes]
  refine Plan.ensures_bind (ensures_deleteCharts ?_ ?_) ?_
  · have once := placeable.once
    rw [← ids] at once
    exact once.sublist (List.filter_sublist.map _)
  · intro id member
    obtain ⟨entry, member', rfl, unnamed⟩ := exists_of_mem_stale member
    obtain ⟨old, stored, identified⟩ := placeable.stored _ (placeable.mem_ids member')
    refine ⟨old, ?_, identified⟩
    have still : dashboard.renew old = old := by
      rw [renew, ← Store.placed_name_eq stored, unnamed]
    rw [adding.elsewhere _ ?_, updating.documents, if_pos (Kind.path_mem_paths.mpr
      (List.mem_map_of_mem (List.mem_map_of_mem member'))), stored, Option.map_some, still]
    rw [updating.freshIds_eq, Kind.path_mem_paths]
    exact placeable.not_mem_freshIds sound member' _
  rintro _ after deleting
  refine Plan.ensures_pure ⟨?_, placeable.reconciled sound updating adding deleting⟩
  rw [updating.freshIds_eq]
  rfl

/-- The document of a stored dashboard after an update. -/
def updated (dashboard : Dashboard) (overrides : Overrides) (store : Store) (id : String)
    (remote : Json) : Json :=
  (overrides.applied (dashboard.withSettings (remote.withField "charts"
    (.arr (dashboard.relaid store (Layout.entries remote)))))).withField "id" (.str id)

/-- A stored dashboard found by its name is updated. -/
theorem ensures_update_stored (valid : dashboard.check = .ok ()) (sound : store.Sound)
    (overrides : Overrides) {id : String} {remote : Json}
    (alone : store.named .dashboard dashboard.name = [remote])
    (stored : store.resource? .dashboard id = some remote)
    (placeable : Placeable store (Layout.entries remote)) :
    Plan.Ensures Store.server answer (dashboard.update overrides) store
      fun reply after => reply = dashboard.updated overrides store id remote ∧
        ∃ between, dashboard.Reconciled (Layout.entries remote) store between ∧
          after = between.set (Kind.dashboard.path id) reply := by
  have atPath := Store.get?_of_resource? stored
  have object := sound.isObject atPath
  have identified := (sound.id_of_resource? stored).1
  unfold update
  rw [Plan.checked_eq valid, pure_bind]
  have unique : store.named .dashboard dashboard.name = (some remote).toList := alone
  refine Plan.ensures_bind (Store.ensures_findUnique unique) ?_
  rintro _ store ⟨rfl, rfl⟩
  dsimp only
  rw [requireId_eq identified, pure_bind]
  refine Plan.ensures_bind (ensures_reconcileCharts valid sound placeable) ?_
  rintro _ between ⟨rfl, reconciled⟩
  have untouched : between.documents.get? (Kind.dashboard.path id) = some remote := by
    rw [reconciled.elsewhere _ (Kind.path_not_mem_paths (by decide) id _), atPath]
  have laid : (dashboard.withSettings (remote.withField "charts"
      (.arr (dashboard.relaid store (Layout.entries remote))))).isObject = true :=
    isObject_withSettings dashboard (by simpa)
  rw [Plan.assign_eq object, pure_bind, Overrides.apply_eq overrides laid, pure_bind]
  refine Plan.ensures_call (Store.server_put untouched identified (by simpa)) ?_
  exact Plan.ensures_pure ⟨rfl, between, reconciled, rfl⟩

end SignalBoard.Dashboard
