/-
# What a successful update shows

Nothing is assumed of the dashboards of a store here: a layout may name charts twice, or charts that
are not stored, and an update may fail. Where it succeeds, the layout it leaves shows exactly the
local names, by charts that are revisions of local charts, whether the dashboard was there before
or not.
-/

import SignalBoard.Proofs.Reconcile.Fitting
import SignalBoard.Proofs.Store.Creation
import SignalBoard.Proofs.Store.Success

namespace SignalBoard.Dashboard

variable {answer : Question → Bool} {dashboard : Dashboard} {store : Store} {layout : List Json}

/-- Every entry of the layout shows a stored revision of a local chart, and every local name is
shown. -/
structure Shows (dashboard : Dashboard) (store : Store) (layout : List Json) : Prop where
  names : ∀ entry ∈ layout, (Layout.chartId? entry).isSome
  revised : ∀ entry ∈ layout, ∃ chart ∈ dashboard.charts, ∃ own old,
    store.documents.get? (Kind.chart.path (store.placed entry).id) = some (chart.revise own old)
  shown : ∀ chart ∈ dashboard.charts, ∃ entry ∈ layout, (store.placed entry).name = chart.name

/-- A layout shows the same wherever the charts are stored as they were. -/
theorem Shows.congr {after : Store} (shows_ : dashboard.Shows store layout)
    (charts : ∀ id, after.documents.get? (Kind.chart.path id) =
      store.documents.get? (Kind.chart.path id)) : dashboard.Shows after layout := by
  have same : ∀ entry, after.placed entry = store.placed entry := by
    intro entry
    rw [Store.placed, Store.placed, charts]
  constructor
  case names => exact shows_.names
  case revised => simpa only [same, charts] using shows_.revised
  case shown => simpa only [same] using shows_.shown

/-- Reading the charts of a layout, if all of them are stored. -/
theorem yields_readPlaced (layout : List Json) :
    Plan.Yields Store.server answer (layout.mapM readPlaced) store
      fun placed after => placed = layout.map store.placed ∧ after = store ∧
        ∀ entry ∈ layout,
          (store.documents.get? (Kind.chart.path (store.placed entry).id)).isSome := by
  induction layout with
  | nil => exact Plan.yields_pure ⟨rfl, rfl, by simp⟩
  | cons entry rest ih =>
      rw [List.mapM_cons]
      have first : Plan.Yields Store.server answer (readPlaced entry) store
          fun placed after => placed = store.placed entry ∧ after = store ∧
            (store.documents.get? (Kind.chart.path (store.placed entry).id)).isSome := by
        apply Plan.yields_call
        intro reply after answered
        obtain ⟨stored, rfl⟩ := Store.stored_of_get answered
        apply Plan.yields_pure
        simp [Store.placed, stored]
      apply Plan.yields_bind first
      rintro _ after ⟨rfl, rfl, here⟩
      apply Plan.yields_bind ih
      rintro _ after ⟨rfl, rfl, others⟩
      exact Plan.yields_pure ⟨rfl, rfl, List.forall_mem_cons.mpr ⟨here, others⟩⟩

/-- Deleting charts leaves everything else alone, if all of them are stored. -/
theorem yields_deleteCharts (charts : List PlacedChart) :
    Plan.Yields Store.server answer (charts.forM fun chart => Chart.deleteById chart.id) store
      fun _ after => store.AgreesOff (Kind.chart.paths (charts.map (·.id))) after := by
  apply Plan.yields_forM (fun _ after =>
    store.AgreesOff (Kind.chart.paths (charts.map (·.id))) after) ?_ (List.nil_append charts)
    (Store.AgreesOff.refl _ store)
  intro past chart rest between split agrees
  have member : chart ∈ charts := by simp [← split]
  apply Plan.yields_call
  intro reply after answered
  obtain ⟨-, rfl⟩ := Store.eq_remove_of_delete_chart answered
  apply Plan.yields_pure
  intro path untouched
  have apart : path ≠ Kind.chart.path chart.id := by
    rintro rfl
    exact untouched (Kind.path_mem_paths.mpr (List.mem_map_of_mem member))
  rw [Store.get?_remove, if_neg apart, agrees path untouched]

/-- The charts of a layout were renewed, then the missing ones added, then the stale ones
deleted. -/
structure Relaid (dashboard : Dashboard) (layout : List Json) (before updated added after : Store) :
    Prop where
  named : ∀ entry ∈ layout, (Layout.chartId? entry).isSome
  there : ∀ entry ∈ layout,
    (before.documents.get? (Kind.chart.path (before.placed entry).id)).isSome
  updating : dashboard.ChartsRenewed ((layout.map before.placed).map (·.id)) before updated
  adding : ChartsAdded (dashboard.absent before layout) updated added
  deleting : added.AgreesOff
    (Kind.chart.paths ((dashboard.stale (layout.map before.placed)).map (·.id))) after

namespace Relaid

variable {before updated added after : Store}

/-- A chart of the layout is none of those that are added. -/
theorem not_mem_freshIds (relaid : dashboard.Relaid layout before updated added after)
    (sound : before.Sound) {entry : Json} (member : entry ∈ layout) (count : Nat) :
    (before.placed entry).id ∉ before.freshIds count := by
  obtain ⟨old, stored⟩ := Option.isSome_iff_exists.mp (relaid.there entry member)
  exact Store.not_mem_freshIds sound stored count

/-- A kept chart is a revision of the local chart of its name. -/
theorem kept_stored (relaid : dashboard.Relaid layout before updated added after)
    (sound : before.Sound) {entry : Json} (member : entry ∈ dashboard.kept before layout) :
    ∃ chart ∈ dashboard.charts, ∃ own old, chart.name = (before.placed entry).name ∧
      after.documents.get? (Kind.chart.path (before.placed entry).id) =
        some (chart.revise own old) := by
  obtain ⟨among, isNamed⟩ := List.mem_filter.mp member
  obtain ⟨chart, found⟩ := Option.isSome_iff_exists.mp isNamed
  obtain ⟨old, stored⟩ := Option.isSome_iff_exists.mp (relaid.there entry among)
  have touched : Kind.chart.path (before.placed entry).id ∈
      Kind.chart.paths ((layout.map before.placed).map (·.id)) :=
    Kind.path_mem_paths.mpr (List.mem_map_of_mem (List.mem_map_of_mem among))
  have renewed : updated.documents.get? (Kind.chart.path (before.placed entry).id) =
      some (chart.revise (Store.idOf old) old) := by
    rw [relaid.updating.documents, if_pos touched, stored, Option.map_some,
      renew_eq (Store.placed_name_eq stored ▸ found)]
  obtain ⟨isLocal, sameName⟩ := mem_of_chartNamed? found
  refine ⟨chart, isLocal, Store.idOf old, old, sameName, ?_⟩
  rw [relaid.deleting, relaid.adding.elsewhere, renewed]
  · rw [relaid.updating.freshIds_eq, Kind.path_mem_paths]
    exact relaid.not_mem_freshIds sound among _
  · intro deleted
    obtain ⟨other, -, same, unnamed⟩ := exists_of_mem_stale (Kind.path_mem_paths.mp deleted)
    rw [Store.placed_eq_of_id same, found] at unnamed
    cases unnamed

/-- An added chart is stored as it was created. -/
theorem stacked_stored (relaid : dashboard.Relaid layout before updated added after)
    (sound : before.Sound) (row : UInt64) :
    List.Forall₂ (fun chart entry => (Layout.chartId? entry).isSome ∧ ∃ id,
      after.documents.get? (Kind.chart.path (after.placed entry).id) = some (chart.storedAs id))
      (dashboard.absent before layout)
      (Layout.stacked (before.freshIds (dashboard.absent before layout).length) row) := by
  have created := relaid.adding.created
  rw [relaid.updating.freshIds_eq] at created
  have still : List.Forall₂ (fun chart id => after.documents.get? (Kind.chart.path id) =
      some (Chart.storedAs chart id)) (dashboard.absent before layout)
      (before.freshIds (dashboard.absent before layout).length) := by
    refine List.forall₂_iff_zip.mpr ⟨created.length_eq, fun {chart id} member => ?_⟩
    rw [relaid.deleting]
    · exact (List.forall₂_iff_zip.mp created).2 member
    · intro deleted
      obtain ⟨entry, among, rfl, -⟩ := exists_of_mem_stale (Kind.path_mem_paths.mp deleted)
      exact relaid.not_mem_freshIds sound among _ (List.of_mem_zip member).2
  apply (Layout.forall₂_stacked still row).imp
  rintro chart entry ⟨id, names, stored⟩
  refine ⟨by simp [names], id, ?_⟩
  simpa [Store.placed, names] using stored

/-- The new layout shows the local charts. -/
theorem shows_relaid (relaid : dashboard.Relaid layout before updated added after)
    (sound : before.Sound) : dashboard.Shows after (dashboard.relaid before layout) := by
  have stacked := relaid.stacked_stored sound (Layout.bottom (dashboard.kept before layout))
  constructor
  case names =>
    intro entry member
    cases List.mem_append.mp member with
    | inl old => exact relaid.named entry (List.mem_filter.mp old).1
    | inr new =>
        obtain ⟨_, -, names, -⟩ := Store.exists_of_forall₂_right stacked new
        exact names
  case revised =>
    intro entry member
    cases List.mem_append.mp member with
    | inl old =>
        obtain ⟨chart, isLocal, own, old, -, stored⟩ := relaid.kept_stored sound old
        exact ⟨chart, isLocal, own, old, stored⟩
    | inr new =>
        obtain ⟨chart, absent, -, id, stored⟩ := Store.exists_of_forall₂_right stacked new
        exact ⟨chart, (List.mem_filter.mp absent).1, id, .null, stored⟩
  case shown =>
    intro chart isLocal
    by_cases there : ∃ entry ∈ layout, (before.placed entry).name = chart.name
    case pos =>
      obtain ⟨entry, among, same⟩ := there
      have isNamed : (dashboard.chartNamed? (before.placed entry).name).isSome := by
        rw [chartNamed?_isSome_iff, same]
        exact List.mem_map_of_mem isLocal
      have member : entry ∈ dashboard.kept before layout := List.mem_filter.mpr ⟨among, isNamed⟩
      obtain ⟨other, -, own, old, sameName, stored⟩ := relaid.kept_stored sound member
      refine ⟨entry, List.mem_append_left _ member, ?_⟩
      rw [Store.placed_name_eq stored, other.name?_revise, Option.getD_some, sameName, same]
    case neg =>
      have absent : chart ∈ dashboard.absent before layout :=
        List.mem_filter.mpr ⟨isLocal, by simpa using there⟩
      obtain ⟨entry, new, -, id, stored⟩ := Store.exists_of_forall₂_left stacked absent
      refine ⟨entry, List.mem_append_right _ new, ?_⟩
      rw [Store.placed_name_eq stored, chart.name?_storedAs, Option.getD_some]

end Relaid

/-- If the charts of a layout can be reconciled, the new layout shows the local ones, and nothing
but charts has changed. -/
theorem yields_reconcileCharts (valid : dashboard.check = .ok ()) (sound : store.Sound)
    (named : ∀ entry ∈ layout, (Layout.chartId? entry).isSome) :
    Plan.Yields Store.server answer (dashboard.reconcileCharts layout) store
      fun entries after => dashboard.Shows after entries ∧
        ∀ path, (∀ id, path ≠ Kind.chart.path id) →
          after.documents.get? path = store.documents.get? path := by
  unfold reconcileCharts
  apply Plan.yields_bind (yields_readPlaced layout)
  rintro _ store ⟨rfl, rfl, there⟩
  have known : ∀ chart ∈ layout.map store.placed, Placed store chart := by
    intro chart member
    obtain ⟨entry, among, rfl⟩ := List.mem_map.mp member
    exact placed_of_isSome (there entry among)
  apply Plan.yields_bind (ensures_renewAll valid sound known).yields
  intro _ updated updating
  dsimp only
  rw [without_stale named]
  apply Plan.yields_bind (ensures_addCharts fun chart member =>
    check_charts valid chart (List.mem_filter.mp member).1).yields
  rintro _ added ⟨rfl, adding⟩
  apply Plan.yields_bind (yields_deleteCharts _)
  intro _ after deleting
  apply Plan.yields_pure
  have relaid : dashboard.Relaid layout store updated added after :=
    ⟨named, there, updating, adding, deleting⟩
  refine ⟨?_, fun path notChart => ?_⟩
  · rw [updating.freshIds_eq]
    exact relaid.shows_relaid sound
  · have untouched : ∀ ids, path ∉ Kind.chart.paths ids := by
      intro ids touched
      obtain ⟨id, -, same⟩ := List.mem_map.mp touched
      exact notChart id same.symm
    rw [deleting path (untouched _), adding.elsewhere path (untouched _),
      updating.agreesOff path (untouched _)]

end SignalBoard.Dashboard
