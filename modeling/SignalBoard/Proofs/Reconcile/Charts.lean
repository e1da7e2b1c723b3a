/-
# Reconciling the charts of a layout

Three of the four loops of a reconciliation, each for itself: reading the charts of a layout
changes nothing, adding creates charts under fresh identifiers, and deleting removes the charts it
is given. Each loop says which paths it may touch, so that what one loop has done is still there
after the next. The loop that renews charts is told for any layout, in a module of its own.
-/

import SignalBoard.Proofs.Reconcile.Payload
import SignalBoard.Proofs.Store.Fresh

namespace SignalBoard

namespace Store

/-- What a layout entry places: its chart with the name that is stored for it. -/
def placed (store : Store) (entry : Json) : PlacedChart :=
  let id := (Layout.chartId? entry).getD ""
  ⟨id, ((store.documents.get? (Kind.chart.path id)).bind Json.name?).getD ""⟩

/-- What is placed is told by its identifier. -/
theorem placed_eq_of_id {store : Store} {first second : Json}
    (same : (store.placed first).id = (store.placed second).id) :
    store.placed first = store.placed second := by
  simp only [placed] at same ⊢
  rw [same]

/-- What is placed under the document of a chart has its name. -/
theorem placed_name_eq {store : Store} {entry document : Json}
    (stored : store.documents.get? (Kind.chart.path (store.placed entry).id) = some document) :
    (store.placed entry).name = document.name?.getD "" := by
  simp only [placed] at stored ⊢
  rw [stored]
  rfl

/-- An entry places the chart that it names. -/
theorem chartId?_eq_placed (store : Store) {entry : Json}
    (named : (Layout.chartId? entry).isSome) :
    Layout.chartId? entry = some (store.placed entry).id := by
  obtain ⟨id, named⟩ := Option.isSome_iff_exists.mp named
  simp [placed, named]

end Store

/-- The entries of charts that are added, one below the other from a row on. -/
def Layout.stacked : List String → UInt64 → List Json
  | [], _ => []
  | id :: rest, row => added id row :: stacked rest (row + addedHeight)

namespace Dashboard

variable {answer : Question → Bool} {dashboard : Dashboard}

/-- A local name is found when a local chart has it. -/
theorem chartNamed?_isSome_iff (dashboard : Dashboard) (name : String) :
    (dashboard.chartNamed? name).isSome ↔ name ∈ dashboard.charts.map (·.name) := by
  simp [chartNamed?, List.mem_map]

/-- A local chart that is found by a name is there and has it. -/
theorem mem_of_chartNamed? {name : String} {chart : Chart}
    (found : dashboard.chartNamed? name = some chart) :
    chart ∈ dashboard.charts ∧ chart.name = name := by
  rw [chartNamed?] at found
  exact ⟨List.mem_of_find?_eq_some found, by simpa using List.find?_some found⟩

/-- Reading the charts of a layout. -/
theorem ensures_readPlaced {store : Store} {entries : List Json}
    (stored : ∀ entry ∈ entries,
      (store.documents.get? (Kind.chart.path (store.placed entry).id)).isSome) :
    Plan.Ensures Store.server answer (entries.mapM readPlaced) store
      fun placed after => placed = entries.map store.placed ∧ after = store := by
  refine Plan.ensures_mapM fun entry member => ?_
  obtain ⟨document, found⟩ := Option.isSome_iff_exists.mp (stored entry member)
  refine Plan.ensures_call (Store.server_get found) ?_
  refine Plan.ensures_pure ⟨?_, rfl⟩
  rw [Store.placed] at found ⊢
  simp [found]

/-- Updating one stored chart with a local one. The identifier that the document names need not
be the one under which it is read. -/
theorem ensures_updateById {store : Store} {chart : Chart} (valid : chart.check = .ok ())
    {id own : String} {old : Json}
    (stored : store.documents.get? (Kind.chart.path id) = some old)
    (identified : old.id? = some own) :
    Plan.Ensures Store.server answer (Chart.updateById id chart) store
      fun _ after => after = store.set (Kind.chart.path id) (chart.revise own old) := by
  have whole : Chart.updateById id chart = .call (.get (Kind.chart.path id)) fun remote =>
      Plan.put (Kind.chart.path id) (remote.overlay chart.document) := by
    rw [Chart.updateById, Chart.payload_eq valid]
    rfl
  rw [whole]
  refine Plan.ensures_call (Store.server_get stored) ?_
  have object := Json.isObject_overlay chart.isObject_document old
  exact Plan.ensures_call (Store.server_put stored identified object) (Plan.ensures_pure rfl)

/-- A chart is not at the path of another. -/
theorem not_mem_paths_of_ne {id other : String} (apart : other ≠ id) :
    Kind.chart.path other ∉ Kind.chart.paths [id] := by
  rw [Kind.path_mem_paths, List.mem_singleton]
  exact apart

/-- How a store has changed once charts are added. -/
structure ChartsAdded (charts : List Chart) (before after : Store) : Prop where
  allocated : after.allocated = before.allocated + charts.length
  elsewhere : before.AgreesOff (Kind.chart.paths (before.freshIds charts.length)) after
  created : List.Forall₂ (fun chart id => after.documents.get? (Kind.chart.path id) =
    some (chart.storedAs id)) charts (before.freshIds charts.length)

/-- Creating charts, one entry below the other. -/
theorem ensures_addCharts {charts : List Chart} (valid : ∀ chart ∈ charts, chart.check = .ok ())
    {row : UInt64} {store : Store} :
    Plan.Ensures Store.server answer (addCharts charts row) store
      fun entries after => entries = Layout.stacked (store.freshIds charts.length) row ∧
        ChartsAdded charts store after := by
  induction charts generalizing row store with
  | nil => exact Plan.ensures_pure ⟨rfl, rfl, Store.AgreesOff.refl _ _, .nil⟩
  | cons chart rest ih =>
      let id := Store.ident (store.allocated + 1)
      have whole : addCharts (chart :: rest) row =
          .call (.post Kind.chart.endpoint [] chart.document) fun created => do
            let id ← requireId created
            let entries ← addCharts rest (row + Layout.addedHeight)
            return Layout.added id row :: entries := by
        rw [addCharts, Chart.createUnguarded, Chart.payload_eq (valid chart List.mem_cons_self)]
        rfl
      rw [whole]
      refine Plan.ensures_call (Store.server_post (by decide) chart.isObject_document []) ?_
      let between := store.allocate.set (Kind.chart.path id) (chart.storedAs id)
      change Plan.Ensures Store.server answer (requireId (chart.storedAs id) >>= _) between _
      rw [requireId_eq (chart.id?_storedAs id), pure_bind]
      refine Plan.ensures_bind
        (ih fun other member => valid other (.tail _ member)) ?_
      rintro _ after ⟨rfl, allocated, agrees, added⟩
      have first : store.AgreesOff [Kind.chart.path id] between := by
        intro path untouched
        simp only [between, Store.get?_set, Store.documents_allocate]
        rw [if_neg (by simpa using untouched)]
      have apart : id ∉ store.allocate.freshIds rest.length := by
        rw [Store.mem_freshIds_iff]
        rintro ⟨n, same, given, -⟩
        have := Store.ident_inj same
        simp at given
        omega
      refine Plan.ensures_pure ⟨?_, ?_, ?_, ?_⟩
      · rw [List.length_cons, Store.freshIds_succ]
        rfl
      · rw [allocated, List.length_cons]
        simp only [between, Store.allocated_set, Store.allocated_allocate]
        omega
      · rw [List.length_cons, Store.freshIds_succ]
        exact first.trans agrees
      · rw [List.length_cons, Store.freshIds_succ]
        refine .cons ?_ added
        rw [agrees _ fun touched => apart (Kind.path_mem_paths.mp touched)]
        simp [between, id]

/-- How a store has changed once charts are deleted. -/
structure ChartsDeleted (ids : List String) (before after : Store) : Prop where
  allocated : after.allocated = before.allocated
  elsewhere : before.AgreesOff (Kind.chart.paths ids) after
  gone : ∀ id ∈ ids, after.documents.get? (Kind.chart.path id) = none

/-- Deleting charts that are stored, each once. -/
theorem ensures_deleteCharts {ids : List String} {store : Store} (once : ids.Nodup)
    (stored : ∀ id ∈ ids, store.HasChart id) :
    Plan.Ensures Store.server answer (ids.forM Chart.deleteById) store
      fun _ after => ChartsDeleted ids store after := by
  induction ids generalizing store with
  | nil => exact Plan.ensures_pure ⟨rfl, Store.AgreesOff.refl _ _, by simp⟩
  | cons id rest ih =>
      rw [List.nodup_cons] at once
      obtain ⟨document, found, -⟩ := stored id List.mem_cons_self
      refine Plan.ensures_call (Store.server_delete_chart found) ?_
      have first : store.AgreesOff (Kind.chart.paths [id])
          (store.remove (Kind.chart.path id)) := by
        intro path untouched
        rw [Store.get?_remove, if_neg (by simpa [Kind.paths] using untouched)]
      have apart : ∀ other ∈ rest, Kind.chart.path other ∉ Kind.chart.paths [id] :=
        fun other member => not_mem_paths_of_ne fun same => once.1 (same ▸ member)
      refine (ih once.2 fun other member =>
        (stored other (.tail _ member)).of_agreesOff first (apart other member)).mono ?_
      rintro _ after ⟨allocated, agrees, gone⟩
      refine ⟨allocated, first.trans agrees, ?_⟩
      intro other member
      rcases List.mem_cons.mp member with rfl | later
      · rw [agrees _ fun touched => once.1 (Kind.path_mem_paths.mp touched)]
        simp
      · exact gone other later

end Dashboard

end SignalBoard
