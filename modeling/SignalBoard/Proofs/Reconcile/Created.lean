/-
# What creating a dashboard leaves

A dashboard is created from its charts in a group of its own, and then written once more if it has
settings or an overriding description. Either way it ends as the same document, with the charts that
were sent on its layout, and nothing that was there before has changed.
-/

import SignalBoard.Proofs.Group.Answer
import SignalBoard.Proofs.Reconcile.Fitting

namespace SignalBoard

namespace Dashboard

variable {answer : Question → Bool} {dashboard : Dashboard} {overrides : Overrides}
  {store before after : Store} {id groupId : String} {chartIds : List String} {document : Json}

/-- What is written besides the layout leaves every other field. -/
theorem get?_finish (object : document.isObject = true) {key : String}
    (foreign : key ∉ ["id", "name", "description", "filters", "eventOverlays",
      "selectedEventOverlays"]) :
    (dashboard.finish overrides id document).get? key = document.get? key := by
  simp only [List.mem_cons, List.not_mem_nil, or_false, not_or] at foreign
  obtain ⟨notId, notName, notDescription, notFilters, notOverlays, notSelected⟩ := foreign
  have settled := isObject_withSettings dashboard object
  rw [finish, Json.get?_withField (by simpa using settled), if_neg notId,
    Overrides.get?_applied overrides settled notName notDescription,
    get?_withSettings dashboard object
      (by simp [notDescription, notFilters, notOverlays, notSelected])]

/-- Without settings and an overriding description, what is left to write is the name and the
identifier that are there. -/
theorem finish_dashboardDocument (noSettings : dashboard.settingsPayload? = none)
    (noDescription : overrides.description = none) (groupId id : String) (layout : List Json) :
    let created := Store.dashboardDocument (overrides.name.getD dashboard.name) groupId layout id
    dashboard.finish overrides id created = created := by
  intro created
  have sorted : created.Sorted := Store.sorted_dashboardDocument ..
  have named : created.withText? "name" overrides.name = created := by
    cases given : overrides.name with
    | none => rfl
    | some other =>
        refine sorted.withField_of_get? ?_
        rw [Store.get?_dashboardDocument, if_neg (by decide), given]
        rfl
  rw [finish, withSettings, noSettings, Overrides.applied, noDescription]
  show Json.withField (created.withText? "name" overrides.name) "id" (.str id) = created
  rw [named, sorted.withField_of_get? ((Store.get?_dashboardDocument ..).trans (if_pos rfl))]

/-- The charts of a local dashboard are sent as objects. -/
theorem isObject_of_mem_documents (dashboard : Dashboard) :
    ∀ document ∈ dashboard.charts.map Chart.document, document.isObject = true := by
  intro document member
  obtain ⟨chart, -, rfl⟩ := List.mem_map.mp member
  exact chart.isObject_document

/-- What creating a dashboard leaves: under the next identifiers, a group that lists it, its charts
and itself. -/
structure Added (dashboard : Dashboard) (overrides : Overrides) (groupId : String)
    (chartIds : List String) (id : String) (before after : Store) : Prop where
  ids : before.freshIds (dashboard.charts.length + 2) = groupId :: (chartIds ++ [id])
  allocated : after.allocated = before.allocated + (dashboard.charts.length + 2)
  elsewhere : before.AgreesOff (Kind.group.path groupId :: Kind.dashboard.path id ::
    Kind.chart.paths chartIds) after
  group : after.documents.get? (Kind.group.path groupId) =
    some ((Store.groupDocument (.record [("name", some (.str (overrides.name.getD
      dashboard.name)))]) groupId).withField "dashboards" (.arr [.str id]))
  own : after.documents.get? (Kind.dashboard.path id) =
    some (dashboard.finish overrides id (Store.dashboardDocument
      (overrides.name.getD dashboard.name) groupId (Store.placedEntries chartIds 0) id))
  charts : List.Forall₂ (fun chart chartId => after.documents.get? (Kind.chart.path chartId) =
    some (Chart.storedAs chart chartId)) dashboard.charts chartIds

/-- A dashboard is created under the next identifiers, whether or not it is written once more. -/
theorem ensures_createUnguarded_added (valid : dashboard.check = .ok ()) (overrides : Overrides) :
    Plan.Ensures Store.server answer (dashboard.createUnguarded overrides) store
      fun reply after => ∃ groupId chartIds id,
        dashboard.Added overrides groupId chartIds id store after ∧
          after.documents.get? (Kind.dashboard.path id) = some reply := by
  let name := overrides.name.getD dashboard.name
  obtain ⟨between, answered, added⟩ :=
    Store.server_post_simple dashboard.isObject_of_mem_documents name store
  rw [List.length_map] at answered added
  have ids := store.freshIds_add_two dashboard.charts.length
  let groupId := Store.ident (store.allocated + 1)
  let chartIds := store.allocate.freshIds dashboard.charts.length
  let id := Store.ident (store.allocated + dashboard.charts.length + 2)
  let created := Store.dashboardDocument name groupId (Store.placedEntries chartIds 0) id
  have sorted : created.Sorted := Store.sorted_dashboardDocument ..
  have identified : created.id? = some id := by
    rw [Json.id?, Store.get?_dashboardDocument]
    rfl
  have allocated : between.allocated = store.allocated + (dashboard.charts.length + 2) := by
    rw [added.allocated, List.length_map, Nat.add_assoc]
  have charts : List.Forall₂ (fun chart chartId =>
      between.documents.get? (Kind.chart.path chartId) = some (Chart.storedAs chart chartId))
      dashboard.charts chartIds := List.forall₂_map_left_iff.mp added.charts
  unfold createUnguarded
  rw [Plan.checked_eq (chartsPayload_eq valid), pure_bind]
  apply Plan.ensures_call answered
  show Plan.Ensures _ _ (if _ then pure created else _) _ _
  split
  case isTrue plain =>
    obtain ⟨noSettings, noDescription⟩ : dashboard.settingsPayload? = none ∧
        overrides.description = none := by simpa using plain
    have same := finish_dashboardDocument noSettings noDescription groupId id
      (Store.placedEntries chartIds 0)
    have own := added.dashboard.trans (congrArg some same.symm)
    exact Plan.ensures_pure ⟨groupId, chartIds, id,
      { ids, allocated, elsewhere := added.elsewhere, group := added.group, own, charts },
      added.dashboard⟩
  case isFalse =>
    have laid := isObject_withSettings dashboard sorted.isRecord.isObject
    rw [requireId_eq identified, pure_bind, Overrides.apply_eq overrides laid, pure_bind]
    apply Plan.ensures_call (Store.server_put added.dashboard identified (by simpa))
    apply Plan.ensures_pure
    have own := (Store.get?_set between (Kind.dashboard.path id) (Kind.dashboard.path id)
      (dashboard.finish overrides id created)).trans (if_pos rfl)
    refine ⟨groupId, chartIds, id,
      { ids, allocated, elsewhere := ?_, group := ?_, own, charts := ?_ }, own⟩
    · intro path untouched
      rw [Store.get?_set, if_neg, added.elsewhere path untouched]
      rintro rfl
      exact untouched (.tail _ (.head _))
    · rw [Store.get?_set, if_neg (Kind.path_ne (by decide) _ _), added.group]
    · refine charts.imp fun chart chartId stored => ?_
      rw [Store.get?_set, if_neg (Kind.path_ne (by decide) _ _), stored]

/-- A dashboard was created from the local charts in a new group that lists nothing else. -/
structure Created (dashboard : Dashboard) (overrides : Overrides) (groupId id : String)
    (chartIds : List String) (reply : Json) (before after : Store) : Prop
    extends Store.Extended groupId id chartIds reply before after where
  written : reply = dashboard.finish overrides id (Store.dashboardDocument
    (overrides.name.getD dashboard.name) groupId (Store.placedEntries chartIds 0) id)
  shown : List.Forall₂ (fun chart chartId => after.resource? .chart chartId =
    some (Chart.storedAs chart chartId)) dashboard.charts chartIds
  freshGroup : before.resource? .group groupId = none
  group : ∃ group, after.resource? .group groupId = some group ∧ group.Lists [id]

namespace Created

variable {reply : Json}

/-- The document of a new dashboard keeps the fields that tie it to its charts and its group. -/
theorem get?_reply (created : dashboard.Created overrides groupId id chartIds reply before after)
    {key : String} (foreign : key ∉ ["id", "name", "description", "filters", "eventOverlays",
      "selectedEventOverlays"]) :
    reply.get? key = (Store.dashboardDocument (overrides.name.getD dashboard.name) groupId
      (Store.placedEntries chartIds 0) id).get? key := by
  rw [created.written, get?_finish (Store.sorted_dashboardDocument ..).isRecord.isObject foreign]

theorem name?_reply
    (created : dashboard.Created overrides groupId id chartIds reply before after) :
    reply.name? = some (overrides.name.getD dashboard.name) := by
  rw [created.written, name?_finish (Store.sorted_dashboardDocument ..).isRecord.isObject,
    Store.name?_dashboardDocument]
  cases overrides.name <;> rfl

theorem charts_reply
    (created : dashboard.Created overrides groupId id chartIds reply before after) :
    reply.field "charts" = .arr (Store.placedEntries chartIds 0) := by
  rw [Json.field, created.get?_reply (by decide)]
  exact Store.charts_dashboardDocument ..

theorem groupId?_reply
    (created : dashboard.Created overrides groupId id chartIds reply before after) :
    reply.groupId? = some groupId := by
  rw [Json.groupId?, Json.string?_field, created.get?_reply (by decide), ← Json.string?_field]
  exact Store.groupId?_dashboardDocument ..

end Created

variable {reply : Json}

/-- Nothing had the identifiers of a dashboard that was added and of its charts and its group. -/
theorem Added.created (added : dashboard.Added overrides groupId chartIds id before after)
    (sound : before.Sound) (stored : after.documents.get? (Kind.dashboard.path id) = some reply) :
    dashboard.Created overrides groupId id chartIds reply before after := by
  have fresh : ∀ id' ∈ groupId :: (chartIds ++ [id]),
      id' ∈ before.freshIds (dashboard.charts.length + 2) := fun _ member => added.ids ▸ member
  have isGroup := fresh groupId (by simp)
  have isOwn := fresh id (by simp)
  have areCharts : ∀ chartId ∈ chartIds, _ := fun chartId member => fresh chartId (by simp [member])
  have once := before.nodup_freshIds (dashboard.charts.length + 2)
  rw [added.ids] at once
  have written := Option.some.inj (stored.symm.trans added.own)
  have object := (Store.sorted_dashboardDocument (overrides.name.getD dashboard.name) groupId
    (Store.placedEntries chartIds 0) id).isRecord.isObject
  have shown : List.Forall₂ (fun chart chartId => after.resource? .chart chartId =
      some (Chart.storedAs chart chartId)) dashboard.charts chartIds := by
    refine List.forall₂_iff_zip.mpr ⟨added.charts.length_eq, fun {chart chartId} member => ?_⟩
    have isChart := areCharts chartId (List.of_mem_zip member).2
    rw [Store.resource?_of_clean (Store.clean_of_mem_freshIds isChart)]
    exact (List.forall₂_iff_zip.mp added.charts).2 member
  constructor
  case toExtended =>
    constructor
    case elsewhere => exact added.elsewhere
    case fresh => exact sound.resource?_of_mem_freshIds isOwn _
    case stored => rw [Store.resource?_of_clean (Store.clean_of_mem_freshIds isOwn), stored]
    case layout =>
      rw [written, Layout.chartIds, Json.field, get?_finish object (by decide)]
      exact (Store.chartIds_dashboardDocument ..).trans (Store.filterMap_placedEntries ..)
    case once => exact (List.nodup_cons.mp once).2.of_append_left
    case charts =>
      intro chartId member
      obtain ⟨chart, -, there⟩ := Store.exists_of_forall₂_right shown member
      exact ⟨sound.resource?_of_mem_freshIds (areCharts chartId member) _, by rw [there]; rfl⟩
  case written => exact written
  case shown => exact shown
  case freshGroup => exact sound.resource?_of_mem_freshIds isGroup _
  case group =>
    have isObject : (Json.record [("name", some (.str (overrides.name.getD
        dashboard.name)))]).isObject = true := (Json.isRecord_record _).isObject
    refine ⟨_, (Store.resource?_of_clean (Store.clean_of_mem_freshIds isGroup) after .group).trans
      added.group, ?_⟩
    rw [Json.Lists, Json.get?_withField (by simpa [Store.groupDocument]), if_pos rfl]
    rfl

/-- A dashboard is created with its charts in a new group. -/
theorem ensures_createUnguarded_created (sound : store.Sound) (valid : dashboard.check = .ok ())
    (overrides : Overrides) :
    Plan.Ensures Store.server answer (dashboard.createUnguarded overrides) store
      fun reply after => ∃ groupId id chartIds,
        dashboard.Created overrides groupId id chartIds reply store after :=
  (ensures_createUnguarded_added valid overrides).mono
    fun _ _ ⟨groupId, chartIds, id, added, stored⟩ =>
      ⟨groupId, id, chartIds, added.created sound stored⟩

end Dashboard

end SignalBoard
