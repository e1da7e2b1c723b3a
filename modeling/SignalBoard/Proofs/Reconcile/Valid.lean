/-
# Checks come first and are never late

Deep inside of an update, in the loop over the dashboards of a group and in the loop over the charts
of a dashboard, payloads are built and checked again. The check of a resource covers the checks of
all its parts, so none of these can fail any more, and what a run was half way through is never
given up for a resource that is no good. Nor does an assignment fail: a document that is written
into is a payload, or its identifier was asked for before, so it is an object.
-/

import SignalBoard.Proofs.Plan.Tells
import SignalBoard.Proofs.Reconcile.Shape
import SignalBoard.Proofs.Store.Change

namespace SignalBoard

open Plan

variable {σ α : Type} {asked : Question → Prop}

namespace Chart

variable {chart : Chart}

theorem tells_createPayload (payload : Json) :
    Tells Fault.Own asked (createPayload payload) := tells_call tells_pure

theorem tells_createUnguarded (valid : chart.check = .ok ()) :
    Tells Fault.Own asked chart.createUnguarded := by
  apply tells_bind (tells_checked (payload_eq valid))
  exact fun _ => tells_createPayload _

theorem tells_updateById (valid : chart.check = .ok ()) (id : String) :
    Tells Fault.Own asked (updateById id chart) := by
  apply tells_bind (tells_checked (payload_eq valid))
  intro payload
  apply tells_bind (tells_call tells_pure)
  exact fun _ => tells_call tells_pure

theorem tells_deleteById (id : String) : Tells Fault.Own asked (deleteById id) :=
  tells_call fun _ => tells_pure ()

end Chart

namespace Dashboard

variable {dashboard : Dashboard}

theorem tells_createUnguarded (valid : dashboard.check = .ok ()) (overrides : Overrides) :
    Tells Fault.Own asked (dashboard.createUnguarded overrides) := by
  apply tells_bind (tells_checked (chartsPayload_eq valid))
  intro charts
  apply tells_bind (tells_call tells_pure)
  intro created
  split
  · exact tells_pure created
  · apply tells_requireId_bind
    intro id identified
    have settled := isObject_withSettings dashboard (Json.isObject_of_id? identified)
    rw [overrides.apply_eq settled, pure_bind]
    exact tells_call tells_pure

theorem tells_readPlaced (entry : Json) : Tells Fault.Own asked (readPlaced entry) :=
  tells_bind (tells_call tells_pure) fun _ => tells_pure _

/-- A local chart that is looked up by name has passed its check. -/
theorem tells_updatePlaced (valid : dashboard.check = .ok ()) (placed : PlacedChart) :
    Tells Fault.Own asked (dashboard.updatePlaced placed) := by
  unfold updatePlaced
  split
  case h_1 chart named =>
    have among : chart ∈ dashboard.charts := List.mem_of_find?_eq_some named
    apply tells_bind (Chart.tells_updateById (check_charts valid chart among) placed.id)
    exact fun _ => tells_pure ()
  case h_2 => exact tells_pure ()

theorem tells_addCharts {charts : List Chart} (valid : ∀ chart ∈ charts, chart.check = .ok ())
    (row : UInt64) : Tells Fault.Own asked (addCharts charts row) := by
  induction charts generalizing row with
  | nil => exact tells_pure []
  | cons chart rest ih =>
      apply tells_bind (Chart.tells_createUnguarded (valid chart List.mem_cons_self))
      intro created
      apply tells_bind (tells_requireId created)
      intro id
      apply tells_bind (ih (fun other later => valid other (.tail _ later)) _)
      exact fun _ => tells_pure _

theorem tells_reconcileCharts (valid : dashboard.check = .ok ()) (layout : List Json) :
    Tells Fault.Own asked (dashboard.reconcileCharts layout) := by
  apply tells_bind (tells_mapM fun entry _ => tells_readPlaced entry)
  intro placed
  apply tells_bind (tells_forM fun chart _ => tells_updatePlaced valid chart)
  intro _
  have absent : ∀ chart ∈ dashboard.missing placed, chart.check = .ok () := fun chart among =>
    check_charts valid chart (List.mem_filter.mp among).1
  apply tells_bind (tells_addCharts absent _)
  intro added
  apply tells_bind (tells_forM fun chart _ => Chart.tells_deleteById chart.id)
  exact fun _ => tells_pure _

theorem tells_amend (valid : dashboard.check = .ok ()) (overrides : Overrides) {remote : Json}
    (object : remote.isObject = true) (id : String) :
    Tells Fault.Own asked ((Resource.dashboard dashboard).amend overrides remote id) := by
  apply tells_bind (tells_reconcileCharts valid _)
  intro charts
  have settled :
      (dashboard.withSettings (remote.withField "charts" (.arr charts))).isObject = true :=
    dashboard.isObject_withSettings (by simpa)
  rw [Plan.assign_eq object, pure_bind, overrides.apply_eq settled, pure_bind]
  exact tells_call tells_pure

theorem tells_deleteChartsOf (id : String) :
    Tells Fault.Own asked (deleteChartsOf id) := by
  apply tells_bind (tells_call tells_pure)
  exact fun _ => tells_forM fun chart _ => Chart.tells_deleteById chart

theorem tells_deleteById (id : String) : Tells Fault.Own asked (deleteById id) :=
  tells_bind (tells_deleteChartsOf id) fun _ => tells_call fun _ => tells_pure ()

theorem tells_update (valid : dashboard.check = .ok ()) (overrides : Overrides) :
    Tells Fault.Own asked (dashboard.update overrides) := by
  apply tells_bind (tells_checked valid)
  intro _
  apply tells_bind (tells_findUnique _ _)
  intro found
  cases found with
  | none => exact tells_createUnguarded valid overrides
  | some remote =>
      apply tells_requireId_bind
      exact fun id identified => tells_amend valid overrides (Json.isObject_of_id? identified) id

end Dashboard

namespace DashboardGroup

variable {group : DashboardGroup}

theorem tells_placeDashboard {dashboard : Dashboard} (valid : dashboard.check = .ok ()) :
    Tells Fault.Own asked (placeDashboard dashboard) := by
  apply tells_bind (Dashboard.tells_update valid {})
  intro remote
  exact tells_bind (tells_requireId remote) fun _ => tells_pure _

theorem tells_placements (valid : group.check = .ok ()) :
    Tells Fault.Own asked (group.dashboards.mapM placeDashboard) :=
  tells_mapM fun dashboard among => tells_placeDashboard (check_dashboards valid dashboard among)

theorem tells_cloneInto (groupId dashboardId : String) :
    Tells Fault.Own asked (cloneInto groupId dashboardId) := tells_call tells_pure

theorem tells_removeFrom (groupId : String) (dashboardIds : List String) :
    Tells Fault.Own asked (removeFrom groupId dashboardIds) := by
  apply tells_bind (tells_call tells_pure)
  intro group
  split
  · apply tells_bind (tells_forM fun id _ => Dashboard.tells_deleteChartsOf id)
    exact fun _ => tells_call fun _ => tells_pure ()
  · exact tells_forM fun id _ => Dashboard.tells_deleteById id

theorem tells_removeSources (target : String) (sources : List Placement) :
    Tells Fault.Own asked (removeSources target sources) :=
  tells_forM fun source _ => tells_removeFrom source.1 source.2

theorem tells_createUnguarded (valid : group.check = .ok ()) (overrides : Overrides) :
    Tells Fault.Own asked (group.createUnguarded overrides) := by
  have object : (Json.record group.fields).isObject = true := (Json.isRecord_record _).isObject
  unfold createUnguarded
  rw [Plan.checked_eq (payload_eq valid), pure_bind, overrides.apply_eq object, pure_bind]
  apply tells_bind (tells_call tells_pure)
  intro created
  split
  · exact tells_pure created
  · apply tells_bind (tells_requireId created)
    intro id
    apply tells_bind (tells_placements valid)
    intro placements
    apply tells_bind
    · exact tells_forM fun _ _ => tells_bind (tells_cloneInto _ _) fun _ => tells_pure ()
    intro _
    apply tells_bind (tells_removeSources id placements)
    intro _
    apply tells_bind
    · cases (members created).head? with
      | none => exact tells_pure ()
      | some first => exact Dashboard.tells_deleteById first
    exact fun _ => tells_call tells_pure

theorem tells_settle (target : String) (placement : Placement) :
    Tells Fault.Own asked (settle target placement) := by
  unfold settle
  split
  · exact tells_pure _
  · exact tells_bind (tells_cloneInto _ _) tells_requireId

theorem tells_reconcileDashboards (valid : group.check = .ok ()) (id : String) :
    Tells Fault.Own asked (group.reconcileDashboards id) := by
  apply tells_bind (tells_placements valid)
  intro placements
  apply tells_bind (tells_mapM fun placement _ => tells_settle id placement)
  intro kept
  apply tells_bind (tells_removeSources id placements)
  intro _
  apply tells_bind (tells_call tells_pure)
  intro current
  apply tells_bind (tells_forM fun member _ => Dashboard.tells_deleteById member)
  exact fun _ => tells_pure kept

theorem tells_amend (valid : group.check = .ok ()) (overrides : Overrides) {remote : Json}
    (object : remote.isObject = true) (id : String) :
    Tells Fault.Own asked ((Resource.group group).amend overrides remote id) := by
  have fields : ∀ document : Json, Tells Fault.Own asked (do
      let fields ← checked group.unnamedPayload
      let document ← overrides.apply (document.overlay fields)
      put (Kind.group.path id) document) := by
    intro document
    obtain ⟨unnamed, built, isRecord, -⟩ := unnamedPayload_eq valid
    have laid := Json.isObject_overlay isRecord.isObject document
    rw [Plan.checked_eq built, pure_bind, overrides.apply_eq laid, pure_bind]
    exact tells_call tells_pure
  dsimp only [Resource.amend]
  split
  · exact tells_bind (tells_pure remote) fields
  · apply tells_bind (tells_reconcileDashboards valid id)
    intro kept
    rw [Plan.assign_eq object]
    exact fields _

end DashboardGroup

namespace Resource

variable {resource : Resource}

theorem tells_find (resource : Resource) : Tells Fault.Own asked resource.find := by
  cases resource with
  | chart c =>
      show Tells _ _ (Chart.find c)
      unfold Chart.find
      split
      · exact tells_bind (tells_call tells_pure) fun _ => tells_pure _
      · exact tells_findUnique _ _
  | dashboard d => exact tells_findUnique _ _
  | group g => exact tells_findUnique _ _
  | detector t => exact tells_findUnique _ _

/-- No check fails while a resource that passes its own is created. -/
theorem tells_establish (valid : resource.check = .ok ()) (overrides : Overrides) :
    Tells Fault.Own asked (resource.establish overrides) := by
  cases resource with
  | chart c =>
      rw [establish, overrides.apply_eq c.isObject_document]
      exact Chart.tells_createPayload _
  | dashboard d => exact Dashboard.tells_createUnguarded valid overrides
  | group g => exact DashboardGroup.tells_createUnguarded valid overrides
  | detector t =>
      rw [establish, overrides.apply_eq t.isObject_document]
      exact tells_call tells_pure

/-- No check fails while the stored resource is brought in line with one that passes its own. -/
theorem tells_amend (valid : resource.check = .ok ()) (overrides : Overrides) {remote : Json}
    (object : remote.isObject = true) (id : String) :
    Tells Fault.Own asked (resource.amend overrides remote id) := by
  cases resource with
  | chart c =>
      rw [amend, overrides.apply_eq (Json.isObject_overlay c.isObject_document remote)]
      exact tells_call tells_pure
  | dashboard d => exact Dashboard.tells_amend valid overrides object id
  | group g => exact DashboardGroup.tells_amend valid overrides object id
  | detector t =>
      rw [amend, overrides.apply_eq (Json.isObject_overlay t.isObject_document remote)]
      exact tells_call tells_pure

/-- A creation asks at most whether a second resource of the name is wanted. -/
theorem tells_create (valid : resource.check = .ok ()) (options : CreateOptions) :
    Tells Fault.Own
      (fun question => ∃ count, question = ⟨resource.kind, resource.name, count⟩)
      (resource.create options) := by
  rw [create_eq valid]
  exact tells_bind (tells_guardCreate _ _ _) fun _ => tells_establish valid {}

theorem tells_update (valid : resource.check = .ok ()) (overrides : Overrides) :
    Tells Fault.Own asked (resource.update overrides) := by
  rw [update_eq valid]
  apply tells_bind (tells_find resource)
  intro found
  cases found with
  | none => exact tells_establish valid overrides
  | some remote =>
      apply tells_requireId_bind
      exact fun id identified => tells_amend valid overrides (Json.isObject_of_id? identified) id

/-- The plan is refused before anything is sent or asked if the resource does not pass its check,
and never later. -/
structure ChecksFirst (resource : Resource) (server : Server σ) (answer : Question → Bool)
    (plan : Plan α) (state : σ) : Prop where
  /-- The cause of the check is all that comes of the run. -/
  refuses : ∀ cause, resource.check = .error cause →
    plan.run server answer state = { result := .error (.invalid cause), state }
  /-- A failed check in a run of a resource that passes is what the server answered the last
  request. -/
  never_late : resource.check = .ok () → ∀ cause,
    (plan.run server answer state).result = .error (.invalid cause) →
      ∃ before request,
        plan.trace server answer state = before ++ [(request, .error (.invalid cause))]

variable {server : Server σ} {answer : Question → Bool} {state : σ} {plan : Plan α}

/-- What is refused at the start and raises only faults of its own is refused first or not at
all. -/
theorem ChecksFirst.of_tells (asked : Question → Prop)
    (refused : ∀ cause, resource.check = .error cause → plan = .fail (.invalid cause))
    (tells : resource.check = .ok () → Tells Fault.Own asked plan) :
    ChecksFirst resource server answer plan state where
  refuses cause invalid := by
    rw [refused cause invalid]
    rfl
  never_late valid cause failed :=
    ((tells valid).fault failed).resolve_left nofun

/-- Creations and updates of resources of every kind check the resource before they send anything,
and if it passes, no check of theirs fails on the way, whatever the server answers. -/
theorem checksFirst (resource : Resource) (server : Server σ) (answer : Question → Bool)
    (state : σ) :
    (∀ options, ChecksFirst resource server answer (resource.create options) state) ∧
      ∀ overrides, ChecksFirst resource server answer (resource.update overrides) state := by
  constructor
  · intro options
    exact .of_tells _ (fun _ invalid => create_eq_fail invalid options)
      fun valid => tells_create valid options
  · intro overrides
    exact .of_tells (fun _ => False) (fun _ invalid => update_eq_fail invalid overrides)
      fun valid => tells_update valid overrides

end Resource

end SignalBoard
