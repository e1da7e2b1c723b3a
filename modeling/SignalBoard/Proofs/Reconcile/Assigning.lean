/-
# Keys are assigned to objects only

Replies may be any documents, also ones without keys, to which nothing can be assigned. No operation
gets as far as to try. Every document that it writes into is one of its own payloads, or has an
identifier, or has a payload laid over it, and each of these makes it an object. To see this, the
operations are told here with the assignment left open: whatever is put in for what it does to
other values, the plan is the same, so this never matters, on no branch and on no server.
-/

import SignalBoard.CommandLine.Run
import SignalBoard.Proofs.Reconcile.Valid

namespace SignalBoard

open Plan (Tells)

/-- A way to assign a value to a key of a document. -/
abbrev Assignment := String → Json → Json → Plan Json

namespace Assignment

/-- What the assignment does to objects is right. What it does to other values may be anything. -/
def Right (assign : Assignment) : Prop :=
  ∀ key value (document : Json), document.isObject = true →
    assign key value document = Plan.assign key value document

/-- Assigns to objects, and meets every other value in another way. -/
def orElse (otherwise : Assignment) : Assignment := fun key value document =>
  if document.isObject then Plan.assign key value document else otherwise key value document

theorem right_assign : Right Plan.assign := fun _ _ _ _ => rfl

theorem right_orElse (otherwise : Assignment) : (orElse otherwise).Right :=
  fun _ _ _ object => if_pos object

end Assignment

/-! ## The operations with the assignment left open -/

section Operations

variable (assign : Assignment)

/-- Assigns a text to a key of a document, if there is a text. -/
def assignTextBy? (key : String) (text : Option String) (document : Json) : Plan Json :=
  match text with
  | some text => assign key (.str text) document
  | none => .done document

/-- Writes the overrides into a document. -/
def Overrides.applyBy (overrides : Overrides) (document : Json) : Plan Json := do
  let document ← assignTextBy? assign "name" overrides.name document
  assignTextBy? assign "description" overrides.description document

/-- Brings the stored chart in line with the local one, or creates it. -/
def Chart.updateBy (chart : Chart) (overrides : Overrides) : Plan Json := do
  let payload ← Plan.checked chart.payload
  match ← chart.find with
  | none =>
      let payload ← overrides.applyBy assign payload
      createPayload payload
  | some remote =>
      let id ← requireId remote
      let document ← overrides.applyBy assign (remote.overlay payload)
      Plan.put (Kind.chart.path id) document

/-- Brings the stored detector in line with the local one, or creates it. -/
def Detector.updateBy (detector : Detector) (overrides : Overrides) : Plan Json := do
  let payload ← Plan.checked detector.payload
  match ← findUnique .detector detector.name with
  | none =>
      let payload ← overrides.applyBy assign payload
      Plan.post Kind.detector.endpoint [] payload
  | some remote =>
      let id ← requireId remote
      let document ← overrides.applyBy assign (remote.overlay payload)
      Plan.put (Kind.detector.path id) document

namespace Dashboard

/-- Creates a dashboard, whether or not its name is taken. -/
def createUnguardedBy (dashboard : Dashboard) (overrides : Overrides) : Plan Json := do
  let charts ← Plan.checked dashboard.chartsPayload
  let name := overrides.name.getD dashboard.name
  let created ← Plan.post (Kind.dashboard.endpoint ++ "/simple") [("name", name)] (.arr charts)
  if dashboard.settingsPayload?.isNone && overrides.description.isNone then return created
  else
    let id ← requireId created
    let document ← overrides.applyBy assign (dashboard.withSettings created)
    Plan.put (Kind.dashboard.path id) document

/-- Creates a dashboard unless its name is taken. -/
def createBy (dashboard : Dashboard) (options : CreateOptions) : Plan Json := do
  Plan.checked dashboard.check
  guardCreate .dashboard dashboard.name options
  dashboard.createUnguardedBy assign {}

/-- Brings the stored dashboard in line with the local one, or creates it. -/
def updateBy (dashboard : Dashboard) (overrides : Overrides) : Plan Json := do
  Plan.checked dashboard.check
  match ← findUnique .dashboard dashboard.name with
  | none => dashboard.createUnguardedBy assign overrides
  | some remote =>
      let id ← requireId remote
      let charts ← dashboard.reconcileCharts (Layout.entries remote)
      let document ← assign "charts" (.arr charts) remote
      let document ← overrides.applyBy assign (dashboard.withSettings document)
      Plan.put (Kind.dashboard.path id) document

end Dashboard

namespace DashboardGroup

/-- Updates or creates a dashboard and notes where it is stored. -/
def placeDashboardBy (dashboard : Dashboard) : Plan Placement := do
  let remote ← dashboard.updateBy assign {}
  let id ← requireId remote
  return ⟨id, (remote.field "groupId").string?.getD ""⟩

/-- Creates a group, whether or not its name is taken. -/
def createUnguardedBy (group : DashboardGroup) (overrides : Overrides) : Plan Json := do
  let payload ← Plan.checked group.payload
  let payload ← overrides.applyBy assign payload
  let name := (payload.field "name").string?.getD group.name
  let created ← Plan.post Kind.group.endpoint [("name", name)] payload
  if group.dashboards.isEmpty then return created
  else
    let id ← requireId created
    let placements ← group.dashboards.mapM (placeDashboardBy assign)
    placements.forM fun placement => do
      let _ ← cloneInto id placement.dashboardId
      return ()
    removeSources id placements
    (members created).head?.forM Dashboard.deleteById
    Plan.get (Kind.group.path id)

/-- Creates a group unless its name is taken. -/
def createBy (group : DashboardGroup) (options : CreateOptions) : Plan Json := do
  Plan.checked group.check
  guardCreate .group group.name options
  group.createUnguardedBy assign {}

/-- Makes the dashboards of a stored group the local ones and gives their identifiers. -/
def reconcileDashboardsBy (group : DashboardGroup) (id : String) : Plan (List String) := do
  let placements ← group.dashboards.mapM (placeDashboardBy assign)
  let kept ← placements.mapM (settle id)
  removeSources id placements
  let current ← Plan.get (Kind.group.path id)
  ((members current).filter fun member => !kept.contains member).forM Dashboard.deleteById
  return kept

/-- Brings the stored group in line with the local one, or creates it. -/
def updateBy (group : DashboardGroup) (overrides : Overrides) : Plan Json := do
  Plan.checked group.check
  match ← findUnique .group group.name with
  | none => group.createUnguardedBy assign overrides
  | some remote =>
      let id ← requireId remote
      let document ←
        if group.dashboards.isEmpty then pure remote
        else do
          let kept ← group.reconcileDashboardsBy assign id
          assign "dashboards" (Json.ofStrings kept) remote
      let fields ← Plan.checked group.unnamedPayload
      let document ← overrides.applyBy assign (document.overlay fields)
      Plan.put (Kind.group.path id) document

end DashboardGroup

namespace Resource

/-- Creates a resource unless its name is taken. Charts and detectors are created as they are. -/
def createBy (resource : Resource) (options : CreateOptions) : Plan Json :=
  match resource with
  | chart c => c.create options
  | dashboard d => d.createBy assign options
  | group g => g.createBy assign options
  | detector t => t.create options

/-- Brings the stored resource in line with the local one, or creates it. -/
def updateBy (resource : Resource) (overrides : Overrides) : Plan Json :=
  match resource with
  | chart c => c.updateBy assign overrides
  | dashboard d => d.updateBy assign overrides
  | group g => g.updateBy assign overrides
  | detector t => t.updateBy assign overrides

end Resource

/-- What a command does with a resource. Readings and deletions assign nothing. -/
def CommandLine.Command.planBy (command : Command) (resource : Resource) : Plan Json :=
  match command with
  | .create options => resource.createBy assign options
  | .update overrides => resource.updateBy assign overrides
  | .read => resource.read
  | .delete => (fun _ => .null) <$> resource.delete

end Operations

/-! ## Every document that is written into is an object -/

section Objects

variable {α β : Type} {assign : Assignment}

/-- What follows on a check needs to agree only where the check is passed. -/
theorem Plan.checked_bind_congr {outcome : Checked α} {first second : α → Plan β}
    (same : ∀ value, outcome = .ok value → first value = second value) :
    Plan.checked outcome >>= first = Plan.checked outcome >>= second := by
  cases outcome with
  | ok value => exact same value rfl
  | error cause => rfl

/-- What follows on an identifier needs to agree only where the document has it. -/
theorem requireId_bind_congr {document : Json} {first second : String → Plan β}
    (same : ∀ id, document.id? = some id → first id = second id) :
    requireId document >>= first = requireId document >>= second := by
  unfold requireId
  split
  case h_1 id identified => exact same id identified
  case h_2 => rfl

theorem Overrides.applyBy_eq (right : assign.Right) (overrides : Overrides) {document : Json}
    (object : document.isObject = true) :
    overrides.applyBy assign document = overrides.apply document := by
  have assigns : ∀ (key : String) (text : Option String) {document : Json},
      document.isObject = true →
        assignTextBy? assign key text document = assignText? key text document := by
    intro key text document object
    cases text with
    | none => rfl
    | some text => exact right key (.str text) document object
  rw [applyBy, apply, assigns _ _ object, assignText?_eq object, pure_bind, pure_bind]
  exact assigns _ _ (by simpa)

theorem Chart.updateBy_eq (right : assign.Right) (chart : Chart) (overrides : Overrides) :
    chart.updateBy assign overrides = chart.update overrides := by
  apply Plan.checked_bind_congr
  intro payload passed
  obtain rfl := document_of_payload passed
  apply bind_congr
  intro found
  cases found with
  | none => exact congrArg (· >>= _) (overrides.applyBy_eq right chart.isObject_document)
  | some remote =>
      have laid := Json.isObject_overlay chart.isObject_document remote
      exact bind_congr fun id => congrArg (· >>= _) (overrides.applyBy_eq right laid)

theorem Detector.updateBy_eq (right : assign.Right) (detector : Detector) (overrides : Overrides) :
    detector.updateBy assign overrides = detector.update overrides := by
  apply Plan.checked_bind_congr
  intro payload passed
  obtain rfl := document_of_payload passed
  apply bind_congr
  intro found
  cases found with
  | none => exact congrArg (· >>= _) (overrides.applyBy_eq right detector.isObject_document)
  | some remote =>
      have laid := Json.isObject_overlay detector.isObject_document remote
      exact bind_congr fun id => congrArg (· >>= _) (overrides.applyBy_eq right laid)

namespace Dashboard

theorem createUnguardedBy_eq (right : assign.Right) (dashboard : Dashboard)
    (overrides : Overrides) :
    dashboard.createUnguardedBy assign overrides = dashboard.createUnguarded overrides := by
  apply bind_congr
  intro charts
  apply bind_congr
  intro created
  split
  · rfl
  · apply requireId_bind_congr
    intro id identified
    have settled := isObject_withSettings dashboard (Json.isObject_of_id? identified)
    rw [overrides.applyBy_eq right settled]

theorem createBy_eq (right : assign.Right) (dashboard : Dashboard) (options : CreateOptions) :
    dashboard.createBy assign options = dashboard.create options := by
  rw [createBy, createUnguardedBy_eq right, create]

theorem updateBy_eq (right : assign.Right) (dashboard : Dashboard) (overrides : Overrides) :
    dashboard.updateBy assign overrides = dashboard.update overrides := by
  apply bind_congr
  intro _
  apply bind_congr
  intro found
  cases found with
  | none => exact createUnguardedBy_eq right dashboard overrides
  | some remote =>
      apply requireId_bind_congr
      intro id identified
      apply bind_congr
      intro charts
      have object := Json.isObject_of_id? identified
      have settled :
          (dashboard.withSettings (remote.withField "charts" (.arr charts))).isObject = true :=
        dashboard.isObject_withSettings (by simpa)
      rw [right _ _ _ object, Plan.assign_eq object, pure_bind, pure_bind,
        overrides.applyBy_eq right settled]

end Dashboard

namespace DashboardGroup

variable {group : DashboardGroup}

theorem placeDashboardBy_eq (right : assign.Right) :
    placeDashboardBy assign = placeDashboard := by
  funext dashboard
  rw [placeDashboardBy, Dashboard.updateBy_eq right, placeDashboard]

theorem createUnguardedBy_eq (right : assign.Right) (valid : group.check = .ok ())
    (overrides : Overrides) :
    group.createUnguardedBy assign overrides = group.createUnguarded overrides := by
  have object : (Json.record group.fields).isObject = true := (Json.isRecord_record _).isObject
  unfold createUnguardedBy createUnguarded
  rw [Plan.checked_eq (payload_eq valid), pure_bind, pure_bind, overrides.applyBy_eq right object,
    placeDashboardBy_eq right]

theorem createBy_eq (right : assign.Right) (options : CreateOptions) :
    group.createBy assign options = group.create options := by
  apply Plan.checked_bind_congr
  intro _ valid
  exact bind_congr fun _ => createUnguardedBy_eq right valid {}

theorem reconcileDashboardsBy_eq (right : assign.Right) (id : String) :
    group.reconcileDashboardsBy assign id = group.reconcileDashboards id := by
  rw [reconcileDashboardsBy, placeDashboardBy_eq right, reconcileDashboards]

theorem updateBy_eq (right : assign.Right) (overrides : Overrides) :
    group.updateBy assign overrides = group.update overrides := by
  apply Plan.checked_bind_congr
  intro _ valid
  apply bind_congr
  intro found
  cases found with
  | none => exact createUnguardedBy_eq right valid overrides
  | some remote =>
      apply requireId_bind_congr
      intro id identified
      obtain ⟨unnamed, built, isRecord, -⟩ := unnamedPayload_eq valid
      have object := Json.isObject_of_id? identified
      have writes : ∀ document : Json, overrides.applyBy assign (document.overlay unnamed) =
          overrides.apply (document.overlay unnamed) := fun document =>
        overrides.applyBy_eq right (Json.isObject_overlay isRecord.isObject document)
      simp only [reconcileDashboardsBy_eq right, right _ _ _ object, Plan.checked_eq built,
        pure_bind, writes]

end DashboardGroup

/-- Whatever an assignment does to values that are no objects, no command does anything else for
it. -/
theorem CommandLine.Command.planBy_eq (right : assign.Right) (command : Command)
    (resource : Resource) : command.planBy assign resource = command.plan resource := by
  cases command with
  | create options =>
      cases resource with
      | chart c => rfl
      | dashboard d => exact Dashboard.createBy_eq right d options
      | group g => exact DashboardGroup.createBy_eq right options
      | detector t => rfl
  | update overrides =>
      cases resource with
      | chart c => exact Chart.updateBy_eq right c overrides
      | dashboard d => exact Dashboard.updateBy_eq right d overrides
      | group g => exact DashboardGroup.updateBy_eq right overrides
      | detector t => exact Detector.updateBy_eq right t overrides
  | read => rfl
  | delete => rfl

end Objects

/-! ## No assignment fails -/

namespace Resource

variable {asked : Question → Prop}

theorem tells_read (resource : Resource) : Tells Fault.Own asked resource.read := by
  cases resource with
  | chart c =>
      show Tells _ _ (Chart.read c)
      unfold Chart.read
      split
      · exact Plan.tells_call Plan.tells_pure
      · exact Plan.tells_requireUnique _ _
  | dashboard d => exact Plan.tells_requireUnique _ _
  | group g => exact Plan.tells_requireUnique _ _
  | detector t => exact Plan.tells_requireUnique _ _

theorem tells_removeById (resource : Resource) (id : String) :
    Tells Fault.Own asked (resource.removeById id) := by
  cases resource with
  | chart c => exact Chart.tells_deleteById id
  | dashboard d => exact Dashboard.tells_deleteById id
  | group g => exact Plan.tells_call fun _ => Plan.tells_pure ()
  | detector t => exact Plan.tells_call fun _ => Plan.tells_pure ()

theorem tells_delete (resource : Resource) : Tells Fault.Own asked resource.delete := by
  by_cases byName : resource.ByName
  case pos =>
    rw [delete_eq byName]
    apply Plan.tells_bind (Plan.tells_requireUnique _ _)
    exact fun remote => Plan.tells_bind (Plan.tells_requireId remote) (tells_removeById resource)
  case neg =>
    -- Only a chart that names an identifier is not found by its name.
    cases resource with
    | chart c =>
        show Tells _ _ (Chart.delete c)
        unfold Chart.delete
        split
        case h_1 id _ => exact Chart.tells_deleteById id
        case h_2 none => exact absurd none byName
    | dashboard d => exact absurd trivial byName
    | group g => exact absurd trivial byName
    | detector t => exact absurd trivial byName

end Resource

namespace CommandLine.Command

variable {σ : Type}

/-- Of its own a command raises no fault but that the resource does not pass its check, and those
that look-ups, users and replies without an identifier give rise to. -/
theorem tells_plan (command : Command) (resource : Resource) :
    Tells (fun fault => fault.Own ∨ ∃ cause, fault = .invalid cause) (fun _ => True)
      (command.plan resource) := by
  have own : ∀ {plan : Plan Json}, Tells Fault.Own (fun _ => True) plan →
      Tells (fun fault => fault.Own ∨ ∃ cause, fault = .invalid cause) (fun _ => True) plan :=
    fun tells => tells.mono (fun _ => .inl) fun _ => id
  cases command with
  | create options =>
      show Tells _ _ (resource.create options)
      cases passed : resource.check with
      | ok =>
          have tells := Resource.tells_create passed options
          exact own (tells.mono (fun _ => id) fun _ _ => trivial)
      | error cause =>
          rw [Resource.create_eq_fail passed]
          exact .inr ⟨cause, rfl⟩
  | update overrides =>
      show Tells _ _ (resource.update overrides)
      cases passed : resource.check with
      | ok => exact own (Resource.tells_update passed overrides)
      | error cause =>
          rw [Resource.update_eq_fail passed]
          exact .inr ⟨cause, rfl⟩
  | read => exact own (Resource.tells_read resource)
  | delete =>
      exact own (Plan.tells_bind (Resource.tells_delete resource) fun _ => Plan.tells_pure _)

/-- Keys are assigned to objects only: the plan of a command is the one with any other behaviour put
in where a key of another value were to be assigned, and no run of it, whatever the replies are,
fails because a key could not be assigned, unless a server says so. -/
theorem assigns_to_objects (command : Command) (resource : Resource) :
    command.planBy Plan.assign resource = command.plan resource ∧
      (∀ otherwise : Assignment,
        command.planBy (Assignment.orElse otherwise) resource = command.plan resource) ∧
      ∀ (server : Server σ) (answer : Question → Bool) (state : σ) (key : String),
        ((command.plan resource).run server answer state).result = .error (.notAnObject key) →
          ∃ before request, (command.plan resource).trace server answer state =
            before ++ [(request, .error (.notAnObject key))] := by
  refine ⟨planBy_eq Assignment.right_assign command resource, fun otherwise =>
    planBy_eq (Assignment.right_orElse otherwise) command resource, ?_⟩
  intro server answer state key failed
  apply ((tells_plan command resource).fault failed).resolve_left
  rintro (own | ⟨cause, invalid⟩)
  · cases own
  · cases invalid

/-- The layout of a dashboard that was found is assigned. -/
example :
    let board : Dashboard := { name := "board" }
    let stored : Json := .record [("id", some (.str "d")), ("name", some (.str "board"))]
    let refuse : Assignment := fun key _ _ => .fail (.notAnObject key)
    ((board.updateBy refuse {}).run Server.scripted (fun _ => false) [.ok (.arr [stored])]).result =
      .error (.notAnObject "charts") := by
  decide +kernel

/-- A chart that is read as an array is given up before its name would be assigned. -/
example :
    let chart : Chart := { id := some "c", name := "chart", options := .text "x" }
    ((chart.update { name := some "new" }).run Server.scripted (fun _ => false)
      [.ok (.arr [])]).result = .error (.unexpectedReply (.missingId (.arr []))) := by
  decide +kernel

end CommandLine.Command

end SignalBoard
