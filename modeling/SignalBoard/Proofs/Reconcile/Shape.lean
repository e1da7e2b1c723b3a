/-
# The shape that the operations share

A create looks whether the name is taken and then establishes the resource; an update amends the one
resource of the name or establishes a new one; a reading gives that one resource and a deletion
removes it. This is so for resources of every kind. What differs are three steps, establishing,
amending and removing, and each kind is established by one request of its own, which comes before
any other.
-/

import SignalBoard.Proofs.Reconcile.Payload
import SignalBoard.Reconcile.Resource

namespace SignalBoard

variable {α : Type}

/-- A look-up by name and what follows on it: nothing but the results of exactly the name
matters. -/
theorem findUnique_bind (kind : Kind) (name : String) (rest : Option Json → Plan α) :
    (findUnique kind name >>= rest) =
      .call (.search kind name) fun reply =>
        match matching name reply.items with
        | [] => rest none
        | [document] => rest (some document)
        | _ => .fail (.ambiguous name) := by
  show Plan.call _ _ = _
  congr 1
  funext reply
  dsimp only [Plan.andThen]
  rcases matching name reply.items with _ | ⟨document, _ | ⟨other, rest⟩⟩ <;> rfl

/-- A look-up by name that has to find something, and what follows on it. -/
theorem requireUnique_bind (kind : Kind) (name : String) (rest : Json → Plan α) :
    (requireUnique kind name >>= rest) =
      .call (.search kind name) fun reply =>
        match matching name reply.items with
        | [] => .fail (.noMatch name)
        | [document] => rest document
        | _ => .fail (.ambiguous name) := by
  rw [requireUnique, bind_assoc, findUnique_bind]
  rfl

namespace Resource

/-- The resource is found by its name. A chart with an identifier of its own is found by that. -/
def ByName : Resource → Prop
  | chart c => c.id = none
  | dashboard _ => True
  | group _ => True
  | detector _ => True

/-- The stored resource, if there is one. -/
def find : Resource → Plan (Option Json)
  | chart c => c.find
  | dashboard d => findUnique .dashboard d.name
  | group g => findUnique .group g.name
  | detector t => findUnique .detector t.name

/-- Creates the resource, whether or not its name is taken. -/
def establish (overrides : Overrides) : Resource → Plan Json
  | chart c => overrides.apply c.document >>= Chart.createPayload
  | dashboard d => d.createUnguarded overrides
  | group g => g.createUnguarded overrides
  | detector t => overrides.apply t.document >>= Plan.post Kind.detector.endpoint []

/-- The request that creates the resource. -/
def creation (overrides : Overrides) : Resource → Request
  | chart c => .post Kind.chart.endpoint [] (overrides.applied c.document)
  | dashboard d => .post (Kind.dashboard.endpoint ++ "/simple")
      [("name", overrides.name.getD d.name)] (.arr (d.charts.map Chart.document))
  | group g => .post Kind.group.endpoint [("name", overrides.name.getD g.name)]
      (overrides.applied (.record g.fields))
  | detector t => .post Kind.detector.endpoint [] (overrides.applied t.document)

/-- Brings the stored resource of an identifier in line with the local one. -/
def amend (overrides : Overrides) (remote : Json) (id : String) : Resource → Plan Json
  | chart c => overrides.apply (remote.overlay c.document) >>= Plan.put (Kind.chart.path id)
  | dashboard d => do
      let charts ← d.reconcileCharts (Layout.entries remote)
      let document ← Plan.assign "charts" (.arr charts) remote
      let document ← overrides.apply (d.withSettings document)
      Plan.put (Kind.dashboard.path id) document
  | group g => do
      let document ←
        if g.dashboards.isEmpty then pure remote
        else do
          let kept ← g.reconcileDashboards id
          Plan.assign "dashboards" (Json.ofStrings kept) remote
      let fields ← Plan.checked g.unnamedPayload
      let document ← overrides.apply (document.overlay fields)
      Plan.put (Kind.group.path id) document
  | detector t => overrides.apply (remote.overlay t.document) >>= Plan.put (Kind.detector.path id)

/-- Deletes the stored resource of an identifier. -/
def removeById (id : String) : Resource → Plan Unit
  | chart _ => Chart.deleteById id
  | dashboard _ => Dashboard.deleteById id
  | group _ => Plan.delete (Kind.group.path id)
  | detector _ => Plan.delete (Kind.detector.path id)

variable {resource : Resource}

/-- A resource that passes its check is established unless its name is taken. -/
theorem create_eq (valid : resource.check = .ok ()) (options : CreateOptions) :
    resource.create options =
      guardCreate resource.kind resource.name options >>= fun _ => resource.establish {} := by
  cases resource with
  | chart c => exact Plan.checked_bind (Chart.payload_eq valid) _
  | dashboard d => exact Plan.checked_bind valid _
  | group g => exact Plan.checked_bind valid _
  | detector t => exact Plan.checked_bind (Detector.payload_eq valid) _

/-- A resource that does not pass its check is not created. -/
theorem create_eq_fail {cause : Invalid} (invalid : resource.check = .error cause)
    (options : CreateOptions) : resource.create options = .fail (.invalid cause) := by
  cases resource with
  | chart c => exact Plan.checked_bind_error (Chart.payload_eq_error invalid) _
  | dashboard d => exact Plan.checked_bind_error invalid _
  | group g => exact Plan.checked_bind_error invalid _
  | detector t => exact Plan.checked_bind_error (Detector.payload_eq_error invalid) _

/-- A resource without an identifier of its own is looked up by its name. -/
theorem find_eq (byName : resource.ByName) :
    resource.find = findUnique resource.kind resource.name := by
  cases resource with
  | chart c =>
      show Chart.find c = _
      rw [Chart.find, show c.id = none from byName]
      rfl
  | dashboard d => rfl
  | group g => rfl
  | detector t => rfl

/-- A resource that passes its check is amended if it is there, and established if not. -/
theorem update_eq (valid : resource.check = .ok ()) (overrides : Overrides) :
    resource.update overrides = resource.find >>= fun
      | none => resource.establish overrides
      | some remote => requireId remote >>= fun id => resource.amend overrides remote id := by
  cases resource with
  | chart c =>
      refine (Plan.checked_bind (Chart.payload_eq valid) _).trans (congrArg _ (funext ?_))
      intro found
      cases found <;> rfl
  | dashboard d =>
      refine (Plan.checked_bind valid _).trans (congrArg _ (funext ?_))
      intro found
      cases found <;> rfl
  | group g =>
      refine (Plan.checked_bind valid _).trans (congrArg _ (funext ?_))
      intro found
      cases found <;> rfl
  | detector t =>
      refine (Plan.checked_bind (Detector.payload_eq valid) _).trans (congrArg _ (funext ?_))
      intro found
      cases found <;> rfl

/-- A resource that does not pass its check is not updated. -/
theorem update_eq_fail {cause : Invalid} (invalid : resource.check = .error cause)
    (overrides : Overrides) : resource.update overrides = .fail (.invalid cause) := by
  cases resource with
  | chart c => exact Plan.checked_bind_error (Chart.payload_eq_error invalid) _
  | dashboard d => exact Plan.checked_bind_error invalid _
  | group g => exact Plan.checked_bind_error invalid _
  | detector t => exact Plan.checked_bind_error (Detector.payload_eq_error invalid) _

/-- A reading gives the one resource of the name. -/
theorem read_eq (byName : resource.ByName) :
    resource.read = requireUnique resource.kind resource.name := by
  cases resource with
  | chart c =>
      show Chart.read c = _
      rw [Chart.read, show c.id = none from byName]
      rfl
  | dashboard d => rfl
  | group g => rfl
  | detector t => rfl

/-- A deletion removes the one resource of the name. -/
theorem delete_eq (byName : resource.ByName) :
    resource.delete = requireUnique resource.kind resource.name >>= fun remote =>
      requireId remote >>= fun id => resource.removeById id := by
  cases resource with
  | chart c =>
      show Chart.delete c = _
      rw [Chart.delete, show c.id = none from byName]
      rfl
  | dashboard d => rfl
  | group g => rfl
  | detector t => rfl

/-- A resource that passes its check is established by its request, which comes first. -/
theorem exists_establish_eq (valid : resource.check = .ok ()) (overrides : Overrides) :
    ∃ next, resource.establish overrides = .call (resource.creation overrides) next := by
  cases resource with
  | chart c =>
      refine ⟨.done, ?_⟩
      rw [establish, overrides.apply_eq c.isObject_document, pure_bind]
      rfl
  | dashboard d =>
      show ∃ next, (Plan.checked d.chartsPayload >>= _) = _
      rw [Plan.checked_eq (Dashboard.chartsPayload_eq valid), pure_bind]
      exact ⟨_, rfl⟩
  | group g =>
      have object : (Json.record g.fields).isObject = true := (Json.isRecord_record _).isObject
      show ∃ next, (Plan.checked g.payload >>= _) = _
      rw [Plan.checked_eq (DashboardGroup.payload_eq valid), pure_bind, overrides.apply_eq object,
        pure_bind, DashboardGroup.nameOf_applied_getD]
      exact ⟨_, rfl⟩
  | detector t =>
      refine ⟨.done, ?_⟩
      rw [establish, overrides.apply_eq t.isObject_document, pure_bind]
      rfl

end Resource

end SignalBoard
