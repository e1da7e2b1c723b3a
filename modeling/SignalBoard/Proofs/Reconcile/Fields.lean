/-
# The fields of a document that is updated

An update lays what is local over what is stored and writes the overrides into the result. What a
key of it has in the end is told key by key: an override, or else what was reconciled, or else what
is local, or else what was stored. So nothing that is stored is dropped, and what is not set
locally stays as it was.
-/

import SignalBoard.Proofs.Store.Change
import SignalBoard.Proofs.Reconcile.Shape

namespace SignalBoard

/-- The text that overrides a key. -/
def Overrides.text? (overrides : Overrides) (key : String) : Option String :=
  if key = "name" then overrides.name
  else if key = "description" then overrides.description
  else none

/-- The local value of a key: that of the payload, which of a dashboard are its settings. The
payload of a group counts without its name. -/
def Resource.local? (resource : Resource) (key : String) : Option Json :=
  match resource with
  | .chart c => c.payload.toOption.bind (Json.get? key)
  | .dashboard d => d.settingsPayload?.bind (Json.get? key)
  | .group g => if key = "name" then none else g.payload.toOption.bind (Json.get? key)
  | .detector t => t.payload.toOption.bind (Json.get? key)

/-- A document that an update writes: an object that has, for every key, the override, or else what
was reconciled, or else what is local, or else what is stored. -/
structure Resource.Overlaid (resource : Resource) (overrides : Overrides) (remote : Json)
    (reconciled : Table Json) (body : Json) : Prop where
  object : body.isObject = true
  get?_eq : ∀ key, body.get? key = ((overrides.text? key).map .str).or
    ((reconciled.get? key).or ((resource.local? key).or (remote.get? key)))

/-- A document before the overrides are written into it. -/
structure Resource.Laid (resource : Resource) (remote : Json) (reconciled : Table Json)
    (document : Json) : Prop where
  object : document.isObject = true
  get?_eq : ∀ key, document.get? key =
    (reconciled.get? key).or ((resource.local? key).or (remote.get? key))

/-- Looking a key up after a text was assigned to another, or to this one. -/
theorem Json.get?_withText? {document : Json} (object : document.isObject = true)
    (key other : String) (text : Option String) :
    (document.withText? key text).get? other =
      ((if other = key then text else none).map .str).or (document.get? other) := by
  by_cases same : other = key
  · subst same
    cases text <;> simp [withText?, get?_withField object]
  · rw [get?_withText?_of_ne object same, if_neg same]
    rfl

/-- What a key has once the overrides are written. -/
theorem Overrides.get?_applied_eq (overrides : Overrides) {document : Json}
    (object : document.isObject = true) (key : String) :
    (overrides.applied document).get? key =
      ((overrides.text? key).map .str).or (document.get? key) := by
  have named : (document.withText? "name" overrides.name).isObject = true := by simpa
  rw [applied, Json.get?_withText? named, Json.get?_withText? object, text?]
  by_cases isName : key = "name"
  · subst isName
    simp
  · simp [isName]

namespace Resource

variable {resource : Resource} {remote document : Json} {reconciled : Table Json} {key : String}

/-- Writing the overrides is what is left to do. -/
theorem Laid.overlaid (laid : resource.Laid remote reconciled document) (overrides : Overrides) :
    resource.Overlaid overrides remote reconciled (overrides.applied document) where
  object := (overrides.isObject_applied document).trans laid.object
  get?_eq key := by rw [overrides.get?_applied_eq laid.object, laid.get?_eq]

/-- No field that is stored is dropped. -/
theorem Overlaid.isSome_get? {overrides : Overrides} {body : Json}
    (overlaid : resource.Overlaid overrides remote reconciled body)
    (stored : (remote.get? key).isSome) : (body.get? key).isSome := by
  simp [overlaid.get?_eq, stored]

/-- What is laid over the stored document where nothing was reconciled. -/
theorem laid_plain (object : document.isObject = true)
    (overlays : ∀ key, document.get? key = (resource.local? key).or (remote.get? key)) :
    resource.Laid remote [] document :=
  ⟨object, overlays⟩

/-- What is laid over the stored document with one field reconciled, which is not local. -/
theorem laid_field {field : String} {value : Json} (base : remote.isObject = true)
    (foreign : resource.local? field = none) (object : document.isObject = true)
    (overlays : ∀ key, document.get? key =
      (resource.local? key).or ((remote.withField field value).get? key)) :
    resource.Laid remote [(field, value)] document := by
  refine ⟨object, fun key => ?_⟩
  rw [overlays, Json.get?_withField base]
  by_cases same : key = field
  · subst same
    simp [foreign, Table.get?]
  · simp [same, Ne.symm same, Table.get?]

/-- A chart lays its document over the stored one. -/
theorem laid_chart {chart : Chart} (valid : chart.check = .ok ())
    (object : remote.isObject = true) :
    Laid (.chart chart) remote [] (remote.overlay chart.document) := by
  apply laid_plain (Json.isObject_overlay chart.isObject_document remote)
  intro key
  rw [Json.get?_overlay object chart.isRecord_document, local?, Chart.payload_eq valid]
  rfl

/-- A detector lays its document over the stored one. -/
theorem laid_detector {detector : Detector} (valid : detector.check = .ok ())
    (object : remote.isObject = true) :
    Laid (.detector detector) remote [] (remote.overlay detector.document) := by
  apply laid_plain (Json.isObject_overlay detector.isObject_document remote)
  intro key
  rw [Json.get?_overlay object detector.isRecord_document, local?, Detector.payload_eq valid]
  rfl

/-- What a dashboard has for a key after its settings were laid over it. -/
theorem get?_withSettings_eq (dashboard : Dashboard) (object : document.isObject = true)
    (key : String) : (dashboard.withSettings document).get? key =
      ((Resource.dashboard dashboard).local? key).or (document.get? key) := by
  rw [Dashboard.withSettings, local?]
  cases present : dashboard.settingsPayload? with
  | none => rfl
  | some settings =>
      have isRecord : settings.IsRecord := by
        rw [Dashboard.settingsPayload?] at present
        split at present
        · cases present
        · exact Option.some.inj present ▸ Json.isRecord_record _
      exact Json.get?_overlay object isRecord key

/-- The settings of a dashboard say nothing of its charts. -/
theorem local?_charts (dashboard : Dashboard) :
    (Resource.dashboard dashboard).local? "charts" = none := by
  have empty : (Json.obj []).isObject = true := rfl
  have laid := get?_withSettings_eq dashboard empty "charts"
  rw [dashboard.get?_withSettings empty (by decide)] at laid
  exact (Option.or_eq_none_iff.mp laid.symm).1

/-- A dashboard lays its settings over the stored document with the new layout. -/
theorem laid_dashboard (dashboard : Dashboard) (object : remote.isObject = true)
    (layout : List Json) : Laid (.dashboard dashboard) remote [("charts", .arr layout)]
      (dashboard.withSettings (remote.withField "charts" (.arr layout))) := by
  have charted : (remote.withField "charts" (.arr layout)).isObject = true := by simpa
  exact laid_field object (local?_charts dashboard) (dashboard.isObject_withSettings charted)
    (get?_withSettings_eq dashboard charted)

/-- The local value of a key of a group. -/
theorem local?_group {group : DashboardGroup} (valid : group.check = .ok ()) (key : String) :
    (Resource.group group).local? key =
      if key = "name" then none else (Json.record group.fields).get? key := by
  rw [local?, DashboardGroup.payload_eq valid]
  rfl

/-- The document of a group says nothing of its dashboards. -/
theorem local?_dashboards {group : DashboardGroup} (valid : group.check = .ok ()) :
    (Resource.group group).local? "dashboards" = none := by
  rw [local?_group valid, if_neg (by decide), Json.get?_record (by simp [DashboardGroup.fields])]
  rfl

/-- A group lays its document without its name over the stored one, in which its dashboards may have
been reconciled. -/
theorem laid_group {group : DashboardGroup} (valid : group.check = .ok ()) {fields : Json}
    (unnamed : group.unnamedPayload = .ok fields) (object : remote.isObject = true) :
    Laid (.group group) remote [] (remote.overlay fields) ∧
      ∀ ids, Laid (.group group) remote [("dashboards", ids)]
        ((remote.withField "dashboards" ids).overlay fields) := by
  obtain ⟨_, same, isRecord, has⟩ := DashboardGroup.get?_unnamedPayload valid
  obtain rfl := Except.ok.inj (unnamed.symm.trans same)
  have overlays (base : Json) (object : base.isObject = true) (key : String) :
      (base.overlay fields).get? key = ((Resource.group group).local? key).or (base.get? key) := by
    rw [Json.get?_overlay object isRecord, has, local?_group valid]
  refine ⟨laid_plain (Json.isObject_overlay isRecord.isObject _) (overlays _ object), fun ids => ?_⟩
  exact laid_field object (local?_dashboards valid) (Json.isObject_overlay isRecord.isObject _)
    (overlays _ (by simpa))

end Resource

end SignalBoard
