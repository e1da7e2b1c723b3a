/-
# What is sent for charts, dashboards, detectors and groups

A resource that passes its check has a payload, and the payload is a record with the fields the
rest of the theory reads back: its name, for the settings of a dashboard none of the fields
that tie the dashboard to its charts and its group, and for a group not the list of its
dashboards.
-/

import SignalBoard.Proofs.Json.Lookup
import SignalBoard.Proofs.Plan.Outcome
import SignalBoard.Reconcile.Detector
import SignalBoard.Reconcile.Group

namespace SignalBoard

/-- Every item passes when checking all of them passes, and the other way round. -/
theorem forM_eq_ok_iff {α : Type} (check : α → Checked Unit) (items : List α) :
    items.forM check = .ok () ↔ ∀ item ∈ items, check item = .ok () := by
  induction items with
  | nil => simp [List.forM, pure, Except.pure]
  | cons item rest ih =>
      change (check item >>= fun _ => rest.forM check) = .ok () ↔ _
      rcases checked : check item with cause | ⟨⟩
      · simp [checked, bind, Except.bind]
      · simpa [checked, bind, Except.bind] using ih

/-- A chain of checks passes when each passes. -/
theorem andThen_eq_ok_iff (first second : Checked Unit) :
    (do first; second) = .ok () ↔ first = .ok () ∧ second = .ok () := by
  rcases first with cause | ⟨⟩ <;> simp [bind, Except.bind]

theorem require_eq_ok_iff {condition : Bool} {cause : Invalid} :
    require condition cause = .ok () ↔ condition = true := by
  cases condition <;> simp [require]

theorem requireFilled_eq_ok_iff {text what : String} :
    requireFilled text what = .ok () ↔ Text.blank text = false := by
  rw [requireFilled, require_eq_ok_iff, Bool.not_eq_true']

/-- A value that is returned after a check is given if the check passes. -/
theorem checked_return_eq_ok_iff {α : Type} {check : Checked Unit} {value after : α} :
    (do check; return value) = .ok after ↔ check = .ok () ∧ value = after := by
  cases check <;> simp [bind, Except.bind, pure, Except.pure]

/-- A plan goes on with a value that passed its check. -/
theorem Plan.checked_eq {α : Type} {outcome : Checked α} {value : α}
    (passed : outcome = .ok value) : Plan.checked outcome = pure value := by
  rw [passed]
  rfl

/-- What follows on a check that is passed. -/
theorem Plan.checked_bind {α β : Type} {outcome : Checked α} {value : α}
    (passed : outcome = .ok value) (rest : α → Plan β) :
    Plan.checked outcome >>= rest = rest value := by
  rw [Plan.checked_eq passed, pure_bind]

/-- Nothing follows on a check that is not passed. -/
theorem Plan.checked_bind_error {α β : Type} {outcome : Checked α} {cause : Invalid}
    (refused : outcome = .error cause) (rest : α → Plan β) :
    Plan.checked outcome >>= rest = .fail (.invalid cause) := by
  rw [refused]
  rfl

/-- A document that has an identifier gives it. -/
theorem requireId_eq {document : Json} {id : String} (identified : document.id? = some id) :
    requireId document = pure id := by
  rw [requireId, identified]
  rfl

/-- What a record with a name is laid over gets that name. -/
theorem Json.name?_overlay {document : Json} {name : String} (record : document.IsRecord)
    (named : document.name? = some name) (old : Json) :
    (old.overlay document).name? = some name := by
  cases old with
  | obj base =>
      rw [Json.name?] at named ⊢
      rw [Json.get?_overlay rfl record]
      cases held : document.get? "name" <;> simp_all
  | _ => exact named

namespace Chart

variable {chart : Chart}

/-- The document that a store keeps of a chart that was created under an identifier. -/
def storedAs (chart : Chart) (id : String) : Json := chart.document.withField "id" (.str id)

/-- The document that a store keeps of a chart after an update: the payload laid over the old
document, whose identifier stays. -/
def revise (chart : Chart) (id : String) (old : Json) : Json :=
  (old.overlay chart.document).withField "id" (.str id)

theorem payload_eq (valid : chart.check = .ok ()) : chart.payload = .ok chart.document :=
  checked_return_eq_ok_iff.mpr ⟨valid, rfl⟩

theorem payload_eq_error {cause : Invalid} (refused : chart.check = .error cause) :
    chart.payload = .error cause := by
  simp [payload, refused, bind, Except.bind]

/-- The document of a check that passed. -/
theorem document_of_payload {payload : Json} (passed : chart.payload = .ok payload) :
    payload = chart.document :=
  (checked_return_eq_ok_iff.mp passed).2.symm

theorem name_ne_empty (valid : chart.check = .ok ()) : chart.name ≠ "" := by
  intro empty
  have filled := ((andThen_eq_ok_iff _ _).mp valid).1
  rw [empty] at filled
  exact absurd filled (by decide)

theorem isRecord_document (chart : Chart) : chart.document.IsRecord := Json.isRecord_record _

theorem isObject_document (chart : Chart) : chart.document.isObject = true :=
  chart.isRecord_document.isObject

theorem name?_document (chart : Chart) : chart.document.name? = some chart.name := by
  rw [Json.name?, document, Json.get?_record (by simp)]
  simp [Table.get?, Json.string?]

theorem name?_storedAs (chart : Chart) (id : String) :
    (chart.storedAs id).name? = some chart.name := by
  rw [← chart.name?_document]
  simp [Json.name?, storedAs, Json.get?_withField chart.isObject_document]

theorem id?_storedAs (chart : Chart) (id : String) : (chart.storedAs id).id? = some id := by
  simp [Json.id?, storedAs, Json.get?_withField chart.isObject_document, Json.string?]

theorem sorted_document (chart : Chart) : chart.document.Sorted := Json.sorted_record _

/-- A chart that is created is stored as one that was revised from nothing. -/
theorem revise_null (chart : Chart) (id : String) : chart.revise id .null = chart.storedAs id := rfl

/-- Revising a document once more changes nothing. -/
theorem revise_revise (chart : Chart) (id : String) (old : Json) :
    chart.revise id (chart.revise id old) = chart.revise id old := by
  have twice : ∀ upper base : Table Json,
      Table.insert "id" (.str id) (Table.insertAll upper
        (Table.insert "id" (.str id) (Table.insertAll upper base))) =
      Table.insert "id" (.str id) (Table.insertAll upper base) := by
    intro upper base
    by_cases member : "id" ∈ upper.map Prod.fst
    · rw [Table.insertAll_insert_of_mem member, Table.insertAll_insertAll]
    · rw [Table.insertAll_insert_of_not_mem member, Table.insertAll_insertAll,
        Table.insert_insert]
  have sorted := chart.sorted_document
  unfold revise
  cases document : chart.document with
  | obj upper =>
      rw [document] at sorted
      cases old with
      | obj base => exact congrArg Json.obj (twice upper base)
      | _ =>
          -- What is laid over anything but an object might as well be laid over itself.
          have whole := twice upper upper
          rw [Json.obj.inj sorted.overlay_self] at whole
          exact congrArg Json.obj whole
  | _ =>
      rw [document] at sorted
      cases sorted

/-- An updated chart has the local name. -/
theorem name?_revise (chart : Chart) (id : String) (old : Json) :
    (chart.revise id old).name? = some chart.name := by
  have laid : (old.overlay chart.document).isObject = true :=
    Json.isObject_overlay chart.isObject_document old
  rw [← Json.name?_overlay chart.isRecord_document chart.name?_document old, Json.name?, revise,
    Json.get?_withField laid, if_neg (by decide), Json.name?]

end Chart

namespace Dashboard

variable {dashboard : Dashboard}

theorem check_charts (valid : dashboard.check = .ok ()) :
    ∀ chart ∈ dashboard.charts, chart.check = .ok () :=
  (forM_eq_ok_iff _ _).mp ((andThen_eq_ok_iff _ _).mp valid).2

/-- The documents of the charts of a dashboard that passes its check. -/
theorem chartsPayload_eq (valid : dashboard.check = .ok ()) :
    dashboard.chartsPayload = .ok (dashboard.charts.map Chart.document) := by
  have each := check_charts valid
  rw [chartsPayload]
  generalize dashboard.charts = charts at each ⊢
  induction charts with
  | nil => rfl
  | cons chart rest ih =>
      rw [List.mapM_cons, Chart.payload_eq (each chart List.mem_cons_self),
        ih fun other later => each other (.tail _ later)]
      rfl

/-- Settings are laid only over fields of their own. -/
theorem get?_withSettings (dashboard : Dashboard) {document : Json}
    (object : document.isObject = true) {key : String}
    (foreign : key ∉ ["description", "filters", "eventOverlays", "selectedEventOverlays"]) :
    (dashboard.withSettings document).get? key = document.get? key := by
  unfold withSettings settingsPayload?
  split
  case h_1 settings present =>
    split at present
    · cases present
    · obtain rfl := Option.some.inj present
      have absent : Table.get? key dashboard.settings = none :=
        Table.get?_eq_none (by simpa [Dashboard.settings] using foreign)
      rw [Json.get?_overlay object (Json.isRecord_record _),
        Json.get?_record (by simp [Dashboard.settings]), absent]
      simp
  case h_2 => rfl

theorem isObject_withSettings (dashboard : Dashboard) {document : Json}
    (object : document.isObject = true) : (dashboard.withSettings document).isObject = true := by
  unfold withSettings settingsPayload?
  split
  case h_1 settings present =>
    split at present
    · cases present
    · obtain rfl := Option.some.inj present
      exact Json.isObject_overlay (Json.isRecord_record _).isObject _
  case h_2 => exact object

end Dashboard

/-- The document with a text assigned to a key, if there is a text. -/
def Json.withText? (document : Json) (key : String) (text : Option String) : Json :=
  match text with
  | some text => document.withField key (.str text)
  | none => document

@[simp] theorem Json.isObject_withText? (document : Json) (key : String) (text : Option String) :
    (document.withText? key text).isObject = document.isObject := by
  cases text <;> simp [withText?]

/-- Looking up another key than the one a text was assigned to. -/
theorem Json.get?_withText?_of_ne {document : Json} (object : document.isObject = true)
    {key other : String} (different : other ≠ key) (text : Option String) :
    (document.withText? key text).get? other = document.get? other := by
  cases text <;> simp [withText?, get?_withField, object, different]

/-- Assigning to an object comes to a document. -/
theorem Plan.assign_eq {document : Json} (object : document.isObject = true) (key : String)
    (value : Json) : assign key value document = pure (document.withField key value) := by
  rw [assign, Json.assign_eq object]
  rfl

theorem assignText?_eq {document : Json} (object : document.isObject = true) (key : String)
    (text : Option String) :
    assignText? key text document = pure (document.withText? key text) := by
  cases text with
  | none => rfl
  | some text => exact Plan.assign_eq object key (.str text)

namespace Overrides

/-- The document with the overrides written into it. -/
def applied (overrides : Overrides) (document : Json) : Json :=
  (document.withText? "name" overrides.name).withText? "description" overrides.description

/-- Overrides are written into any object. -/
theorem apply_eq (overrides : Overrides) {document : Json} (object : document.isObject = true) :
    overrides.apply document = pure (overrides.applied document) := by
  have second : (document.withText? "name" overrides.name).isObject = true := by simpa
  rw [apply, assignText?_eq object, pure_bind, assignText?_eq second, applied]

@[simp] theorem isObject_applied (overrides : Overrides) (document : Json) :
    (overrides.applied document).isObject = document.isObject := by
  simp [applied]

/-- Overrides write a name and a description only. -/
theorem get?_applied (overrides : Overrides) {document : Json}
    (object : document.isObject = true) {key : String} (notName : key ≠ "name")
    (notDescription : key ≠ "description") :
    (overrides.applied document).get? key = document.get? key := by
  have second : (document.withText? "name" overrides.name).isObject = true := by simpa
  rw [applied, Json.get?_withText?_of_ne second notDescription,
    Json.get?_withText?_of_ne object notName]

/-- A name to override takes the place of the one that is there. -/
theorem name?_applied_eq (overrides : Overrides) {document : Json}
    (object : document.isObject = true) :
    (overrides.applied document).name? = overrides.name.or document.name? := by
  have named : (document.withText? "name" overrides.name).isObject = true := by simpa
  rw [applied, Json.name?, Json.get?_withText?_of_ne named (by decide)]
  cases overrides.name with
  | none => rfl
  | some name => simp [Json.withText?, Json.get?_withField object, Json.string?]

/-- Without a name to override, the name stays. -/
theorem name?_applied {overrides : Overrides} (noName : overrides.name = none) {document : Json}
    (object : document.isObject = true) : (overrides.applied document).name? = document.name? := by
  rw [name?_applied_eq overrides object, noName, Option.none_or]

end Overrides

namespace Detector

variable {detector : Detector}

theorem payload_eq (valid : detector.check = .ok ()) :
    detector.payload = .ok detector.document :=
  checked_return_eq_ok_iff.mpr ⟨valid, rfl⟩

theorem payload_eq_error {cause : Invalid} (refused : detector.check = .error cause) :
    detector.payload = .error cause := by
  simp [payload, refused, bind, Except.bind]

/-- The document of a check that passed. -/
theorem document_of_payload {payload : Json} (passed : detector.payload = .ok payload) :
    payload = detector.document :=
  (checked_return_eq_ok_iff.mp passed).2.symm

theorem isRecord_document (detector : Detector) : detector.document.IsRecord :=
  Json.isRecord_record _

theorem isObject_document (detector : Detector) : detector.document.isObject = true :=
  detector.isRecord_document.isObject

theorem name?_document (detector : Detector) : detector.document.name? = some detector.name := by
  rw [Json.name?, document, Json.get?_record (by simp)]
  simp [Table.get?, Json.string?]

end Detector

namespace DashboardGroup

variable {group : DashboardGroup}

theorem check_dashboards (valid : group.check = .ok ()) :
    ∀ dashboard ∈ group.dashboards, dashboard.check = .ok () :=
  (forM_eq_ok_iff _ _).mp ((andThen_eq_ok_iff _ _).mp ((andThen_eq_ok_iff _ _).mp valid).2).2

/-- The fields that are sent for a group. -/
def fields (group : DashboardGroup) : List (String × Option Json) :=
  [("name", some (.str group.name)), ("description", Json.ofString? group.description),
    ("teams", Json.ofItems? Json.str group.teams)]

theorem payload_eq (valid : group.check = .ok ()) : group.payload = .ok (.record group.fields) := by
  simp only [payload, valid, bind, Except.bind]
  rfl

theorem name?_record_fields (group : DashboardGroup) :
    (Json.record group.fields).name? = some group.name := by
  rw [Json.name?, Json.get?_record (by simp [fields])]
  rfl

/-- What is sent for a group has the name that is to override its own, or else its own. -/
theorem nameOf_applied_getD (overrides : Overrides) :
    ((overrides.applied (.record group.fields)).field "name").string?.getD group.name =
      overrides.name.getD group.name := by
  have named := overrides.name?_applied_eq (Json.isRecord_record group.fields).isObject
  rw [Json.name?, ← Json.string?_field, name?_record_fields] at named
  rw [named]
  cases overrides.name <;> rfl

/-- What is sent for a group has its name, unless another is to override it. -/
theorem nameOf_applied {overrides : Overrides} (noName : overrides.name = none) :
    ((overrides.applied (.record group.fields)).field "name").string?.getD group.name =
      group.name := by
  rw [nameOf_applied_getD, noName, Option.getD_none]

/-- The document of a group without its name has the other fields that are sent for it. -/
theorem get?_unnamedPayload (valid : group.check = .ok ()) :
    ∃ document : Json, group.unnamedPayload = .ok document ∧ document.IsRecord ∧
      ∀ key, document.get? key =
        if key = "name" then none else (Json.record group.fields).get? key := by
  obtain ⟨table, isObj⟩ : ∃ table, Json.record group.fields = .obj table := ⟨_, Json.record_eq _⟩
  have once : (table.map Prod.fst).Nodup := by
    have whole := Json.isRecord_record group.fields
    rwa [isObj] at whole
  refine ⟨.obj (Table.erase "name" table), ?_, once.sublist (List.filter_sublist.map _), ?_⟩
  · rw [unnamedPayload, payload_eq valid, isObj]
    rfl
  · intro key
    rw [isObj]
    exact Table.get?_erase "name" key table

/-- The document of a group without its name says nothing of what the group lists. -/
theorem unnamedPayload_eq (valid : group.check = .ok ()) :
    ∃ document : Json, group.unnamedPayload = .ok document ∧ document.IsRecord ∧
      ∀ key ∉ ["description", "teams"], document.get? key = none := by
  obtain ⟨document, passed, isRecord, fields⟩ := get?_unnamedPayload valid
  refine ⟨document, passed, isRecord, fun key foreign => ?_⟩
  rw [fields]
  split
  case isTrue => rfl
  case isFalse notName =>
    rw [Json.get?_record (by simp [DashboardGroup.fields]), Table.get?_eq_none]
    · rfl
    · simp only [List.mem_cons, List.not_mem_nil, or_false, not_or] at foreign
      simp [DashboardGroup.fields, notName, foreign]

end DashboardGroup

end SignalBoard
