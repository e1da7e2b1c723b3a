/-
# What updates leave, document by document

An update of a detector or of a dashboard leaves documents that can be told from the one it found
under its name, from the charts on its layout and from the identifiers that it took, which are the
next ones of the store. Everything else is as it was.
-/

import SignalBoard.Proofs.Group.Aligned
import SignalBoard.Proofs.Reconcile.Created
import SignalBoard.Proofs.Reconcile.Names

namespace SignalBoard

/-- What an update of a detector leaves: a new one under the next identifier, or the one that was
found with the local definition laid over it. -/
def Detector.Settled (detector : Detector) (found : Option Json) (before after : Store) : Prop :=
  match found with
  | none =>
      let id := Store.ident (before.allocated + 1)
      after = before.allocate.set (Kind.detector.path id)
        (detector.document.withField "id" (.str id))
  | some remote => ∃ id, before.resource? .detector id = some remote ∧
      after = before.set (Kind.detector.path id)
        ((remote.overlay detector.document).withField "id" (.str id))

namespace Dashboard

/-- What an update of a dashboard leaves: a new one, or the one that was found, with its charts
reconciled and written last. -/
def Settled (dashboard : Dashboard) (found : Option Json) (before after : Store) : Prop :=
  match found with
  | none => ∃ groupId chartIds id, dashboard.Added {} groupId chartIds id before after
  | some remote => ∃ id, before.resource? .dashboard id = some remote ∧
      ∃ between, dashboard.Reconciled (Layout.entries remote) before between ∧
        after = between.set (Kind.dashboard.path id) (dashboard.updated {} before id remote)

variable {answer : Question → Bool} {dashboard : Dashboard} {store : Store}

/-- A dashboard whose name identifies at most one stored dashboard is settled by an update. -/
theorem ensures_update_settled (sound : store.Sound) (consistent : store.Consistent)
    (valid : dashboard.check = .ok ()) {found : Option Json}
    (named : store.named .dashboard dashboard.name = found.toList) :
    Plan.Ensures Store.server answer (dashboard.update {}) store
      fun _ after => dashboard.Settled found store after := by
  cases found with
  | none =>
      unfold update
      rw [Plan.checked_eq valid, pure_bind]
      apply Plan.ensures_bind (Store.ensures_findUnique named)
      rintro _ store ⟨rfl, rfl⟩
      exact (ensures_createUnguarded_added valid {}).mono
        fun _ _ ⟨groupId, chartIds, id, added, _⟩ => ⟨groupId, chartIds, id, added⟩
  | some remote =>
      obtain ⟨id, stored, -⟩ := sound.exists_of_named named
      apply (ensures_update_stored valid sound {} named stored
        (consistent.placeable sound stored)).mono
      rintro _ after ⟨rfl, between, reconciled, isAfter⟩
      exact ⟨id, stored, between, reconciled, isAfter⟩

end Dashboard

/-- A detector whose name identifies at most one stored detector is settled by an update. -/
theorem Detector.ensures_update_settled {answer : Question → Bool} {detector : Detector}
    {store : Store} (sound : store.Sound) (valid : detector.check = .ok ()) {found : Option Json}
    (named : store.named .detector detector.name = found.toList) :
    Plan.Ensures Store.server answer (detector.update {}) store
      fun _ after => detector.Settled found store after := by
  unfold update
  rw [Plan.checked_eq (payload_eq valid), pure_bind]
  apply Plan.ensures_bind (Store.ensures_findUnique named)
  rintro found store ⟨rfl, rfl⟩
  cases found with
  | none =>
      rw [Overrides.apply_eq {} detector.isObject_document, pure_bind]
      exact Plan.ensures_call
        (Store.server_post (by decide) detector.isObject_document []) (Plan.ensures_pure rfl)
  | some remote =>
      obtain ⟨id, stored, -⟩ := sound.exists_of_named named
      have identified := (sound.id_of_resource? stored).1
      have laid := Json.isObject_overlay detector.isObject_document remote
      dsimp only
      rw [requireId_eq identified, pure_bind, Overrides.apply_eq {} laid, pure_bind]
      exact Plan.ensures_call (Store.server_put (Store.get?_of_resource? stored) identified laid)
        (Plan.ensures_pure ⟨id, stored, rfl⟩)

namespace Resource

/-- What an update of a detector or of a dashboard leaves, given what it found. -/
def Settled (resource : Resource) (found : Option Json) (before after : Store) : Prop :=
  match resource with
  | dashboard d => d.Settled found before after
  | detector d => d.Settled found before after
  | chart _ | group _ => False

/-- How many identifiers an update of a detector or of a dashboard takes. -/
def taken (resource : Resource) (found : Option Json) (store : Store) : Nat :=
  match resource, found with
  | dashboard d, none => d.charts.length + 2
  | dashboard d, some remote => (d.absent store (Layout.entries remote)).length
  | detector _, none => 1
  | _, _ => 0

/-- Where an update of a detector or of a dashboard may write: under the identifiers that it takes,
to what it found, and to the charts on the layout of a dashboard. -/
def Touches (resource : Resource) (found : Option Json) (ids : List String) (kind : Kind)
    (id : String) : Prop :=
  id ∈ ids ∨ ∃ remote ∈ found, kind = resource.kind ∧ remote.id? = some id ∨
    resource.kind = .dashboard ∧ kind = .chart ∧ id ∈ Layout.chartIds remote

variable {answer : Question → Bool} {resource : Resource} {store before after : Store}
  {found : Option Json}

/-- A resource of these kinds is a dashboard or a detector. -/
theorem exists_of_singular (singular : resource.kind ∈ Kind.singular) :
    (∃ d, resource = .dashboard d) ∨ ∃ d, resource = .detector d := by
  cases resource with
  | dashboard d => exact .inl ⟨d, rfl⟩
  | detector d => exact .inr ⟨d, rfl⟩
  | _ => simp [kind, Kind.singular] at singular

/-- A resource whose name identifies at most one stored resource is settled by an update. -/
theorem ensures_update_settled (singular : resource.kind ∈ Kind.singular) (sound : store.Sound)
    (consistent : store.Consistent) (valid : resource.check = .ok ())
    (named : store.named resource.kind resource.name = found.toList) :
    Plan.Ensures Store.server answer (resource.update {}) store
      fun _ after => resource.Settled found store after := by
  obtain ⟨d, rfl⟩ | ⟨d, rfl⟩ := exists_of_singular singular
  · exact Dashboard.ensures_update_settled sound consistent valid named
  · exact Detector.ensures_update_settled sound valid named

/-- If an update succeeds, the resource is valid and its name identifies at most one. -/
theorem yields_update_settled (singular : resource.kind ∈ Kind.singular) (sound : store.Sound)
    (consistent : store.Consistent) :
    Plan.Yields Store.server answer (resource.update {}) store
      fun _ after => resource.check = .ok () ∧ ∃ found : Option Json,
        store.named resource.kind resource.name = found.toList ∧
          resource.Settled found store after := by
  have tells : Plan.Yields Store.server answer (resource.update {}) store
      fun _ _ => resource.check = .ok () ∧ ∃ found : Option Json,
        store.named resource.kind resource.name = found.toList := by
    obtain ⟨d, rfl⟩ | ⟨d, rfl⟩ := exists_of_singular singular
    · exact Dashboard.yields_update_found {}
    · apply Plan.yields_checked_bind
      intro payload passed
      have valid : d.check = .ok () := by
        cases checked : d.check with
        | ok => rfl
        | error => rw [Detector.payload_eq_error checked] at passed; cases passed
      apply Plan.yields_bind (Store.yields_findUnique .detector d.name)
      rintro found store ⟨named, rfl⟩
      exact ⟨fun _ _ => ⟨valid, found, named⟩⟩
  apply tells.assuming
  rintro ⟨valid, found, named⟩
  apply (ensures_update_settled singular sound consistent valid named).yields.mono
  exact fun _ _ settled => ⟨valid, found, named, settled⟩

/-- How an update changes a store: it takes identifiers, writes where it may, and what dashboards
and detectors are there after it were there before or have the name of the resource. -/
structure Updated (resource : Resource) (found : Option Json) (before after : Store) : Prop where
  allocated : after.allocated = before.allocated + resource.taken found before
  elsewhere : ∀ path, (∀ kind id, resource.Touches found
      (before.freshIds (resource.taken found before)) kind id → path ≠ kind.path id) →
    after.documents.get? path = before.documents.get? path
  named : ∀ kind ∈ Kind.singular, ∀ id document, after.resource? kind id = some document →
    before.resource? kind id = some document ∨
      kind = resource.kind ∧ document.name? = some resource.name

end Resource

namespace Detector

variable {detector : Detector} {found : Option Json} {before after : Store}

/-- What is written for a detector has its name. -/
theorem name?_written (detector : Detector) (base : Json) (id : String) :
    ((base.overlay detector.document).withField "id" (.str id)).name? = some detector.name := by
  rw [Json.name?_withField (Json.isObject_overlay detector.isObject_document base) (by decide),
    Json.name?_overlay detector.isRecord_document detector.name?_document]

theorem Settled.updated (settled : detector.Settled found before after) (sound : before.Sound) :
    (Resource.detector detector).Updated found before after := by
  -- Either way one document is written, at a path that may be written.
  suffices ∃ (id : String) (base : Json), after.documents = (before.set (Kind.detector.path id)
        ((base.overlay detector.document).withField "id" (.str id))).documents ∧
      after.allocated = before.allocated + (Resource.detector detector).taken found before ∧
      (Resource.detector detector).Touches found
        (before.freshIds ((Resource.detector detector).taken found before)) .detector id by
    obtain ⟨own, base, documents, allocated, touches⟩ := this
    refine ⟨allocated, fun path untouched => ?_, fun kind singular id document stored => ?_⟩
    · rw [documents, Store.get?_set, if_neg (untouched _ _ touches)]
    · have there := Store.get?_of_resource? stored
      rw [documents, Store.get?_set] at there
      split at there
      case isTrue here =>
        obtain rfl := Option.some.inj there
        exact .inr ⟨(Kind.path_inj here).1, detector.name?_written base own⟩
      case isFalse =>
        exact .inl ((Store.resource?_of_clean (Store.clean_of_resource? stored) ..).trans there)
  cases found with
  | none =>
      refine ⟨Store.ident (before.allocated + 1), .null, by rw [settled]; rfl, ?_, .inl ?_⟩
      · rw [settled]
        rfl
      · exact List.mem_cons_self
  | some remote =>
      obtain ⟨id, stored, rfl⟩ := settled
      exact ⟨id, remote, rfl, rfl,
        .inr ⟨remote, rfl, .inl ⟨rfl, (sound.id_of_resource? stored).1⟩⟩⟩

/-- Writing a detector keeps a store consistent. -/
theorem Settled.consistent (settled : detector.Settled found before after)
    (consistent : before.Consistent) (sound : after.Sound) : after.Consistent := by
  have same : ∀ kind, kind ≠ .detector → ∀ id,
      after.resource? kind id = before.resource? kind id := by
    intro kind other id
    apply Store.resource?_congr
    cases found with
    | none => rw [settled, Store.get?_set, if_neg (Kind.path_ne other _ _)]; rfl
    | some remote =>
        obtain ⟨id', -, rfl⟩ := settled
        rw [Store.get?_set, if_neg (Kind.path_ne other _ _)]
  have dashboards := same .dashboard (by decide)
  have charts := same .chart (by decide)
  constructor
  case identified => exact fun _ _ stored => sound.identified stored
  all_goals simp only [dashboards, charts]
  · exact consistent.placed
  · exact consistent.once
  · exact consistent.apart

end Detector

namespace Dashboard

variable {dashboard : Dashboard} {found : Option Json} {store before after between : Store}

/-- Creating a dashboard writes under the identifiers that it takes. -/
theorem Added.updated {groupId id : String} {chartIds : List String}
    (added : dashboard.Added {} groupId chartIds id before after) :
    (Resource.dashboard dashboard).Updated none before after := by
  refine ⟨added.allocated, fun path untouched => ?_, fun kind singular id' document stored => ?_⟩
  · have away : ∀ (kind : Kind) id, id ∈ before.freshIds (dashboard.charts.length + 2) →
        path ≠ kind.path id := fun kind id member => untouched kind id (.inl member)
    rw [added.ids] at away
    apply added.elsewhere path
    rw [List.mem_cons, List.mem_cons, not_or, not_or]
    refine ⟨away _ _ (by simp), away _ _ (by simp), fun member => ?_⟩
    obtain ⟨chartId, among, isPath⟩ := List.mem_map.mp member
    exact away _ chartId (by simp [among]) isPath.symm
  · by_cases created : kind.path id' ∈
        Kind.group.path groupId :: Kind.dashboard.path id :: Kind.chart.paths chartIds
    case pos =>
      rcases Kind.path_mem_created_iff.mp created with ⟨rfl, -⟩ | ⟨rfl, rfl⟩ | ⟨rfl, -⟩
      · simp [Kind.singular] at singular
      · have isOwn := added.own.symm.trans (Store.get?_of_resource? stored)
        obtain rfl := Option.some.inj isOwn
        refine .inr ⟨rfl, (name?_finish ?_).trans (Store.name?_dashboardDocument ..)⟩
        exact (Store.sorted_dashboardDocument ..).isRecord.isObject
      · simp [Kind.singular] at singular
    case neg =>
      exact .inl ((Store.resource?_congr (added.elsewhere _ created)).symm.trans stored)

/-- What was found of a dashboard, and how its charts were reconciled, tells what an update
wrote. -/
theorem Reconciled.updated {remote : Json} {id : String}
    (reconciled : dashboard.Reconciled (Layout.entries remote) before between)
    (sound : before.Sound) (stored : before.resource? .dashboard id = some remote)
    (isNamed : remote.name? = some dashboard.name) :
    (Resource.dashboard dashboard).Updated (some remote) before
      (between.set (Kind.dashboard.path id) (dashboard.updated {} before id remote)) := by
  have identified := (sound.id_of_resource? stored).1
  have object := sound.isObject (Store.get?_of_resource? stored)
  refine ⟨reconciled.allocated, fun path untouched => ?_,
    fun kind singular id' document found => ?_⟩
  · have notOwn : path ≠ Kind.dashboard.path id :=
      untouched .dashboard id (.inr ⟨remote, rfl, .inl ⟨rfl, identified⟩⟩)
    rw [Store.get?_set, if_neg notOwn]
    apply reconciled.elsewhere
    intro member
    obtain ⟨chartId, among, isPath⟩ := List.mem_map.mp member
    apply untouched .chart chartId _ isPath.symm
    rw [Layout.filterMap_entries, List.mem_append] at among
    exact among.elim (fun old => .inr ⟨remote, rfl, .inr ⟨rfl, rfl, old⟩⟩) .inl
  · have there := Store.get?_of_resource? found
    rw [Store.get?_set] at there
    split at there
    case isTrue here =>
      obtain rfl := Option.some.inj there
      exact .inr ⟨(Kind.path_inj here).1, (name?_updated object).trans isNamed⟩
    case isFalse =>
      have notChart : kind ≠ .chart := by
        rintro rfl
        simp [Kind.singular] at singular
      rw [reconciled.elsewhere _ (Kind.path_not_mem_paths notChart _ _)] at there
      exact .inl ((Store.resource?_of_clean (Store.clean_of_resource? found) ..).trans there)

theorem Settled.updated (settled : dashboard.Settled found before after) (sound : before.Sound)
    (named : before.named .dashboard dashboard.name = found.toList) :
    (Resource.dashboard dashboard).Updated found before after := by
  cases found with
  | none =>
      obtain ⟨groupId, chartIds, id, added⟩ := settled
      exact added.updated
  | some remote =>
      obtain ⟨id, stored, between, reconciled, rfl⟩ := settled
      obtain ⟨-, -, isNamed⟩ := sound.exists_of_named named
      exact reconciled.updated sound stored isNamed

/-- An update of a dashboard keeps a store consistent. -/
theorem Settled.consistent (settled : dashboard.Settled found before after) (sound : before.Sound)
    (consistent : before.Consistent) (soundAfter : after.Sound) : after.Consistent := by
  cases found with
  | none =>
      obtain ⟨groupId, chartIds, id, added⟩ := settled
      exact (added.created sound added.own).consistent consistent soundAfter
  | some remote =>
      obtain ⟨id, stored, between, reconciled, rfl⟩ := settled
      exact reconciled.consistent_set sound consistent stored {} soundAfter

end Dashboard

namespace Resource

variable {resource : Resource} {found : Option Json} {before after : Store}

/-- An update changes a store in a few places. -/
theorem Settled.updated (settled : resource.Settled found before after) (sound : before.Sound)
    (named : before.named resource.kind resource.name = found.toList) :
    resource.Updated found before after := by
  cases resource with
  | dashboard d => exact Dashboard.Settled.updated settled sound named
  | detector d => exact Detector.Settled.updated settled sound
  | _ => exact settled.elim

/-- An update keeps a store consistent. -/
theorem Settled.consistent (settled : resource.Settled found before after) (sound : before.Sound)
    (consistent : before.Consistent) (soundAfter : after.Sound) : after.Consistent := by
  cases resource with
  | dashboard d => exact Dashboard.Settled.consistent settled sound consistent soundAfter
  | detector d => exact Detector.Settled.consistent settled consistent soundAfter
  | _ => exact settled.elim

end Resource

end SignalBoard
