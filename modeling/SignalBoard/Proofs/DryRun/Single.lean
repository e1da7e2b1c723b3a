/-
# Charts and detectors in a dry run

Operations that change one document. What they write is put together from a stored document and
one of their own, and neither names an identifier that is given during the run, so the dry run
writes the same but for the identifier it gives itself.
-/

import SignalBoard.Proofs.DryRun.Requests
import SignalBoard.Proofs.Reconcile.Payload
import SignalBoard.Reconcile.Detector

namespace SignalBoard

theorem Json.renameIds_withText? (rename : String → String) (document : Json) {key : String}
    (other : key ∉ idKeys) (text : Option String) :
    (document.withText? key text).renameIds rename =
      (document.renameIds rename).withText? key text := by
  cases text with
  | none => rfl
  | some text => simp [withText?, renameIds_withField, renameValue, renameIds, renameAt, other]

/-- Overrides hold no identifiers. -/
theorem Overrides.renameIds_applied (overrides : Overrides) (rename : String → String)
    (document : Json) :
    (overrides.applied document).renameIds rename =
      overrides.applied (document.renameIds rename) := by
  rw [applied, Json.renameIds_withText? _ _ (by decide), Json.renameIds_withText? _ _ (by decide),
    applied]

namespace DryRun

variable {answer : Question → Bool} {origin store : Store} {count : Nat} {run : DryRun}

/-- A document keeps its identifiers in a dry run. -/
def Steady (origin : Store) (count : Nat) (document : Json) : Prop :=
  document.renameIds (dryName origin count) = document

/-- A sound store in which everything keeps its identifiers in a dry run. -/
structure Settled (origin : Store) (count : Nat) : Prop where
  sound : origin.Sound
  steady : ∀ path document, origin.documents.get? path = some document →
    Steady origin count document

/-- Laying a document over a stored one, with overrides. -/
theorem Steady.applied_overlay {base upper : Json} (steady : Steady origin count base)
    (steadyToo : Steady origin count upper) (overrides : Overrides) :
    Steady origin count (overrides.applied (base.overlay upper)) := by
  rw [Steady, Overrides.renameIds_applied, Json.renameIds_overlay, steady, steadyToo]

theorem Steady.applied {document : Json} (steady : Steady origin count document)
    (overrides : Overrides) : Steady origin count (overrides.applied document) := by
  rw [Steady, Overrides.renameIds_applied, steady]

/-- The identifier of something stored before the run. -/
theorem mirrors_requireId_stored (settled : Settled origin count)
    (mirrored : Mirrored origin store run) {path : String} {document : Json}
    (stored : origin.documents.get? path = some document) :
    Mirrors answer origin count (requireId document) (requireId document) store run
      fun id id' after => after = store ∧ id' = id ∧
        ∀ kind : Kind, renamePath (dryName origin count) (kind.path id) = kind.path id := by
  have required : Mirrors answer origin count (requireId document)
      (requireId (document.renameIds (dryName origin count))) store run _ :=
    mirrors_requireId mirrored document
  rw [settled.steady path document stored] at required
  refine required.mono fun id id' after ⟨same, identified, renamed⟩ => ⟨same, ?_⟩
  obtain ⟨endpoint, n, -, stamped, -, given⟩ := settled.sound.issued path document stored
  obtain rfl := Option.some.inj (identified.symm.trans stamped.id?_eq)
  have still := dryName_ident origin count given
  refine ⟨renamed.trans still, fun kind => ?_⟩
  rw [Kind.path, renamePath_append _ _ (Store.slash_not_mem_ident n), still]

/-- Lays a document over the one that was found, or creates it. -/
def layOver (kind : Kind) (payload : Json) (overrides : Overrides) : Option Json → Plan Json
  | none => do
      let payload ← overrides.apply payload
      Plan.post kind.endpoint [] payload
  | some remote => do
      let id ← requireId remote
      let document ← overrides.apply (remote.overlay payload)
      Plan.put (kind.path id) document

/-- A stored document is replaced, or a new one is created. -/
theorem mirrors_layOver (settled : Settled origin count) (mirrored : Mirrored origin origin run)
    {kind : Kind} (plain : kind.endpoint ∈ [Kind.chart.endpoint, Kind.detector.endpoint])
    {payload : Json} (object : payload.isObject = true) (steady : Steady origin count payload)
    (overrides : Overrides) (found : Option Json)
    (stored : ∀ document ∈ found, ∃ path, origin.documents.get? path = some document) :
    Mirrors answer origin count (layOver kind payload overrides found)
      (layOver kind payload overrides found) origin run
      fun value value' _ => value' = value.renameIds (dryName origin count) := by
  cases found with
  | none =>
      let body := overrides.applied payload
      have posts : Mirrors answer origin count (Plan.post kind.endpoint [] body)
          (Plan.post kind.endpoint [] (body.renameIds (dryName origin count))) origin run _ :=
        mirrors_post mirrored plain (by simpa [body])
      rw [steady.applied overrides] at posts
      simp only [layOver, overrides.apply_eq object, pure_bind]
      exact posts.mono fun _ _ _ ⟨renamed, _⟩ => renamed
  | some remote =>
      obtain ⟨path, atPath⟩ := stored remote rfl
      have object' := Json.isObject_overlay object remote
      simp only [layOver, overrides.apply_eq object', pure_bind]
      refine mirrors_bind (mirrors_requireId_stored settled mirrored atPath) ?_
      rintro _ id origin noted mirroredToo ⟨rfl, rfl, still⟩
      let body := overrides.applied (remote.overlay payload)
      have puts : Mirrors answer origin count (Plan.put (kind.path id) body)
          (Plan.put (kind.path id) (body.renameIds (dryName origin count))) origin noted _ :=
        mirrors_put mirroredToo (by simpa [body]) fun _ _ => (still kind).symm
      rw [(settled.steady path remote atPath).applied_overlay steady overrides] at puts
      exact puts.mono fun _ _ _ ⟨renamed, _⟩ => renamed

/-- A resource that is found by its name is read. -/
theorem mirrors_requireUnique_read (settled : Settled origin count)
    (mirrored : Mirrored origin origin run) (kind : Kind) (name : String) :
    Mirrors answer origin count (requireUnique kind name) (requireUnique kind name) origin run
      fun value value' _ => value' = value.renameIds (dryName origin count) := by
  refine (mirrors_requireUnique mirrored kind name).mono ?_
  rintro _ value _ ⟨-, rfl, path, stored⟩
  exact (settled.steady path value stored).symm

/-- Something found before the run is deleted. -/
theorem mirrors_delete_stored (mirrored : Mirrored origin store run)
    (earlier : store.allocated ≤ origin.allocated) (path : String) :
    Mirrors answer origin count (Plan.delete path) (Plan.delete path) store run
      fun _ _ after => after.allocated ≤ origin.allocated := by
  have deletes : Mirrors answer origin count (Plan.delete path) (Plan.delete path) store run
      fun _ _ after => after.allocated = store.allocated :=
    mirrors_delete mirrored fun _ stored =>
      (renamePath_eq_self mirrored.sound earlier count stored).symm
  exact deletes.mono fun _ _ _ same => same ▸ earlier

section Chart

variable {chart : Chart}

/-- A chart is created. -/
theorem mirrors_chart_create (mirrored : Mirrored origin origin run)
    (steady : Steady origin count chart.document) (options : CreateOptions) :
    Mirrors answer origin count (chart.create options) (chart.create options) origin run
      fun value value' _ => value' = value.renameIds (dryName origin count) := by
  refine mirrors_checked fun payload passed => ?_
  obtain rfl := Chart.document_of_payload passed
  refine mirrors_bind (mirrors_guardCreate mirrored _ _ _) ?_
  rintro _ _ origin noted mirroredToo rfl
  have posts : Mirrors answer origin count (Plan.post Kind.chart.endpoint [] chart.document)
      (Plan.post Kind.chart.endpoint [] (chart.document.renameIds (dryName origin count))) origin
      noted _ := mirrors_post mirroredToo (by decide) chart.isObject_document
  rw [steady] at posts
  exact posts.mono fun _ _ _ ⟨renamed, _⟩ => renamed

/-- The stored chart that a chart stands for. -/
theorem mirrors_chart_find (mirrored : Mirrored origin origin run) :
    Mirrors answer origin count chart.find chart.find origin run
      fun found found' after => after = origin ∧ found' = found ∧
        ∀ document ∈ found, ∃ path, origin.documents.get? path = some document := by
  unfold Chart.find
  split
  case h_1 id _ =>
    refine mirrors_bind (mirrors_get mirrored mirrored.sound fun document stored =>
      by rw [stored]; rfl) ?_
    rintro remote remote' origin noted mirroredToo ⟨rfl, stored, stored'⟩
    obtain rfl := Option.some.inj (stored.symm.trans stored')
    refine mirrors_pure mirroredToo ⟨rfl, rfl, ?_⟩
    rintro _ ⟨⟩
    exact ⟨_, stored⟩
  case h_2 => exact mirrors_findUnique mirrored _ _

/-- A chart is updated. -/
theorem mirrors_chart_update (settled : Settled origin count)
    (mirrored : Mirrored origin origin run) (steady : Steady origin count chart.document)
    (overrides : Overrides) :
    Mirrors answer origin count (chart.update overrides) (chart.update overrides) origin run
      fun value value' _ => value' = value.renameIds (dryName origin count) := by
  refine mirrors_checked fun payload passed => ?_
  obtain rfl := Chart.document_of_payload passed
  change Mirrors answer origin count
    (chart.find >>= layOver .chart chart.document overrides)
    (chart.find >>= layOver .chart chart.document overrides) origin run _
  refine mirrors_bind (mirrors_chart_find mirrored) ?_
  rintro _ found origin noted mirroredToo ⟨rfl, rfl, stored⟩
  exact mirrors_layOver settled mirroredToo (by decide) chart.isObject_document steady overrides
    found stored

/-- A chart is read. -/
theorem mirrors_chart_read (settled : Settled origin count)
    (mirrored : Mirrored origin origin run) :
    Mirrors answer origin count chart.read chart.read origin run
      fun value value' _ => value' = value.renameIds (dryName origin count) := by
  unfold Chart.read
  split
  · refine (mirrors_get mirrored mirrored.sound fun document stored => by rw [stored]; rfl).mono ?_
    rintro value value' _ ⟨rfl, stored, stored'⟩
    obtain rfl := Option.some.inj (stored.symm.trans stored')
    exact (settled.steady _ value stored).symm
  · exact mirrors_requireUnique_read settled mirrored _ _

/-- A chart is deleted. -/
theorem mirrors_chart_delete (settled : Settled origin count)
    (mirrored : Mirrored origin origin run) :
    Mirrors answer origin count chart.delete chart.delete origin run fun _ _ _ => True := by
  unfold Chart.delete
  split
  · exact (mirrors_delete_stored mirrored (Nat.le_refl _) _).mono fun _ _ _ _ => trivial
  · refine mirrors_bind (mirrors_requireUnique mirrored _ _) ?_
    rintro _ remote origin noted mirroredToo ⟨rfl, rfl, path, stored⟩
    refine mirrors_bind (mirrors_requireId_stored settled mirroredToo stored) ?_
    rintro _ id origin last mirroredLast ⟨rfl, rfl, -⟩
    exact (mirrors_delete_stored mirroredLast (Nat.le_refl _) _).mono fun _ _ _ _ => trivial

end Chart

section Detector

variable {detector : Detector}

/-- A detector is created. -/
theorem mirrors_detector_create (mirrored : Mirrored origin origin run)
    (steady : Steady origin count detector.document) (options : CreateOptions) :
    Mirrors answer origin count (detector.create options) (detector.create options) origin run
      fun value value' _ => value' = value.renameIds (dryName origin count) := by
  refine mirrors_checked fun payload passed => ?_
  obtain rfl := Detector.document_of_payload passed
  refine mirrors_bind (mirrors_guardCreate mirrored _ _ _) ?_
  rintro _ _ origin noted mirroredToo rfl
  have posts : Mirrors answer origin count
      (Plan.post Kind.detector.endpoint [] detector.document)
      (Plan.post Kind.detector.endpoint []
        (detector.document.renameIds (dryName origin count))) origin noted _ :=
    mirrors_post mirroredToo (by decide) detector.isObject_document
  rw [steady] at posts
  exact posts.mono fun _ _ _ ⟨renamed, _⟩ => renamed

/-- A detector is updated. -/
theorem mirrors_detector_update (settled : Settled origin count)
    (mirrored : Mirrored origin origin run) (steady : Steady origin count detector.document)
    (overrides : Overrides) :
    Mirrors answer origin count (detector.update overrides) (detector.update overrides) origin
      run fun value value' _ => value' = value.renameIds (dryName origin count) := by
  refine mirrors_checked fun payload passed => ?_
  obtain rfl := Detector.document_of_payload passed
  change Mirrors answer origin count
    (findUnique .detector detector.name >>= layOver .detector detector.document overrides)
    (findUnique .detector detector.name >>= layOver .detector detector.document overrides) origin
    run _
  refine mirrors_bind (mirrors_findUnique mirrored _ _) ?_
  rintro _ found origin noted mirroredToo ⟨rfl, rfl, stored⟩
  exact mirrors_layOver settled mirroredToo (by decide) detector.isObject_document steady
    overrides found stored

/-- A detector is deleted. -/
theorem mirrors_detector_delete (settled : Settled origin count)
    (mirrored : Mirrored origin origin run) :
    Mirrors answer origin count detector.delete detector.delete origin run
      fun _ _ _ => True := by
  refine mirrors_bind (mirrors_requireUnique mirrored _ _) ?_
  rintro _ remote origin noted mirroredToo ⟨rfl, rfl, path, stored⟩
  refine mirrors_bind (mirrors_requireId_stored settled mirroredToo stored) ?_
  rintro _ id origin last mirroredLast ⟨rfl, rfl, -⟩
  exact (mirrors_delete_stored mirroredLast (Nat.le_refl _) _).mono fun _ _ _ _ => trivial

end Detector

end DryRun

end SignalBoard
