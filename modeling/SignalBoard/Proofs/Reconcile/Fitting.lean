/-
# Dashboards that fit

A stored dashboard fits a local one when its layout shows stored charts of exactly the local names.
Updating it then creates and deletes nothing: it renews the charts and writes the document again.
What is written besides the layout is a list of assignments, so writing it twice is writing it
once.
-/

import SignalBoard.Proofs.Reconcile.Converge

namespace SignalBoard

/-- A text is written by an assignment, if there is one. -/
theorem Json.withText?_obj (base : Table Json) (key : String) (text : Option String) :
    (obj base).withText? key text =
      obj (Table.insertAll (text.toList.map fun text => (key, str text)) base) := by
  cases text <;> rfl

namespace Dashboard

variable {answer : Question → Bool} {dashboard : Dashboard} {store : Store}

/-- The document of a dashboard with what is written besides the layout. -/
def finish (dashboard : Dashboard) (overrides : Overrides) (id : String) (document : Json) : Json :=
  (overrides.applied (dashboard.withSettings document)).withField "id" (.str id)

/-- Settings are a list of assignments, none of them to the layout. -/
theorem exists_withSettings_eq (dashboard : Dashboard) :
    ∃ fields : Table Json, "charts" ∉ fields.map Prod.fst ∧
      ∀ base, dashboard.withSettings (.obj base) = .obj (Table.insertAll fields base) := by
  cases present : dashboard.settingsPayload? with
  | none => exact ⟨[], by simp, fun base => by rw [withSettings, present]; rfl⟩
  | some settings =>
      obtain rfl : settings = .record dashboard.settings := by
        unfold settingsPayload? at present
        split at present
        case isTrue => cases present
        case isFalse => exact (Option.some.inj present).symm
      refine ⟨dashboard.settings.foldl Json.putField [], ?_, fun base => ?_⟩
      · apply Table.not_mem_of_get?_eq_none
        exact (Json.get?_record (by simp [Dashboard.settings]) "charts").trans (by rfl)
      · rw [withSettings, present, Json.record_eq]
        rfl

/-- What is written besides the layout is a list of assignments, none of them to the layout. -/
theorem exists_finish_eq (dashboard : Dashboard) (overrides : Overrides) (id : String) :
    ∃ fields : Table Json, "charts" ∉ fields.map Prod.fst ∧
      ∀ base, dashboard.finish overrides id (.obj base) = .obj (Table.insertAll fields base) := by
  obtain ⟨settings, foreign, laid⟩ := dashboard.exists_withSettings_eq
  let texts (key : String) (text : Option String) : Table Json :=
    text.toList.map fun text => (key, .str text)
  have foreignTexts : ∀ key text, key ≠ "charts" → "charts" ∉ (texts key text).map Prod.fst := by
    intro key text other
    cases text <;> simp [texts, other.symm]
  refine ⟨settings ++ texts "name" overrides.name ++ texts "description" overrides.description ++
    [("id", .str id)], ?_, fun base => ?_⟩
  · simp only [List.map_append, List.mem_append, not_or]
    exact ⟨⟨⟨foreign, foreignTexts _ _ (by decide)⟩, foreignTexts _ _ (by decide)⟩, by simp⟩
  · rw [finish, laid, Overrides.applied, Json.withText?_obj, Json.withText?_obj]
    simp only [Table.insertAll, List.foldl_append]
    rfl

variable {overrides : Overrides} {id : String} {document : Json}

/-- What is written besides the layout does not touch the name, unless it is overridden. -/
theorem name?_finish (object : document.isObject = true) :
    (dashboard.finish overrides id document).name? = overrides.name.or document.name? := by
  have laid := isObject_withSettings dashboard object
  have applied : (overrides.applied (dashboard.withSettings document)).isObject = true := by
    simpa
  calc (dashboard.finish overrides id document).name?
      = (overrides.applied (dashboard.withSettings document)).name? := by
        rw [finish, Json.name?, Json.get?_withField applied, if_neg (by decide), Json.name?]
    _ = overrides.name.or (dashboard.withSettings document).name? :=
        overrides.name?_applied_eq laid
    _ = overrides.name.or document.name? := by
        rw [Json.name?, get?_withSettings dashboard object (by decide), ← Json.name?]

/-- Writing a document once more changes nothing. -/
theorem finish_finish (object : document.isObject = true) :
    dashboard.finish overrides id (dashboard.finish overrides id document) =
      dashboard.finish overrides id document := by
  obtain ⟨fields, -, written⟩ := dashboard.exists_finish_eq overrides id
  cases document with
  | obj base => rw [written, written, Table.insertAll_insertAll]
  | _ => cases object

/-- The layout is not touched by what is written besides. -/
theorem finish_withField_charts (object : document.isObject = true) (layout : Json) :
    dashboard.finish overrides id (document.withField "charts" layout) =
      (dashboard.finish overrides id document).withField "charts" layout := by
  obtain ⟨fields, foreign, written⟩ := dashboard.exists_finish_eq overrides id
  cases document with
  | obj base =>
      rw [written, Json.withField, written, Table.insertAll_insert_of_not_mem foreign]
      rfl
  | _ => cases object

theorem isObject_finish (object : document.isObject = true) :
    (dashboard.finish overrides id document).isObject = true := by
  simpa [finish] using isObject_withSettings dashboard object

/-- The charts of a layout are those that its entries name. -/
theorem ids_placed (store : Store) (remote : Json) :
    ((Layout.entries remote).map store.placed).map (·.id) = Layout.chartIds remote := by
  rw [← Layout.filterMap_entries, List.map_map, ← List.filterMap_eq_map]
  apply List.filterMap_congr
  intro entry member
  exact (Store.chartId?_eq_placed store (List.mem_filter.mp member).2).symm

/-- One dashboard of the name is stored, and its layout shows stored charts of exactly the local
names. -/
structure Fits (dashboard : Dashboard) (store : Store) (id : String) (remote : Json) : Prop where
  alone : store.named .dashboard dashboard.name = [remote]
  stored : store.resource? .dashboard id = some remote
  there : ∀ entry ∈ Layout.entries remote,
    (store.documents.get? (Kind.chart.path (store.placed entry).id)).isSome
  named : ∀ entry ∈ Layout.entries remote,
    (dashboard.chartNamed? (store.placed entry).name).isSome
  shown : ∀ chart ∈ dashboard.charts,
    ∃ entry ∈ Layout.entries remote, (store.placed entry).name = chart.name

namespace Fits

variable {remote : Json}

/-- No chart of a fitting layout is without a local name. -/
theorem stale_eq_nil (fits : dashboard.Fits store id remote) :
    dashboard.stale ((Layout.entries remote).map store.placed) = [] := by
  rw [stale, List.filter_eq_nil_iff]
  intro placed member
  obtain ⟨entry, among, rfl⟩ := List.mem_map.mp member
  simpa [Option.isSome_iff_ne_none] using fits.named entry among

/-- No local chart is missing on a fitting layout. -/
theorem missing_eq_nil (fits : dashboard.Fits store id remote) :
    dashboard.missing ((Layout.entries remote).map store.placed) = [] := by
  rw [missing, List.filter_eq_nil_iff]
  intro chart member
  obtain ⟨entry, member, named⟩ := fits.shown chart member
  simpa using ⟨entry, member, named⟩

/-- Reconciling a fitting layout renews its charts, and neither creates nor deletes any. -/
theorem ensures_reconcileCharts (fits : dashboard.Fits store id remote)
    (valid : dashboard.check = .ok ()) (sound : store.Sound) :
    Plan.EnsuresWithin Request.Gentle Store.server answer
      (dashboard.reconcileCharts (Layout.entries remote)) store
      fun entries after => entries = Layout.entries remote ∧
        dashboard.ChartsRenewed (Layout.chartIds remote) store after := by
  unfold reconcileCharts
  apply Plan.within_bind ((ensures_readPlaced fits.there).sending (Plan.sends_mapM fun entry =>
    Plan.sends_call (Request.gentle_get _) fun _ => Plan.sends_pure _))
  rintro _ store ⟨rfl, rfl⟩
  have known : ∀ chart ∈ (Layout.entries remote).map store.placed, Placed store chart := by
    intro chart member
    obtain ⟨entry, among, rfl⟩ := List.mem_map.mp member
    exact placed_of_isSome (fits.there entry among)
  apply Plan.within_bind ((ensures_renewAll valid sound known).sending
    (Plan.sends_forM fun chart _ => sends_updatePlaced Request.gentle_get
      (fun _ => Request.gentle_put _) chart))
  intro _ after renewed
  rw [ids_placed] at renewed
  dsimp only
  rw [fits.stale_eq_nil, fits.missing_eq_nil]
  have whole : Layout.without [] (Layout.entries remote) = Layout.entries remote := by
    simp [Layout.without]
  rw [List.map_nil, whole]
  show Plan.EnsuresWithin Request.Gentle Store.server answer
    (pure (Layout.entries remote ++ [])) after _
  rw [List.append_nil]
  exact (Plan.ensures_pure ⟨rfl, renewed⟩).sending (Plan.sends_pure _)

/-- Updating a fitting dashboard renews its charts and writes it again, and neither creates nor
deletes anything. -/
theorem ensures_update (fits : dashboard.Fits store id remote) (valid : dashboard.check = .ok ())
    (sound : store.Sound) (overrides : Overrides) :
    Plan.EnsuresWithin Request.Gentle Store.server answer (dashboard.update overrides) store
      fun reply after => reply = dashboard.finish overrides id
          (remote.withField "charts" (.arr (Layout.entries remote))) ∧
        ∃ between, dashboard.ChartsRenewed (Layout.chartIds remote) store between ∧
          after = between.set (Kind.dashboard.path id) reply := by
  have atPath := Store.get?_of_resource? fits.stored
  have object := sound.isObject atPath
  have identified := (sound.id_of_resource? fits.stored).1
  have unique : store.named .dashboard dashboard.name = (some remote).toList := fits.alone
  unfold update
  rw [Plan.checked_eq valid, pure_bind]
  apply Plan.within_bind ((Store.ensures_findUnique unique).sending
    (Plan.sends_findUnique (Request.gentle_search _ _)))
  rintro _ store ⟨rfl, rfl⟩
  dsimp only
  rw [requireId_eq identified, pure_bind]
  apply Plan.within_bind (fits.ensures_reconcileCharts valid sound)
  rintro _ between ⟨rfl, renewed⟩
  let document := remote.withField "charts" (.arr (Layout.entries remote))
  have laid : (dashboard.withSettings document).isObject = true :=
    isObject_withSettings dashboard (by simpa [document])
  have assigned : Plan.assign "charts" (.arr (Layout.entries remote)) remote = pure document :=
    Plan.assign_eq object _ _
  rw [assigned, pure_bind, Overrides.apply_eq overrides laid, pure_bind]
  have untouched : between.documents.get? (Kind.dashboard.path id) = some remote := by
    rw [renewed.agreesOff _ (Kind.path_not_mem_paths (by decide) id _), atPath]
  have written : (overrides.applied (dashboard.withSettings document)).isObject = true := by simpa
  have put := Store.server_put untouched identified written
  refine (Plan.ensures_call put (Plan.ensures_pure ?_)).sending
    (Plan.sends_call (Request.gentle_put _ _) Plan.sends_pure)
  exact ⟨rfl, between, renewed, rfl⟩

end Fits

end Dashboard

end SignalBoard
