/-
# Updating again

Whether an update creates a dashboard or reconciles a stored one, the two write the same: the
dashboard is then up to date, and an update of it renews charts that were just renewed and writes
the document that is there. So a second update changes nothing, and asks for nothing to be created
or deleted.
-/

import SignalBoard.Proofs.Reconcile.Created
import SignalBoard.Proofs.Reconcile.Shown

namespace SignalBoard

/-- Of two assignments to one key the later one counts. -/
@[simp] theorem Json.withField_withField (document : Json) (key : String) (first second : Json) :
    (document.withField key first).withField key second = document.withField key second := by
  cases document <;> simp [withField, Table.insert_insert]

namespace Dashboard

variable {answer : Question → Bool} {dashboard : Dashboard} {overrides : Overrides}
  {store after : Store} {id : String} {remote : Json} {layout : List Json}

/-- The stored dashboard shows the local charts, and what an update writes is what it has. -/
structure UpToDate (dashboard : Dashboard) (overrides : Overrides) (store : Store) (id : String)
    (remote : Json) : Prop where
  alone : store.named .dashboard dashboard.name = [remote]
  stored : store.resource? .dashboard id = some remote
  shows : dashboard.Shows store (Layout.entries remote)
  written : dashboard.finish overrides id
    (remote.withField "charts" (.arr (Layout.entries remote))) = remote

/-- With distinct names, a local chart is the one found by its name. -/
theorem chartNamed?_of_mem (distinct : (dashboard.charts.map (·.name)).Nodup) {chart : Chart}
    (isLocal : chart ∈ dashboard.charts) : dashboard.chartNamed? chart.name = some chart := by
  have isNamed : (dashboard.chartNamed? chart.name).isSome := by
    rw [chartNamed?_isSome_iff]
    exact List.mem_map_of_mem isLocal
  obtain ⟨other, found⟩ := Option.isSome_iff_exists.mp isNamed
  obtain ⟨isLocal', same⟩ := mem_of_chartNamed? found
  rw [found, List.inj_on_of_nodup_map distinct isLocal' isLocal same]

/-- A revision of a local chart is not changed by renewing it. -/
theorem renew_revise (distinct : (dashboard.charts.map (·.name)).Nodup) {chart : Chart}
    (isLocal : chart ∈ dashboard.charts) (own : String) (old : Json) :
    dashboard.renew (chart.revise own old) = chart.revise own old := by
  have found : dashboard.chartNamed? ((chart.revise own old).name?.getD "") = some chart := by
    rw [chart.name?_revise, Option.getD_some, chartNamed?_of_mem distinct isLocal]
  rw [renew_eq found, idOf_revise, Chart.revise_revise]

namespace UpToDate

/-- A dashboard that is up to date fits. -/
theorem fits (current : dashboard.UpToDate overrides store id remote) :
    dashboard.Fits store id remote where
  alone := current.alone
  stored := current.stored
  there := by
    intro entry member
    obtain ⟨_, -, _, _, stored⟩ := current.shows.revised entry member
    simp [stored]
  named := by
    intro entry member
    obtain ⟨chart, isLocal, _, _, stored⟩ := current.shows.revised entry member
    rw [Store.placed_name_eq stored, chart.name?_revise, Option.getD_some, chartNamed?_isSome_iff]
    exact List.mem_map_of_mem isLocal
  shown := current.shows.shown

/-- Updating a dashboard that is up to date changes nothing. -/
theorem ensures_update (current : dashboard.UpToDate overrides store id remote)
    (valid : dashboard.check = .ok ()) (sound : store.Sound)
    (distinct : (dashboard.charts.map (·.name)).Nodup) :
    Plan.EnsuresWithin Request.Gentle Store.server answer (dashboard.update overrides) store
      fun reply after => reply = remote ∧ after = store := by
  apply ((current.fits.ensures_update valid sound overrides).keeping Store.sound_server sound).mono
  rintro reply _ ⟨⟨same, between, renewed, rfl⟩, soundAfter⟩
  rw [current.written] at same
  subst same
  refine ⟨rfl, soundAfter.ext sound renewed.allocated fun path => ?_⟩
  rw [Store.get?_set]
  split
  case isTrue here => rw [here, Store.get?_of_resource? current.stored]
  case isFalse =>
    rw [renewed.documents]
    split
    case isTrue touched =>
      rw [← ids_placed store] at touched
      obtain ⟨_, member, rfl⟩ := List.mem_map.mp touched
      rw [List.map_map] at member
      obtain ⟨entry, among, rfl⟩ := List.mem_map.mp member
      obtain ⟨chart, isLocal, own, old, stored⟩ := current.shows.revised entry among
      rw [Function.comp_apply, stored, Option.map_some, renew_revise distinct isLocal]
    case isFalse => rfl

end UpToDate

/-- A dashboard with a layout that shows the local charts is up to date once it is written. -/
theorem upToDate_of_written (sound : store.Sound) (noName : overrides.name = none)
    {document : Json} (object : document.isObject = true)
    (laid : document.withField "charts" (.arr layout) = document)
    (isNamed : document.name? = some dashboard.name)
    (stored : store.resource? .dashboard id = some (dashboard.finish overrides id document))
    (only : ∀ id' other, store.resource? .dashboard id' = some other →
      other.name? = some dashboard.name → id' = id)
    (shows : dashboard.Shows store layout) :
    dashboard.UpToDate overrides store id (dashboard.finish overrides id document) := by
  have same : (dashboard.finish overrides id document).withField "charts" (.arr layout) =
      dashboard.finish overrides id document := by
    rw [← finish_withField_charts object, laid]
  have charts : (dashboard.finish overrides id document).field "charts" = .arr layout := by
    apply Json.field_of_get?
    rw [← same, Json.get?_withField (isObject_finish object), if_pos rfl]
  have entries : Layout.entries (dashboard.finish overrides id document) = layout := by
    rw [Layout.entries, charts]
    exact List.filter_eq_self.mpr shows.names
  constructor
  case alone =>
    apply Store.named_eq_singleton sound.ordered stored ?_ only
    rw [name?_finish object, noName, Option.none_or, isNamed]
  case stored => exact stored
  case shows => rwa [entries]
  case written => rw [entries, same, finish_finish object]

/-- An update of a stored dashboard that succeeds leaves it up to date. -/
theorem yields_update_stored (sound : store.Sound) (valid : dashboard.check = .ok ())
    (noName : overrides.name = none) (alone : store.named .dashboard dashboard.name = [remote]) :
    Plan.Yields Store.server answer (do
        let id ← requireId remote
        let charts ← dashboard.reconcileCharts (Layout.entries remote)
        let document ← Plan.assign "charts" (.arr charts) remote
        let document ← overrides.apply (dashboard.withSettings document)
        Plan.put (Kind.dashboard.path id) document) store
      fun reply after => ∃ id, dashboard.UpToDate overrides after id reply := by
  obtain ⟨id, stored, isNamed⟩ := sound.exists_of_named alone
  have atPath := Store.get?_of_resource? stored
  have object := sound.isObject atPath
  have identified := (sound.id_of_resource? stored).1
  rw [requireId_eq identified, pure_bind]
  apply Plan.yields_bind ((yields_reconcileCharts valid sound fun entry member =>
    (List.mem_filter.mp member).2).keeping Store.sound_server sound)
  rintro charts between ⟨⟨shows, others⟩, soundBetween⟩
  let document := remote.withField "charts" (.arr charts)
  have objectToo : document.isObject = true := by simpa [document]
  have laid := isObject_withSettings dashboard objectToo
  have assigned : Plan.assign "charts" (.arr charts) remote = pure document :=
    Plan.assign_eq object _ _
  rw [assigned, pure_bind, Overrides.apply_eq overrides laid, pure_bind]
  have notChart : ∀ id' chartId, Kind.dashboard.path id' ≠ Kind.chart.path chartId :=
    Kind.path_ne (by decide)
  have there : between.documents.get? (Kind.dashboard.path id) = some remote := by
    rw [others _ (notChart id), atPath]
  have written : (overrides.applied (dashboard.withSettings document)).isObject = true := by simpa
  have answered := Store.server_put there identified written
  apply (Plan.ensures_call answered (Plan.ensures_pure ?_)).yields
  refine ⟨id, upToDate_of_written (soundBetween.of_server answered) noName objectToo
    (Json.withField_withField ..) ?_ ?_ ?_ (shows.congr fun chartId => ?_)⟩
  · rw [← isNamed, Json.name?, Json.get?_withField object, if_neg (by decide), Json.name?]
  · rw [Store.resource?_of_clean (Store.clean_of_resource? stored), Store.get?_set, if_pos rfl]
    rfl
  · intro id' other stored' isNamed'
    by_contra different
    have before : store.resource? .dashboard id' = some other := by
      rw [← stored']
      apply Store.resource?_congr
      rw [Store.get?_set, if_neg fun same => different (Kind.path_inj same).2,
        others _ (notChart id')]
    exact different (sound.eq_of_named alone stored before isNamed')
  · rw [Store.get?_set, if_neg (Kind.path_ne (by decide) _ _)]

/-- The layout of a dashboard that was created from the local charts shows them. -/
theorem shows_placedEntries {chartIds : List String}
    (created : List.Forall₂ (fun chart chartId =>
      store.documents.get? (Kind.chart.path chartId) = some (Chart.storedAs chart chartId))
      dashboard.charts chartIds) :
    dashboard.Shows store (Store.placedEntries chartIds 0) := by
  have entries := Store.forall₂_placedEntries created 0
  have placedAt : ∀ {entry : Json} {chartId : String}, Layout.chartId? entry = some chartId →
      (store.placed entry).id = chartId := by
    intro entry chartId names
    simp [Store.placed, names]
  constructor
  case names =>
    intro entry member
    obtain ⟨_, -, chartId, names, -⟩ := Store.exists_of_forall₂_right entries member
    simp [names]
  case revised =>
    intro entry member
    obtain ⟨chart, isLocal, chartId, names, stored⟩ :=
      Store.exists_of_forall₂_right entries member
    refine ⟨chart, isLocal, chartId, .null, ?_⟩
    rw [placedAt names, stored, Chart.revise_null]
  case shown =>
    intro chart isLocal
    obtain ⟨entry, member, chartId, names, stored⟩ := Store.exists_of_forall₂_left entries isLocal
    rw [← placedAt names] at stored
    refine ⟨entry, member, ?_⟩
    rw [Store.placed_name_eq stored, chart.name?_storedAs, Option.getD_some]

/-- A dashboard that was created is up to date. -/
theorem Created.upToDate {groupId : String} {chartIds : List String} {reply : Json}
    (created : dashboard.Created overrides groupId id chartIds reply store after)
    (sound : store.Sound) (soundAfter : after.Sound) (noName : overrides.name = none)
    (untaken : store.named .dashboard dashboard.name = []) :
    dashboard.UpToDate overrides after id reply := by
  have sorted := Store.sorted_dashboardDocument (overrides.name.getD dashboard.name) groupId
    (Store.placedEntries chartIds 0) id
  have written := created.written
  subst written
  apply upToDate_of_written soundAfter noName sorted.isRecord.isObject
  · exact sorted.withField_of_get? (Store.get?_dashboardDocument ..)
  · rw [Store.name?_dashboardDocument, noName, Option.getD_none]
  · exact created.stored
  · intro id' other stored isNamed
    by_contra different
    rw [created.elsewhere.resource?_eq (Store.Extended.dashboards_away id' different)] at stored
    exact (Store.named_eq_nil_iff sound.ordered ..).mp untaken id' other stored isNamed
  · exact shows_placedEntries (created.shown.imp fun _ _ => Store.get?_of_resource?)

/-- Any update that succeeds leaves the dashboard up to date. -/
theorem yields_update (sound : store.Sound) (noName : overrides.name = none) :
    Plan.Yields Store.server answer (dashboard.update overrides) store
      fun reply after => dashboard.check = .ok () ∧
        ∃ id, dashboard.UpToDate overrides after id reply := by
  unfold update
  apply Plan.yields_checked_bind
  rintro ⟨⟩ valid
  apply Plan.yields_bind (Store.yields_findUnique .dashboard dashboard.name)
  rintro found store ⟨alone, rfl⟩
  cases found with
  | none =>
      apply ((ensures_createUnguarded_created sound valid overrides).yields.keeping
        Store.sound_server sound).mono
      rintro reply after ⟨⟨groupId, id, chartIds, created⟩, soundAfter⟩
      exact ⟨valid, id, created.upToDate sound soundAfter noName alone⟩
  | some remote =>
      apply (yields_update_stored sound valid noName alone).mono
      exact fun _ _ current => ⟨valid, current⟩

/-- An update without another name that succeeds can be run again: it succeeds with the same reply,
creates and deletes nothing, and leaves the store as it is. -/
theorem update_update (reachable : store.Reachable)
    (distinct : (dashboard.charts.map (·.name)).Nodup) (noName : overrides.name = none)
    {reply : Json}
    (ended : ((dashboard.update overrides).run Store.server answer store).result = .ok reply) :
    let first := (dashboard.update overrides).run Store.server answer store
    let second := (dashboard.update overrides).run Store.server answer first.state
    second.result = .ok reply ∧ (∀ request ∈ second.requests, request.Gentle) ∧
      second.state = first.state := by
  intro first second
  have firstRun : Plan.Yields Store.server answer (dashboard.update overrides) store
      fun reply after => (dashboard.check = .ok () ∧ ∃ id,
        dashboard.UpToDate overrides after id reply) ∧ after.Sound :=
    (yields_update reachable.sound noName).keeping Store.sound_server reachable.sound
  obtain ⟨⟨valid, id, current⟩, sound⟩ := firstRun.promised reply ended
  have secondRun : Plan.EnsuresWithin Request.Gentle Store.server answer
      (dashboard.update overrides) first.state
      fun last after => last = reply ∧ after = first.state :=
    current.ensures_update valid sound distinct
  obtain ⟨last, endedToo, rfl, same⟩ := secondRun.ensures
  exact ⟨endedToo, secondRun.within, same⟩

/-- A dashboard with a chart to keep, one to add and one to drop is updated twice. -/
theorem update_update_newBoard :
    ∃ reply, ((newBoard.update {}).run Store.server (fun _ => false) oldStore).result = .ok reply ∧
      let first := (newBoard.update {}).run Store.server (fun _ => false) oldStore
      let second := (newBoard.update {}).run Store.server (fun _ => false) first.state
      second.result = .ok reply ∧ (∀ request ∈ second.requests, request.Gentle) ∧
        second.state = first.state := by
  have succeeds :
      ((newBoard.update {}).run Store.server (fun _ => false) oldStore).result.isOk := by
    decide +kernel
  cases ended : ((newBoard.update {}).run Store.server (fun _ => false) oldStore).result with
  | error fault =>
      rw [ended] at succeeds
      cases succeeds
  | ok reply => exact ⟨reply, rfl, update_update (.request _ .empty) (by decide) rfl ended⟩

end Dashboard

end SignalBoard
