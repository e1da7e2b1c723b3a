/-
# Updating a group again

An update of a group that succeeds leaves it standing, and a standing group is updated without
creating or deleting anything: every dashboard is found in its place, so its charts and it are only
written again, under the names they have, nothing has to be cloned, and the group lists no other
dashboard. So after the first update every further one keeps what is stored at which path.
-/

import SignalBoard.Proofs.Group.Hosted

namespace SignalBoard

/-- A request that neither creates nor deletes leaves the same paths in use. -/
theorem Store.isSome_get?_server {request : Request} (gentle : request.Gentle) (store : Store)
    (path : String) : ((server request store).2.documents.get? path).isSome =
      (store.documents.get? path).isSome := by
  cases request with
  | search kind name => rfl
  | get atPath =>
      rw [server_eq_perform, answer, perform_fetch]
      split <;> rfl
  | post atPath query body => exact (gentle.1 rfl).elim
  | put atPath body =>
      rw [server_eq_perform]
      simp only [answer, put, perform_bind, perform_fetch]
      cases stored : store.documents.get? atPath with
      | none => rfl
      | some current =>
          simp only [perform_assign]
          rcases body.assign "id" (current.field "id") with ⟨⟨_⟩⟩ | updated
          · rfl
          · simp only [perform_keep, perform_pure, get?_set]
            split
            case isTrue here => rw [here, stored]; rfl
            case isFalse => rfl
  | delete atPath => exact (gentle.2 rfl).elim

namespace Dashboard

variable {answer : Question → Bool} {dashboard : Dashboard} {store between : Store}
  {id groupId : String} {remote : Json} {face : Face}

/-- A renewed chart has the name it had, whether or not it had one. -/
theorem name?_renew (valid : dashboard.check = .ok ()) (old : Json) :
    (dashboard.renew old).name? = old.name? := by
  cases found : dashboard.chartNamed? (old.name?.getD "") with
  | none => rw [renew, found]
  | some chart =>
      obtain ⟨isLocal, same⟩ := mem_of_chartNamed? found
      rw [renew_eq found, chart.name?_revise, same]
      cases named : old.name? with
      | some name => rfl
      | none =>
          rw [named] at same
          exact (Chart.name_ne_empty (check_charts valid chart isLocal) same).elim

/-- What an entry shows is placed under its name. -/
theorem placed_of_nameAt? {entry : Json} {name : String} (shown : store.nameAt? entry = some name) :
    (Layout.chartId? entry).isSome ∧ (store.placed entry).name = name ∧
      (store.documents.get? (Kind.chart.path (store.placed entry).id)).isSome := by
  obtain ⟨chart, found, named⟩ := Option.bind_eq_some_iff.mp shown
  obtain ⟨chartId, names, stored⟩ := Option.bind_eq_some_iff.mp found
  have atPath := Store.get?_of_resource? stored
  simp [Store.placed, names, atPath, named]

/-- A dashboard whose face fits, and that alone has its name, fits. -/
theorem fits_of_face (sound : store.Sound) (found : store.face? id = some face)
    (isFit : face.Fits dashboard groupId)
    (only : ∀ id' face', store.face? id' = some face' → face'.name = some dashboard.name →
      id' = id) :
    ∃ remote, dashboard.Fits store id remote ∧ store.faceOf remote = face := by
  obtain ⟨remote, stored, rfl⟩ := Store.exists_of_face? found
  have shows_ : ∀ entry ∈ Layout.entries remote, ∃ chart ∈ dashboard.charts,
      store.nameAt? entry = some chart.name := by
    intro entry member
    have isShown := List.mem_map_of_mem (f := store.nameAt?) (List.mem_filter.mp member).1
    obtain ⟨chart, isLocal, same⟩ := List.mem_map.mp ((isFit.charts _).mp isShown)
    exact ⟨chart, isLocal, same.symm⟩
  refine ⟨remote, ?_, rfl⟩
  constructor
  case alone =>
    apply Store.named_eq_singleton sound.ordered stored isFit.isNamed
    intro id' other stored' isNamed
    exact only id' _ (Store.face?_eq stored') isNamed
  case stored => exact stored
  case there =>
    intro entry member
    obtain ⟨chart, -, isShown⟩ := shows_ entry member
    exact (placed_of_nameAt? isShown).2.2
  case named =>
    intro entry member
    obtain ⟨chart, isLocal, isShown⟩ := shows_ entry member
    rw [(placed_of_nameAt? isShown).2.1, chartNamed?_isSome_iff]
    exact List.mem_map_of_mem isLocal
  case shown =>
    intro chart isLocal
    obtain ⟨entry, member, isShown⟩ :=
      List.mem_map.mp ((isFit.charts _).mpr (List.mem_map_of_mem isLocal))
    obtain ⟨names, named, -⟩ := placed_of_nameAt? isShown
    exact ⟨entry, List.mem_filter.mpr ⟨member, names⟩, named⟩

/-- The layout of a fitting dashboard stays as it is. -/
theorem Fits.relaid_eq (fits : dashboard.Fits store id remote) :
    dashboard.relaid store (Layout.entries remote) = Layout.entries remote := by
  have whole : dashboard.kept store (Layout.entries remote) = Layout.entries remote :=
    List.filter_eq_self.mpr fits.named
  rw [relaid, absent, fits.missing_eq_nil, whole]
  exact List.append_nil _

/-- Renewed charts are shown under the names they had. -/
theorem ChartsRenewed.nameAt?_set {ids : List String}
    (renewed : dashboard.ChartsRenewed ids store between) (valid : dashboard.check = .ok ())
    (id : String) (document : Json) :
    (between.set (Kind.dashboard.path id) document).nameAt? = store.nameAt? := by
  have names : ∀ chartId,
      ((between.set (Kind.dashboard.path id) document).resource? .chart chartId).bind Json.name? =
        (store.resource? .chart chartId).bind Json.name? := by
    intro chartId
    rw [Store.resource?, Store.resource?, Store.get?_set, if_neg (Kind.path_ne (by decide) _ _),
      renewed.documents]
    split
    case isTrue => rfl
    case isFalse =>
      split
      case isTrue =>
        rw [Option.bind_map]
        exact congrArg _ (funext (name?_renew valid))
      case isFalse => rfl
  funext entry
  cases held : Layout.chartId? entry with
  | none => simp [Store.nameAt?, held]
  | some chartId => simpa [Store.nameAt?, held] using names chartId

/-- When the charts of a fitting dashboard are renewed and it is written again, all dashboards have
the faces they had. -/
theorem Fits.face?_eq (fits : dashboard.Fits store id remote) (valid : dashboard.check = .ok ())
    (sound : store.Sound) (whole : (remote.field "charts").items = Layout.entries remote)
    (renewed : dashboard.ChartsRenewed (Layout.chartIds remote) store between) :
    (between.set (Kind.dashboard.path id) (dashboard.updated {} store id remote)).face? =
      store.face? := by
  have object := sound.isObject (Store.get?_of_resource? fits.stored)
  have nameAt := renewed.nameAt?_set valid id (dashboard.updated {} store id remote)
  generalize isLast : between.set (Kind.dashboard.path id) (dashboard.updated {} store id remote) =
    after at nameAt ⊢
  have faceOf : after.faceOf = store.faceOf := by
    funext document
    rw [Store.faceOf, Store.faceOf, nameAt]
  funext other
  rw [Store.face?, Store.face?, faceOf]
  by_cases here : other = id
  case neg =>
    have apart : Kind.dashboard.path other ≠ Kind.dashboard.path id :=
      fun same => here (Kind.path_inj same).2
    have same : after.resource? .dashboard other = store.resource? .dashboard other := by
      apply Store.resource?_congr
      rw [← isLast, Store.get?_set, if_neg apart,
        renewed.agreesOff _ (Kind.path_not_mem_paths (by decide) other _)]
    rw [same]
  case pos =>
    have written : after.resource? .dashboard id = some (dashboard.updated {} store id remote) := by
      rw [← isLast, Store.resource?_of_clean (Store.clean_of_resource? fits.stored), Store.get?_set,
        if_pos rfl]
    rw [here, written, fits.stored, Option.map_some, Option.map_some, Store.faceOf, Store.faceOf,
      charts_updated {} id object, fits.relaid_eq, whole, name?_updated object,
      groupId?_updated object]
    rfl

/-- Updating a dashboard that alone has its name and whose face fits creates and deletes nothing,
and changes no face. -/
theorem ensures_update_of_face (valid : dashboard.check = .ok ()) (sound : store.Sound)
    (found : store.face? id = some face) (isFit : face.Fits dashboard groupId)
    (only : ∀ id' face', store.face? id' = some face' → face'.name = some dashboard.name →
      id' = id) :
    Plan.EnsuresWithin Request.Gentle Store.server answer (dashboard.update {}) store
      fun reply after => reply.id? = some id ∧ reply.groupId? = some groupId ∧ after.Sound ∧
        after.face? = store.face? ∧
        ∀ groupId, after.resource? .group groupId = store.resource? .group groupId := by
  obtain ⟨remote, fits, rfl⟩ := fits_of_face sound found isFit only
  have object := sound.isObject (Store.get?_of_resource? fits.stored)
  have whole : Layout.entries remote = (remote.field "charts").items := by
    refine List.filter_eq_self.mpr fun entry member => ?_
    cases held : Layout.chartId? entry with
    | some _ => rfl
    | none =>
        refine (isFit.none_not_mem (List.mem_map.mpr ⟨entry, member, ?_⟩)).elim
        simp [Store.nameAt?, held]
  have clean := Store.clean_of_resource? fits.stored
  apply ((fits.ensures_update valid sound {}).keeping Store.sound_server sound).mono
  rintro reply _ ⟨⟨same, between, renewed, rfl⟩, soundAfter⟩
  have isReply : reply = dashboard.updated {} store id remote := by
    rw [same, updated, fits.relaid_eq, finish]
  have stored : (between.set (Kind.dashboard.path id) reply).resource? .dashboard id =
      some reply := by
    rw [Store.resource?_of_clean clean, Store.get?_set, if_pos rfl]
  refine ⟨(soundAfter.id_of_resource? stored).1, ?_, soundAfter, ?_, fun other => ?_⟩
  · rw [isReply, groupId?_updated object]
    exact isFit.belongs
  · rw [isReply]
    exact fits.face?_eq valid sound whole.symm renewed
  · apply Store.resource?_congr
    rw [Store.get?_set, if_neg (Kind.path_ne (by decide) _ _),
      renewed.agreesOff _ (Kind.path_not_mem_paths (by decide) other _)]

end Dashboard

namespace DashboardGroup

variable {answer : Question → Bool} {group : DashboardGroup} {store after : Store} {target : String}
  {kept : List String}

/-- Dashboards that are in the group stay. -/
theorem settle_placed (target : String) (kept : List String) :
    (kept.map fun id => (⟨id, target⟩ : Placement)).mapM (settle target) = pure kept := by
  induction kept with
  | nil => rfl
  | cons id rest ih =>
      have stays : settle target ⟨id, target⟩ = pure id := if_pos rfl
      rw [List.map_cons, List.mapM_cons, stays, pure_bind, ih, pure_bind]

/-- Dashboards that are in the group have no originals elsewhere. -/
theorem removeSources_placed (target : String) (kept : List String) :
    removeSources target (kept.map fun id => ⟨id, target⟩) = pure () := by
  have none : (kept.map fun id => (⟨id, target⟩ : Placement)).filter
      (fun placement => placement.groupId ≠ target) = [] := by
    simp
  have empty : byGroup [] = [] := by simp [byGroup]
  rw [removeSources, none, empty]
  rfl

namespace Standing

/-- A group stands in any store with the same groups and the same faces. -/
theorem congr (standing : Standing group target kept store) (sound : after.Sound)
    (faces : after.face? = store.face?)
    (groups : ∀ groupId, after.resource? .group groupId = store.resource? .group groupId) :
    Standing group target kept after where
  sound := sound
  stored := by simpa only [groups] using standing.stored
  titles := by simpa only [Store.title?, groups] using standing.titles
  hosted := ⟨faces ▸ standing.hosted.shown, faces ▸ standing.hosted.only⟩

/-- Every dashboard of a standing group is found in its place. -/
theorem ensures_placeDashboard (standing : Standing group target kept store)
    (valid : group.check = .ok ()) (distinct : (group.dashboards.map (·.name)).Nodup)
    {dashboard : Dashboard} {id : String} (paired : (dashboard, id) ∈ group.dashboards.zip kept) :
    Plan.EnsuresWithin Request.Gentle Store.server answer (placeDashboard dashboard) store
      fun placement after => placement = ⟨id, target⟩ ∧ Standing group target kept after := by
  have isLocal := (List.of_mem_zip paired).1
  obtain ⟨face, found, isFit⟩ := (List.forall₂_iff_zip.mp standing.hosted.shown).2 paired
  obtain ⟨own, -, -, -, -, only⟩ := standing.hosted.exists_of_mem distinct isLocal
  obtain rfl := only id face found isFit.isNamed
  unfold placeDashboard
  have validToo := check_dashboards valid dashboard isLocal
  apply Plan.within_bind
    (dashboard.ensures_update_of_face validToo standing.sound found isFit only)
  rintro reply after ⟨identified, names, sound, faces, groups⟩
  have group : (reply.field "groupId").string? = some target := names
  rw [requireId_eq identified, pure_bind, group]
  exact (Plan.ensures_pure ⟨rfl, standing.congr sound faces groups⟩).sending (Plan.sends_pure _)

/-- All dashboards of a standing group are found in their places. -/
theorem ensures_placements (standing : Standing group target kept store)
    (valid : group.check = .ok ()) (distinct : (group.dashboards.map (·.name)).Nodup) :
    Plan.EnsuresWithin Request.Gentle Store.server answer
      (group.dashboards.mapM placeDashboard) store
      fun placements after => placements = kept.map (⟨·, target⟩) ∧
        Standing group target kept after := by
  apply Plan.within_mapM ?_ standing
  rw [List.forall₂_map_right_iff]
  refine List.forall₂_iff_zip.mpr ⟨standing.hosted.shown.length_eq, fun paired => ?_⟩
  exact fun store standing => standing.ensures_placeDashboard valid distinct paired

/-- Reconciling the dashboards of a standing group keeps all of them and moves none. -/
theorem ensures_reconcileDashboards (standing : Standing group target kept store)
    (valid : group.check = .ok ()) (distinct : (group.dashboards.map (·.name)).Nodup)
    (filled : group.dashboards ≠ []) :
    Plan.EnsuresWithin Request.Gentle Store.server answer (group.reconcileDashboards target) store
      fun ids after => ids = kept ∧ Standing group target kept after := by
  unfold reconcileDashboards
  apply Plan.within_bind (standing.ensures_placements valid distinct)
  rintro _ after ⟨rfl, standing⟩
  obtain ⟨document, stored, -, lists⟩ := standing.stored
  have unwanted : (members document).filter (fun member => !kept.contains member) = [] := by
    rw [List.filter_eq_nil_iff]
    intro member listed
    simpa using lists filled listed
  have reads : Plan.EnsuresWithin Request.Gentle Store.server answer
      (Plan.get (Kind.group.path target)) after
      fun reply last => reply = document ∧ last = after :=
    (Plan.ensures_call (Store.server_get (Store.get?_of_resource? stored))
      (Plan.ensures_pure ⟨rfl, rfl⟩)).sending
      (Plan.sends_call (Request.gentle_get _) Plan.sends_pure)
  rw [settle_placed, removeSources_placed, pure_bind, pure_bind]
  apply Plan.within_bind reads
  rintro _ _ ⟨rfl, rfl⟩
  rw [unwanted]
  exact (Plan.ensures_pure ⟨rfl, standing⟩).sending (Plan.sends_pure _)

/-- Updating a standing group creates and deletes nothing, and leaves it standing. -/
theorem ensures_update (standing : Standing group target kept store) (valid : group.check = .ok ())
    (distinct : (group.dashboards.map (·.name)).Nodup) :
    Plan.EnsuresWithin Request.Gentle Store.server answer (group.update {}) store
      fun _ after => Standing group target kept after := by
  obtain ⟨remote, stored, isNamed, lists⟩ := standing.stored
  have object := standing.sound.isObject (Store.get?_of_resource? stored)
  have alone : store.named .group group.name = (some remote).toList := by
    apply Store.named_eq_singleton standing.sound.ordered stored isNamed
    intro id other stored' isNamed'
    exact standing.titles id ((Store.title?_eq stored').trans isNamed')
  unfold update
  rw [Plan.checked_eq valid, pure_bind]
  apply Plan.within_bind ((Store.ensures_findUnique alone).sending
    (Plan.sends_findUnique (Request.gentle_search _ _)))
  rintro _ store ⟨rfl, rfl⟩
  dsimp only
  rw [requireId_eq (standing.sound.id_of_resource? stored).1, pure_bind]
  split
  case isTrue =>
    exact ensures_write valid standing.sound stored object isNamed lists standing.titles
      standing.hosted
  case isFalse notEmpty =>
    have filled : group.dashboards ≠ [] := fun none => notEmpty (List.isEmpty_iff.mpr none)
    apply Plan.within_bind (standing.ensures_reconcileDashboards valid distinct filled)
    rintro _ after ⟨rfl, standing⟩
    obtain ⟨current, storedAfter, -⟩ := standing.stored
    rw [Plan.assign_eq object, pure_bind]
    apply ensures_write valid standing.sound storedAfter (by simpa) ?_ ?_ standing.titles
      standing.hosted
    · rw [Json.name?_withField object (by decide), isNamed]
    · intro _
      rw [members_withField object]
      exact List.Subset.refl _

end Standing

/-- An update that succeeds can be run again, on any consistent store whose groups list exactly the
dashboards that name them: it succeeds, creates and deletes nothing, and the same paths are in use
as after the first time. -/
theorem update_stable (reachable : store.Reachable) (aligned : store.Aligned)
    (distinct : (group.dashboards.map (·.name)).Nodup) {reply : Json}
    (ended : ((group.update {}).run Store.server answer store).result = .ok reply) :
    let first := (group.update {}).run Store.server answer store
    let second := (group.update {}).run Store.server answer first.state
    (∃ reply, second.result = .ok reply) ∧ (∀ request ∈ second.requests, request.Gentle) ∧
      ∀ path, (second.state.documents.get? path).isSome =
        (first.state.documents.get? path).isSome := by
  intro first second
  obtain ⟨valid, target, kept, standing⟩ :=
    (yields_update reachable.sound aligned distinct).promised reply ended
  have secondRun : Plan.EnsuresWithin Request.Gentle Store.server answer (group.update {})
      first.state fun _ after => Standing group target kept after :=
    standing.ensures_update valid distinct
  obtain ⟨last, endedToo, -⟩ := secondRun.ensures
  have keeps : ∀ request (state : Store), request.Gentle →
      (∀ path, (state.documents.get? path).isSome = (first.state.documents.get? path).isSome) →
      ∀ path, ((Store.server request state).2.documents.get? path).isSome =
        (first.state.documents.get? path).isSome :=
    fun request state gentle same path => (state.isSome_get?_server gentle path).trans (same path)
  refine ⟨⟨last, endedToo⟩, secondRun.within, ?_⟩
  exact Plan.run_keeps_of_requests keeps (group.update {}) secondRun.within fun _ => rfl

/-- A group with a dashboard to create, one to move and one to keep is updated twice. -/
theorem update_stable_team :
    ∃ reply, (((team "team").update {}).run Store.server (fun _ => false) teamStore).result =
        .ok reply ∧
      let first := ((team "team").update {}).run Store.server (fun _ => false) teamStore
      let second := ((team "team").update {}).run Store.server (fun _ => false) first.state
      (∃ reply, second.result = .ok reply) ∧ (∀ request ∈ second.requests, request.Gentle) ∧
        ∀ path, (second.state.documents.get? path).isSome =
          (first.state.documents.get? path).isSome := by
  have valid : (team "team").check = .ok () := rfl
  have isLocal : (team "team").Distinct :=
    ⟨valid, by decide, ⟨check_dashboards valid, by decide, by decide⟩, by decide⟩
  have ready : teamStore.Ready teamDashboards :=
    ⟨⟨reachable_teamStore.sound, grouped_teamStore⟩, findable_teamDashboards⟩
  have titled : teamStore.title? "id-1" = some "team" := by decide +kernel
  obtain ⟨remote, stored, isNamed⟩ := Option.bind_eq_some_iff.mp titled
  have noName : ({} : Overrides).name = none := rfl
  obtain ⟨reply, ended, -⟩ := ensures_update_stored isLocal ready stored isNamed
    (fun id document there => (named_teamStore id document there).2) noName
  exact ⟨reply, ended,
    update_stable reachable_teamStore grouped_teamStore.aligned (by decide) ended⟩

end DashboardGroup

end SignalBoard
