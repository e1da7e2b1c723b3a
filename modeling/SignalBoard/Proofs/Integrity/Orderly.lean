/-
# What every run leaves in order

A run that fails half way may leave charts on no layout, clones beside their originals, and layouts
whose charts are gone. But every layout names proper identifiers, and none of them twice. It is
written with identifiers that the store has just given, or with those of an older layout whose
charts have all been read just before, so that none of them can be given anew. Everything else that
is sent leaves layouts alone.
-/

import SignalBoard.Proofs.Integrity.Single
import SignalBoard.Proofs.Reconcile.Names
import SignalBoard.Proofs.Reconcile.Resume

namespace SignalBoard

variable {answer : Question → Bool} {store before after : Store}

/-- The request gives a layout to no dashboard but a clone. -/
inductive Request.Steady : Request → Prop
  | nameless {request : Request} (nameless : request.Nameless) : Steady request
  | putGroup (id : String) (body : Json) : Steady (.put (Kind.group.path id) body)
  | clone (target id : String) :
      Steady (.post (Request.clonePath target) [] (.record [("sourceDashboard", some (.str id))]))

namespace Store

/-- Identifiers of charts that a layout may name: none comes twice, and each is one segment of a
path. -/
structure Legible (chartIds : List String) : Prop where
  once : chartIds.Nodup
  clean : ∀ chartId ∈ chartIds, '/' ∉ chartId.toList

theorem legible_freshIds (store : Store) (count : Nat) : Legible (store.freshIds count) where
  once := store.nodup_freshIds count
  clean := fun _ => clean_of_mem_freshIds

/-- Every layout names proper identifiers, none of them twice. -/
def Laid (store : Store) : Prop :=
  ∀ id dashboard, store.resource? .dashboard id = some dashboard →
    Legible (Layout.chartIds dashboard)

/-- The charts that the layout of a dashboard names are all stored. -/
def Whole (store : Store) (dashboard : Json) : Prop :=
  ∀ chartId ∈ Layout.chartIds dashboard, (store.resource? .chart chartId).isSome

/-- A sound store in which every layout names proper identifiers, none of them twice. -/
structure Orderly (store : Store) : Prop where
  sound : store.Sound
  laid : store.Laid

theorem orderly_empty : Orderly {} where
  sound := sound_empty
  laid := fun _ _ stored => nomatch get?_of_resource? stored

namespace Laid

/-- Layouts that are left as they were stay legible. -/
theorem spares (laid : before.Laid) (spares : before.Spares after) : after.Laid := by
  intro id dashboard stored
  rcases spares .dashboard (by decide) id with same | gone
  · exact laid id dashboard (resource?_congr same ▸ stored)
  · cases gone.symm.trans (get?_of_resource? stored)

/-- A dashboard is written with a legible layout. -/
theorem set (laid : store.Laid) {document : Json} (own : Legible (Layout.chartIds document))
    (id : String) : (store.set (Kind.dashboard.path id) document).Laid := by
  intro other dashboard stored
  have there := get?_of_resource? stored
  rw [get?_set] at there
  split at there
  case isTrue => exact Option.some.inj there ▸ own
  case isFalse =>
    exact laid other dashboard ((resource?_of_clean (clean_of_resource? stored) ..).trans there)

/-- A dashboard is added with charts of its own. -/
theorem extend {groupId id : String} {chartIds : List String} {dashboard : Json}
    (laid : before.Laid)
    (extended : Extended groupId id chartIds dashboard before after) : after.Laid := by
  intro other document stored
  by_cases here : other = id
  · rw [here, extended.stored] at stored
    rw [← Option.some.inj stored, extended.layout]
    refine ⟨extended.once, fun chartId member => ?_⟩
    obtain ⟨chart, found⟩ := Option.isSome_iff_exists.mp (extended.charts chartId member).2
    exact clean_of_resource? found
  · rw [extended.others other here] at stored
    exact laid other document stored

/-- A dashboard is added to a group. -/
theorem addDashboard (laid : store.Laid) (name groupId : String) {layout : List Json}
    (own : Legible (layout.filterMap Layout.chartId?)) :
    (perform (addDashboard name groupId layout) store).2.Laid := by
  rw [perform_addDashboard_snd]
  refine Laid.spares ?_ (spares_updateMembers _ _ _)
  have allocated : store.allocate.Laid := laid
  apply allocated.set
  rwa [chartIds_dashboardDocument]

end Laid

/-- Copying the chart of an entry concerns charts only, and gives the copy the next identifier. -/
theorem perform_copyPlaced_cases (entry : Json) (store : Store) :
    let copy := perform (copyPlaced entry) store
    store.Spares copy.2 ∧ ∀ placed, copy.1 = .ok placed →
      Layout.chartId? placed = some (ident (store.allocated + 1)) ∧
        copy.2.allocated = store.allocated + 1 := by
  simp only [copyPlaced, perform_bind, perform_fetch]
  cases store.documents.get? (Kind.chart.path ((entry.field "chartId").string?.getD "")) with
  | none => exact ⟨.refl store, fun _ ended => by cases ended⟩
  | some chart =>
      simp only [perform_add]
      rcases isCopy : chart.assign "id" (.str (ident (store.allocated + 1))) with ⟨⟨_⟩⟩ | copy
      · exact ⟨.refl store, fun _ ended => by cases ended⟩
      have added : store.Spares (store.allocate.set
          (Kind.chart.endpoint ++ "/" ++ ident (store.allocated + 1)) copy) :=
        spares_set (by decide) (ident (store.allocated + 1)) copy store.allocate
      simp only [perform_assign]
      rcases isPlaced : entry.assign "chartId" (copy.field "id") with ⟨⟨_⟩⟩ | placed
      · exact ⟨added, fun _ ended => by cases ended⟩
      refine ⟨added, fun _ ended => ?_⟩
      obtain rfl := Except.ok.inj ended
      refine ⟨?_, rfl⟩
      have identified := Json.field_of_get? (Json.Stamped.of_assign_id isCopy).get?_id
      rw [Layout.chartId?, Json.get?_of_assign isPlaced, identified]
      rfl

/-- Copying the charts of a layout concerns charts only, and gives the copies the next
identifiers. -/
theorem perform_mapM_copyPlaced (entries : List Json) (store : Store) :
    let copies := perform (entries.mapM copyPlaced) store
    store.Spares copies.2 ∧ ∀ layout, copies.1 = .ok layout →
      layout.filterMap Layout.chartId? = store.freshIds layout.length := by
  induction entries generalizing store with
  | nil =>
      refine ⟨.refl store, fun layout ended => ?_⟩
      obtain rfl := Except.ok.inj ended
      rfl
  | cons entry rest ih =>
      obtain ⟨spares, isCopy⟩ := perform_copyPlaced_cases entry store
      rw [List.mapM_cons, perform_bind]
      rcases copied : perform (copyPlaced entry) store with ⟨fault | placed, between⟩
      · rw [copied] at spares
        exact ⟨spares, fun _ ended => by cases ended⟩
      rw [copied] at spares isCopy
      obtain ⟨names, allocated⟩ := isCopy placed rfl
      obtain ⟨sparesRest, areCopies⟩ := ih between
      simp only [perform_bind]
      rcases copiedRest : perform (rest.mapM copyPlaced) between with ⟨fault | layout, after⟩
      · rw [copiedRest] at sparesRest
        exact ⟨spares.trans sparesRest, fun _ ended => by cases ended⟩
      rw [copiedRest] at sparesRest areCopies
      refine ⟨spares.trans sparesRest, fun _ ended => ?_⟩
      obtain rfl := Except.ok.inj ended
      have next : between.freshIds layout.length = store.allocate.freshIds layout.length := by
        rw [freshIds, freshIds, show between.allocated = store.allocate.allocated from allocated]
      rw [List.filterMap_cons_some names, areCopies layout rfl, next, List.length_cons,
        freshIds_succ]

namespace Orderly

variable {kind : Kind} {request : Request}

/-- Reading, deleting and what is done to charts keeps layouts. -/
theorem server_of_nameless (orderly : store.Orderly) (nameless : request.Nameless) :
    (server request store).2.Orderly where
  sound := sound_server request store orderly.sound
  laid := orderly.laid.spares (spares_server nameless store)

/-- What is done to charts and detectors concerns no dashboard. -/
theorem server_of_about (orderly : store.Orderly) (about : request.About kind)
    (plain : kind ∈ Kind.plain) : (server request store).2.Orderly where
  sound := sound_server request store orderly.sound
  laid := by
    have foreign : Kind.dashboard ≠ kind := by
      rintro rfl
      exact absurd plain (by decide)
    intro id dashboard stored
    rw [resource?_server_of_about about plain foreign] at stored
    exact orderly.laid id dashboard stored

/-- What is written over a group concerns no dashboard. -/
theorem server_put_group (orderly : store.Orderly) (id : String) (body : Json) :
    (server (.put (Kind.group.path id) body) store).2.Orderly where
  sound := sound_server _ store orderly.sound
  laid := by
    intro other dashboard stored
    have still : (server (.put (Kind.group.path id) body) store).2.resource? .dashboard other =
        store.resource? .dashboard other :=
      resource?_congr (get?_server_put (Kind.path_ne (by decide) _ _) body store)
    rw [still] at stored
    exact orderly.laid other dashboard stored

/-- A clone shows its own copies, if there is one in the end. -/
theorem server_clone (orderly : store.Orderly) (target id : String) :
    (server (.post (Request.clonePath target) []
      (.record [("sourceDashboard", some (.str id))])) store).2.Orderly where
  sound := sound_server _ store orderly.sound
  laid := by
    rw [server_post_clone, clone]
    cases storedSource : store.documents.get? (Kind.dashboard.path id) with
    | none => simpa only [perform_bind, perform_fetch, storedSource] using orderly.laid
    | some source =>
        cases storedGroup : store.documents.get? (Kind.group.path target) with
        | none =>
            simpa only [perform_bind, perform_fetch, storedSource, storedGroup] using orderly.laid
        | some group =>
            obtain ⟨spares, areCopies⟩ :=
              perform_mapM_copyPlaced (source.field "charts").items store
            rcases outcome : perform ((source.field "charts").items.mapM copyPlaced) store with
              ⟨fault | layout, between⟩
            all_goals
              rw [outcome] at spares areCopies
              simp only [perform_bind, perform_fetch, storedSource, storedGroup, outcome]
            · exact orderly.laid.spares spares
            · apply (orderly.laid.spares spares).addDashboard
              rw [areCopies layout rfl]
              exact store.legible_freshIds _

/-- Whatever a steady request is answered, it leaves a store orderly. -/
theorem server_of_steady (orderly : store.Orderly) (steady : request.Steady) :
    (server request store).2.Orderly := by
  cases steady with
  | nameless nameless => exact orderly.server_of_nameless nameless
  | putGroup id body => exact orderly.server_put_group id body
  | clone target id => exact orderly.server_clone target id

/-- A chart that a layout names and that is not stored has nothing at its path. -/
theorem exists_missing (orderly : store.Orderly) {id : String} {remote : Json}
    (stored : store.resource? .dashboard id = some remote)
    (torn : ¬ store.Whole remote) :
    ∃ chartId ∈ Layout.chartIds remote,
      store.documents.get? (Kind.chart.path chartId) = none := by
  rw [Whole] at torn
  push Not at torn
  obtain ⟨chartId, shown, missing⟩ := torn
  have clean := (orderly.laid id remote stored).clean chartId shown
  refine ⟨chartId, shown, ?_⟩
  rw [← resource?_of_clean clean]
  simpa using missing

/-- The layout of a stored dashboard can be reconciled as long as its charts are stored. -/
theorem placeable (orderly : store.Orderly) {id : String} {remote : Json}
    (stored : store.resource? .dashboard id = some remote) (whole : store.Whole remote) :
    Dashboard.Placeable store (Layout.entries remote) :=
  orderly.sound.placeable (orderly.laid id remote stored).once whole

end Orderly

end Store

open Store (Orderly)

/-- A plan of steady requests leaves a store orderly. -/
theorem Plan.Sends.leaves_orderly {α : Type} {plan : Plan α} (sends : Sends Request.Steady plan)
    (orderly : store.Orderly) : Leaves Store.server answer plan store Orderly :=
  sends.leaves (fun _ _ steady orderly => orderly.server_of_steady steady) orderly

theorem Plan.sends_steady {α : Type} {plan : Plan α} (sends : Sends Request.Nameless plan) :
    Sends Request.Steady plan :=
  sends.mono fun _ => .nameless

/-- Looking a name up is steady. -/
theorem Request.steady_search (kind : Kind) (name : String) : Request.Steady (.search kind name) :=
  .nameless (.search kind name)

namespace Dashboard

variable {dashboard : Dashboard}

/-- A dashboard is created with charts of its own. -/
theorem leaves_createUnguarded_orderly (valid : dashboard.check = .ok ()) (orderly : store.Orderly)
    (overrides : Overrides) :
    Plan.Leaves Store.server answer (dashboard.createUnguarded overrides) store Orderly := by
  apply ((ensures_createUnguarded_created orderly.sound valid overrides).keeping
    Store.sound_server orderly.sound).leaves
  rintro reply after ⟨⟨groupId, id, chartIds, created⟩, sound⟩
  exact ⟨sound, orderly.laid.extend created.toExtended⟩

theorem leaves_create_orderly (orderly : store.Orderly) (options : CreateOptions) :
    Plan.Leaves Store.server answer (dashboard.create options) store Orderly := by
  apply Plan.leaves_checked orderly
  intro _ valid
  have guards : Plan.Leaves Store.server answer (guardCreate .dashboard dashboard.name options)
      store Orderly := (Plan.sends_guardCreate (Request.steady_search ..)).leaves_orderly orderly
  exact guards.bind fun _ _ orderly => leaves_createUnguarded_orderly valid orderly {}

/-- The new layout of a dashboard names charts of the old one, which are stored, and fresh ones. -/
theorem legible_updated (orderly : store.Orderly) {id : String} {remote : Json}
    (stored : store.resource? .dashboard id = some remote) (whole : store.Whole remote)
    (overrides : Overrides) :
    Store.Legible (Layout.chartIds (dashboard.updated overrides store id remote)) where
  once := (orderly.placeable stored whole).nodup_updated orderly.sound
    (orderly.sound.isObject (Store.get?_of_resource? stored)) overrides id
  clean := by
    intro chartId shown
    have object := orderly.sound.isObject (Store.get?_of_resource? stored)
    rw [chartIds_updated overrides id object, List.mem_append] at shown
    rcases shown with kept | fresh
    · have old := (List.filter_sublist.filterMap Layout.chartId?).subset kept
      rw [Layout.filterMap_entries] at old
      exact (orderly.laid id remote stored).clean chartId old
    · exact (store.legible_freshIds _).clean chartId fresh

/-- A layout is written again after all its charts were read; one that names a missing chart stays
as it is. -/
theorem leaves_update_orderly (orderly : store.Orderly) (overrides : Overrides) :
    Plan.Leaves Store.server answer (dashboard.update overrides) store Orderly := by
  by_cases valid : dashboard.check = .ok ()
  case neg => exact Plan.leaves_checked orderly fun _ passed => absurd passed valid
  by_cases alone : ∃ remote, store.named .dashboard dashboard.name = [remote]
  case neg =>
    unfold update
    rw [Plan.checked_eq valid, pure_bind]
    apply Plan.leaves_bind
      ((Plan.sends_findUnique (Request.steady_search ..)).leaves_orderly orderly)
      (Store.yields_findUnique ..)
    rintro found store ⟨named, rfl⟩
    cases found with
    | none => exact leaves_createUnguarded_orderly valid orderly overrides
    | some remote => exact absurd ⟨remote, named⟩ alone
  obtain ⟨remote, alone⟩ := alone
  obtain ⟨id, stored, -⟩ := orderly.sound.exists_of_named alone
  by_cases whole : store.Whole remote
  case pos =>
    apply ((ensures_update_stored valid orderly.sound overrides alone stored
      (orderly.placeable stored whole)).keeping Store.sound_server orderly.sound).leaves
    rintro _ _ ⟨⟨rfl, between, reconciled, rfl⟩, sound⟩
    have spares : store.Spares between := fun kind singular id => .inl <| by
      rw [reconciled.elsewhere _ (Kind.path_not_mem_paths ?_ _ _)]
      rintro rfl
      exact absurd singular (by decide)
    exact ⟨sound, (orderly.laid.spares spares).set (legible_updated orderly stored whole _) id⟩
  case neg =>
    obtain ⟨_, -, -, fails⟩ := fails_update valid orderly.sound overrides alone stored
      (orderly.exists_missing stored whole)
    show Orderly _
    rw [fails.state]
    exact orderly

end Dashboard

namespace DashboardGroup

variable {group : DashboardGroup}

theorem sends_cloneInto (target id : String) : Plan.Sends Request.Steady (cloneInto target id) :=
  Plan.sends_call (.clone target id) Plan.sends_pure

theorem sends_settle (target : String) (placement : Placement) :
    Plan.Sends Request.Steady (settle target placement) := by
  unfold settle
  split
  case isTrue => exact Plan.sends_pure _
  case isFalse =>
    apply Plan.sends_bind (sends_cloneInto _ _)
    intro clone
    rw [← bind_pure (requireId clone)]
    exact Plan.sends_requireId Plan.sends_pure

/-- Removing dashboards from a group reads and deletes. -/
theorem sends_removeFrom {allowed : Request → Prop} (reads : ∀ path, allowed (.get path))
    (deletes : ∀ path, allowed (.delete path)) (groupId : String) (ids : List String) :
    Plan.Sends allowed (removeFrom groupId ids) := by
  apply Plan.sends_call (reads _)
  intro group
  change Plan.Sends _ (if _ then _ else _)
  split
  case isTrue =>
    apply Plan.sends_bind
    · exact Plan.sends_forM fun id _ => Dashboard.sends_deleteChartsOf reads deletes id
    · exact fun _ => Plan.sends_call (deletes _) fun _ => Plan.sends_pure _
  case isFalse => exact Plan.sends_forM fun id _ => Dashboard.sends_deleteById reads deletes id

theorem sends_removeSources {allowed : Request → Prop} (reads : ∀ path, allowed (.get path))
    (deletes : ∀ path, allowed (.delete path)) (target : String) (sources : List Placement) :
    Plan.Sends allowed (removeSources target sources) :=
  Plan.sends_forM fun _ _ => sends_removeFrom reads deletes _ _

/-- The dashboards of a group are put in their places, each by an update of its own. -/
theorem leaves_placements_orderly (orderly : store.Orderly) (dashboards : List Dashboard) :
    Plan.Leaves Store.server answer (dashboards.mapM placeDashboard) store Orderly := by
  apply Plan.leaves_mapM ?_ orderly
  intro dashboard _ _ orderly
  apply (Dashboard.leaves_update_orderly orderly {}).bind
  exact fun _ _ orderly => Plan.leaves_requireId orderly fun _ => Plan.leaves_pure orderly

/-- What is left to do for a stored group once the dashboards are in their places. -/
def regroup (target : String) (placements : List Placement) : Plan (List String) := do
  let kept ← placements.mapM (settle target)
  removeSources target placements
  let current ← Plan.get (Kind.group.path target)
  ((members current).filter fun member => !kept.contains member).forM Dashboard.deleteById
  return kept

/-- What is left to do for a new group once the dashboards are in their places. -/
def populate (target : String) (created : Json) (placements : List Placement) : Plan Json := do
  placements.forM fun placement => do
    let _ ← cloneInto target placement.dashboardId
    return ()
  removeSources target placements
  (members created).head?.forM Dashboard.deleteById
  Plan.get (Kind.group.path target)

/-- Bringing dashboards that are in their places into a stored group writes none of them. -/
theorem sends_regroup (target : String) (placements : List Placement) :
    Plan.Sends Request.Steady (regroup target placements) := by
  apply Plan.sends_bind (Plan.sends_mapM (sends_settle target))
  intro kept
  apply Plan.sends_bind (Plan.sends_steady (sends_removeSources .get .delete _ _))
  intro _
  apply Plan.sends_call (.nameless (.get _))
  intro current
  change Plan.Sends _
    (((members current).filter _).forM Dashboard.deleteById >>= fun _ => pure kept)
  apply Plan.sends_bind
  · exact Plan.sends_forM fun id _ => Plan.sends_steady (Dashboard.sends_deleteById .get .delete id)
  · exact fun _ => Plan.sends_pure _

/-- Cloning dashboards that are in their places into a new group writes none of them. -/
theorem sends_populate (target : String) (created : Json) (placements : List Placement) :
    Plan.Sends Request.Steady (populate target created placements) := by
  apply Plan.sends_bind
  · exact Plan.sends_forM fun _ _ =>
      Plan.sends_bind (sends_cloneInto _ _) fun _ => Plan.sends_pure _
  intro _
  apply Plan.sends_bind (Plan.sends_steady (sends_removeSources .get .delete _ _))
  intro _
  apply Plan.sends_bind
  · cases (members created).head? with
    | none => exact Plan.sends_pure _
    | some id => exact Plan.sends_steady (Dashboard.sends_deleteById .get .delete id)
  · exact fun _ => Plan.sends_call (.nameless (.get _)) Plan.sends_pure

theorem leaves_reconcileDashboards_orderly (orderly : store.Orderly) (id : String) :
    Plan.Leaves Store.server answer (group.reconcileDashboards id) store Orderly := by
  apply (leaves_placements_orderly orderly _).bind
  exact fun placements _ orderly => (sends_regroup id placements).leaves_orderly orderly

/-- The service puts an empty dashboard into a new group. -/
theorem leaves_createUnguarded_orderly (valid : group.check = .ok ()) (orderly : store.Orderly)
    (overrides : Overrides) :
    Plan.Leaves Store.server answer (group.createUnguarded overrides) store Orderly := by
  have object : (Json.record group.fields).isObject = true := (Json.isRecord_record _).isObject
  have applied := (overrides.isObject_applied (.record group.fields)).trans object
  unfold createUnguarded
  rw [Plan.checked_eq (payload_eq valid), pure_bind, overrides.apply_eq object, pure_bind]
  obtain ⟨created, target, first, between, answered, -, -, -, -, extended⟩ :=
    orderly.sound.exists_groupAdded applied _
  have orderlyBetween : between.Orderly :=
    ⟨orderly.sound.of_server answered, orderly.laid.extend extended⟩
  apply Plan.leaves_call answered
  change Plan.Leaves Store.server answer (if group.dashboards.isEmpty then _ else _) between _
  split
  case isTrue => exact Plan.leaves_pure orderlyBetween
  case isFalse =>
    apply Plan.leaves_requireId orderlyBetween
    intro id
    apply (leaves_placements_orderly orderlyBetween _).bind
    exact fun placements _ orderly => (sends_populate id created placements).leaves_orderly orderly

theorem leaves_create_orderly (orderly : store.Orderly) (options : CreateOptions) :
    Plan.Leaves Store.server answer (group.create options) store Orderly := by
  apply Plan.leaves_checked orderly
  intro _ valid
  have guards : Plan.Leaves Store.server answer (guardCreate .group group.name options)
      store Orderly := (Plan.sends_guardCreate (Request.steady_search ..)).leaves_orderly orderly
  exact guards.bind fun _ _ orderly => leaves_createUnguarded_orderly valid orderly {}

theorem leaves_update_orderly (orderly : store.Orderly) (overrides : Overrides) :
    Plan.Leaves Store.server answer (group.update overrides) store Orderly := by
  apply Plan.leaves_checked orderly
  intro _ valid
  have finds : Plan.Leaves Store.server answer (findUnique .group group.name) store Orderly :=
    (Plan.sends_findUnique (Request.steady_search ..)).leaves_orderly orderly
  apply finds.bind
  intro found store orderly
  cases found with
  | none => exact leaves_createUnguarded_orderly valid orderly overrides
  | some remote =>
      apply Plan.leaves_requireId orderly
      intro id
      have writes : ∀ document : Json, Plan.Sends Request.Steady (do
          let fields ← Plan.checked group.unnamedPayload
          let document ← overrides.apply (document.overlay fields)
          Plan.put (Kind.group.path id) document) := fun document =>
        Plan.sends_bind (Plan.sends_checked _) fun _ =>
          Plan.sends_bind (Plan.sends_apply _ _) fun _ =>
            Plan.sends_call (.putGroup ..) Plan.sends_pure
      split
      case isTrue => exact (writes remote).leaves_orderly orderly
      case isFalse =>
        apply (leaves_reconcileDashboards_orderly orderly id).bind
        intro kept _ orderly
        exact (Plan.sends_bind (Plan.sends_assign _ _ _) writes).leaves_orderly orderly

theorem sends_delete (group : DashboardGroup) : Plan.Sends Request.Nameless group.delete := by
  apply Plan.sends_bind (Plan.sends_requireUnique (.search ..))
  intro remote
  exact Plan.sends_requireId fun id => Plan.sends_call (.delete _) fun _ => Plan.sends_pure _

end DashboardGroup

/-- However a command ends, it leaves a store orderly. -/
theorem CommandLine.Command.leaves_orderly (orderly : store.Orderly)
    (command : CommandLine.Command) (resource : Resource) :
    Plan.Leaves Store.server answer (command.plan resource) store Orderly := by
  by_cases plain : resource.kind ∈ Kind.plain
  case pos =>
    exact (sends_about plain).leaves
      (fun _ _ about orderly => Store.Orderly.server_of_about orderly about plain) orderly
  have reads : ∀ kind name,
      Plan.Leaves Store.server answer (requireUnique kind name) store Orderly := fun _ _ =>
    (Plan.sends_requireUnique (Request.steady_search ..)).leaves_orderly orderly
  have deletes : ∀ {plan : Plan Unit}, Plan.Sends Request.Nameless plan →
      Plan.Leaves Store.server answer ((fun _ => Json.null) <$> plan) store Orderly := by
    intro plan sends
    have whole : Plan.Sends Request.Steady ((fun _ => Json.null) <$> plan) :=
      Plan.sends_bind (Plan.sends_steady sends) fun _ => Plan.sends_pure _
    exact whole.leaves_orderly orderly
  cases resource with
  | chart chart => exact absurd (by simp [Resource.kind, Kind.plain]) plain
  | detector detector => exact absurd (by simp [Resource.kind, Kind.plain]) plain
  | dashboard dashboard =>
      cases command with
      | create options => exact dashboard.leaves_create_orderly orderly options
      | update overrides => exact dashboard.leaves_update_orderly orderly overrides
      | read => exact reads ..
      | delete => exact deletes dashboard.sends_delete
  | group group =>
      cases command with
      | create options => exact group.leaves_create_orderly orderly options
      | update overrides => exact group.leaves_update_orderly orderly overrides
      | read => exact reads ..
      | delete => exact deletes group.sends_delete

end SignalBoard
