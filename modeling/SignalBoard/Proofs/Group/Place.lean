/-
# Placing a dashboard

A local dashboard is updated where it is stored, or created in a group of its own. In both cases
it is then the one dashboard of its name, it shows the local charts, and what other groups list
is as it was.
-/

import SignalBoard.Proofs.Reconcile.Created

namespace SignalBoard

/-- The face is that of a local dashboard in a group. -/
structure Face.Matches (face : Face) (dashboard : Dashboard) (groupId : String) : Prop where
  isNamed : face.name = some dashboard.name
  belongs : face.groupId = some groupId
  charts : face.charts.Perm (dashboard.charts.map fun chart => some chart.name)

/-- At most one stored dashboard has the local name, and its charts have distinct names. -/
structure Dashboard.Findable (dashboard : Dashboard) (faces : String → Option Face) : Prop where
  only : ∀ id id' face face', faces id = some face → faces id' = some face' →
    face.name = some dashboard.name → face'.name = some dashboard.name → id = id'
  distinct : ∀ id face, faces id = some face → face.name = some dashboard.name →
    face.charts.reduceOption.Nodup

/-- Whether a dashboard can be found in a sound store can be told from its dashboards. -/
theorem Store.Sound.findable {store : Store} (sound : store.Sound) {dashboard : Dashboard}
    (only : ∀ first ∈ store.under Kind.dashboard.endpoint,
      ∀ second ∈ store.under Kind.dashboard.endpoint, first.name? = some dashboard.name →
        second.name? = some dashboard.name → first.id? = second.id?)
    (distinct : ∀ document ∈ store.under Kind.dashboard.endpoint,
      document.name? = some dashboard.name → (store.faceOf document).charts.reduceOption.Nodup) :
    dashboard.Findable store.face? where
  only := by
    intro id id' face face' found found' named named'
    obtain ⟨first, stored, rfl⟩ := exists_of_face? found
    obtain ⟨second, stored', rfl⟩ := exists_of_face? found'
    have same := only first ((mem_under_iff sound.ordered ..).mpr ⟨id, stored⟩) second
      ((mem_under_iff sound.ordered ..).mpr ⟨id', stored'⟩) named named'
    rw [(sound.id_of_resource? stored).1, (sound.id_of_resource? stored').1] at same
    exact Option.some.inj same
  distinct := by
    intro id face found named
    obtain ⟨document, stored, rfl⟩ := exists_of_face? found
    exact distinct document ((mem_under_iff sound.ordered ..).mpr ⟨id, stored⟩) named

/-- How a store has changed once a local dashboard is in its place. -/
structure Store.Placed (dashboard : Dashboard) (placement : Placement) (before after : Store) :
    Prop where
  tidy : after.Tidy
  face : ∃ face, face.Matches dashboard placement.groupId ∧
    after.face? = Function.update before.face? placement.dashboardId (some face)
  /-- What had the name is what was placed. -/
  only : ∀ id face, before.face? id = some face → face.name = some dashboard.name →
    id = placement.dashboardId
  /-- What was there already had the name. -/
  own : ∀ face, before.face? placement.dashboardId = some face → face.name = some dashboard.name
  groups : ∀ groupId, (before.listed? groupId).isSome →
    after.resource? .group groupId = before.resource? .group groupId

namespace Store.Placed

variable {dashboard : Dashboard} {placement : Placement} {before after : Store}

/-- What is stored in the place names its identifier and its group. -/
theorem reply (placed : Placed dashboard placement before after) {document : Json}
    (stored : after.resource? .dashboard placement.dashboardId = some document) :
    document.id? = some placement.dashboardId ∧ document.groupId? = some placement.groupId := by
  obtain ⟨face, isMatch, faces⟩ := placed.face
  have own : some (after.faceOf document) = some face := by
    rw [← face?_eq stored, faces, Function.update_self]
  refine ⟨(placed.tidy.sound.id_of_resource? stored).1, ?_⟩
  rw [← isMatch.belongs, ← Option.some.inj own]
  rfl

end Store.Placed

namespace Dashboard

open Store (Founded)

variable {answer : Question → Bool} {dashboard : Dashboard} {store before after : Store}
  {id : String} {remote reply : Json} {added : List Json}

namespace Converged

/-- An update keeps the fields that are neither layout nor settings. -/
theorem get?_reply (converged : dashboard.Converged {} before after id remote reply added)
    (object : remote.isObject = true) {key : String}
    (foreign : key ∉ ["id", "charts", "description", "filters", "eventOverlays",
      "selectedEventOverlays"]) : reply.get? key = remote.get? key := by
  simp only [List.mem_cons, List.not_mem_nil, or_false, not_or] at foreign
  obtain ⟨notId, notCharts, notDescription, notFilters, notOverlays, notSelected⟩ := foreign
  have laid : (remote.withField "charts"
      (.arr (dashboard.matched before remote ++ added))).isObject = true := by simpa
  have unchanged (document : Json) : ({} : Overrides).applied document = document := rfl
  rw [converged.document, unchanged,
    Json.get?_withField (isObject_withSettings dashboard laid), if_neg notId,
    get?_withSettings dashboard laid
      (by simp [notDescription, notFilters, notOverlays, notSelected]),
    Json.get?_withField object, if_neg notCharts]

/-- The paths that an update of a stored dashboard touches. -/
theorem agreesOff (converged : dashboard.Converged {} before after id remote reply added) :
    before.AgreesOff (Kind.dashboard.path id ::
      Kind.chart.paths (Layout.chartIds remote ++ Layout.chartIds reply)) after := by
  intro path untouched
  rw [List.mem_cons, not_or] at untouched
  refine converged.elsewhere path untouched.1 ?_
  rintro chartId among rfl
  exact untouched.2 (Kind.path_mem_paths.mpr (List.mem_append.mpr among))

/-- A chart of the new layout was on the old one or was not stored. -/
theorem chart_known (converged : dashboard.Converged {} before after id remote reply added)
    {chartId : String} (member : chartId ∈ Layout.chartIds reply) :
    chartId ∈ Layout.chartIds remote ∨ before.resource? .chart chartId = none := by
  rw [Layout.chartIds, converged.layout] at member
  obtain ⟨entry, among, names⟩ := List.mem_filterMap.mp member
  rcases List.mem_append.mp among with matched | new
  · exact .inl (List.mem_filterMap.mpr ⟨entry, (List.mem_filter.mp matched).1, names⟩)
  · obtain ⟨chart, -, chartId', names', fresh, -⟩ :=
      Store.exists_of_forall₂_right converged.created new
    obtain rfl := Option.some.inj (names.symm.trans names')
    exact .inr (fresh .chart)

/-- Only the dashboard that is updated gets another face. -/
theorem faces (converged : dashboard.Converged {} before after id remote reply added)
    (consistent : before.Consistent) (stored : before.resource? .dashboard id = some remote) :
    after.face? = Function.update before.face? id (some (after.faceOf reply)) := by
  refine converged.agreesOff.face?_of_charts consistent ?_ (Store.face?_eq converged.stored)
  intro chartId touched
  rw [Store.layoutOf_eq stored]
  exact (List.mem_append.mp touched).elim .inl converged.chart_known

/-- An update of a dashboard leaves the groups as they are. -/
theorem groups (converged : dashboard.Converged {} before after id remote reply added)
    (groupId : String) : after.resource? .group groupId = before.resource? .group groupId := by
  refine converged.agreesOff.resource?_eq ?_
  rw [List.mem_cons, not_or]
  exact ⟨Kind.path_ne (by decide) _ _, Kind.path_not_mem_paths (by decide) _ _⟩

/-- A dashboard that is updated gets the face of the local one, in the group that it names. -/
theorem isMatch (converged : dashboard.Converged {} before after id remote reply added)
    (object : remote.isObject = true) (isNamed : remote.name? = some dashboard.name)
    {groupId : String} (names : remote.groupId? = some groupId) :
    (after.faceOf reply).Matches dashboard groupId where
  isNamed := by
    rw [Store.faceOf, ← isNamed, Json.name?, Json.name?, converged.get?_reply object (by decide)]
  belongs := by
    rw [Store.faceOf, ← names, Json.groupId?, Json.groupId?, Json.string?_field,
      Json.string?_field, converged.get?_reply object (by decide)]
  charts := by
    rw [Store.faceOf, converged.layout]
    exact converged.names

end Converged

/-- A stored dashboard is updated and stays where it is. -/
theorem ensures_update_placed (tidy : store.Tidy) (valid : dashboard.check = .ok ())
    (distinct : (dashboard.charts.map (·.name)).Nodup) (findable : dashboard.Findable store.face?)
    {face : Face} (there : store.face? id = some face) (isNamed : face.name = some dashboard.name) :
    Plan.Ensures Store.server answer (dashboard.update {}) store
      fun reply after => ∃ placement : Placement, Store.Placed dashboard placement store after ∧
        after.resource? .dashboard placement.dashboardId = some reply := by
  obtain ⟨remote, stored, isFace⟩ := Store.exists_of_face? there
  have consistent := tidy.grouped.consistent
  have object := tidy.sound.isObject (Store.get?_of_resource? stored)
  have remoteNamed : remote.name? = some dashboard.name := by
    rw [← isNamed, ← isFace]
    rfl
  have remoteDistinct : ((remote.field "charts").items.filterMap store.nameAt?).Nodup := by
    have own := findable.distinct _ face there isNamed
    rw [← isFace] at own
    have whole : (((remote.field "charts").items.map store.nameAt?).filterMap
        fun name => name).Nodup := own
    rwa [List.filterMap_map] at whole
  have only : ∀ id' other, store.resource? .dashboard id' = some other →
      other.name? = some dashboard.name → id' = id := fun id' other stored' named =>
    findable.only id' id _ face (Store.face?_eq stored') there named isNamed
  obtain ⟨groupId, names, listed⟩ := tidy.grouped.filed.belongs id face there
  have updates : Plan.Ensures Store.server answer (dashboard.update {}) store
      fun reply after => ∃ added, dashboard.Converged {} store after id remote reply added :=
    ensures_update_of_sound tidy.sound consistent valid distinct {} stored remoteNamed only
      remoteDistinct
  refine (updates.keeping Store.sound_server tidy.sound).mono ?_
  rintro reply after ⟨⟨added, converged⟩, sound⟩
  have faces := converged.faces consistent stored
  have belongs : remote.groupId? = some groupId := by
    rw [← names, ← isFace]
    rfl
  have isMatch := converged.isMatch object remoteNamed belongs
  refine ⟨⟨id, groupId⟩, ?_, converged.stored⟩
  constructor
  case tidy =>
    refine ⟨sound, converged.consistent, ?_, ?_⟩
    · intro groupId group stored
      rw [converged.groups] at stored
      exact tidy.grouped.lists groupId group stored
    · have lists : after.listed? = store.listed? := by
        funext other
        rw [Store.listed?, Store.listed?, converged.groups]
      rw [faces, lists]
      exact tidy.grouped.filed.revise there (isMatch.belongs.trans names.symm)
  case face => exact ⟨_, isMatch, faces⟩
  case only =>
    exact fun id' face' found named => findable.only id' id face' face found there named isNamed
  case own => exact fun face' found => Option.some.inj (there.symm.trans found) ▸ isNamed
  case groups => exact fun other _ => converged.groups other

/-- The face of a dashboard that was created from the local charts. -/
def createdFace (dashboard : Dashboard) (groupId : String) : Face where
  name := dashboard.name
  groupId := groupId
  charts := dashboard.charts.map fun chart => some chart.name

/-- A dashboard was created in a group of its own. -/
theorem Created.founded {before after : Store} {groupId : String} {chartIds : List String}
    {reply : Json} (created : dashboard.Created {} groupId id chartIds reply before after)
    (consistent : before.Consistent) (sound : after.Sound) :
    Founded groupId id (dashboard.createdFace groupId) before after := by
  have own : after.faceOf reply = dashboard.createdFace groupId := by
    have names : (Store.placedEntries chartIds 0).map after.nameAt? =
        dashboard.charts.map fun chart => some chart.name :=
      Store.map_nameAt?_placedEntries (created.shown.imp fun chart chartId stored =>
        ⟨_, stored, chart.name?_storedAs chartId⟩) 0
    rw [Store.faceOf, created.name?_reply, created.groupId?_reply, created.charts_reply]
    exact congrArg (Face.mk _ _) names
  constructor
  case sound => exact sound
  case consistent => exact created.consistent consistent sound
  case freshGroup => exact created.freshGroup
  case fresh => rw [Store.face?, created.fresh, Option.map_none]
  case belongs => rfl
  case faces => rw [created.faces consistent, own]
  case group => exact created.group
  case groups => exact fun other different => created.group_eq different

/-- A dashboard is created in a group of its own, whether or not it has settings. -/
theorem ensures_createUnguarded_founded (sound : store.Sound) (consistent : store.Consistent)
    (valid : dashboard.check = .ok ()) :
    Plan.Ensures Store.server answer (dashboard.createUnguarded {}) store
      fun reply after => ∃ groupId id, after.resource? .dashboard id = some reply ∧
        Founded groupId id (dashboard.createdFace groupId) store after := by
  apply ((ensures_createUnguarded_created sound valid {}).keeping Store.sound_server sound).mono
  rintro reply after ⟨⟨groupId, id, chartIds, created⟩, soundAfter⟩
  exact ⟨groupId, id, created.stored, created.founded consistent soundAfter⟩

/-- A dashboard that is not stored is created in a group of its own. -/
theorem ensures_createUnguarded_placed (tidy : store.Tidy) (valid : dashboard.check = .ok ())
    (none : ∀ id face, store.face? id = some face → face.name ≠ some dashboard.name) :
    Plan.Ensures Store.server answer (dashboard.createUnguarded {}) store
      fun reply after => ∃ placement : Placement, Store.Placed dashboard placement store after ∧
        after.resource? .dashboard placement.dashboardId = some reply := by
  refine (ensures_createUnguarded_founded tidy.sound tidy.grouped.consistent valid).mono ?_
  rintro reply after ⟨groupId, id, stored, founded⟩
  refine ⟨⟨id, groupId⟩, ?_, stored⟩
  constructor
  case tidy => exact founded.tidy tidy
  case face => exact ⟨_, ⟨rfl, rfl, .refl _⟩, founded.faces⟩
  case only => exact fun other face found named => (none other face found named).elim
  case own => exact fun face found => nomatch founded.fresh.symm.trans found
  case groups =>
    intro other listed
    refine founded.groups other ?_
    rintro rfl
    rw [Store.listed?, founded.freshGroup, Option.map_none] at listed
    cases listed

/-- A local dashboard is put in its place, wherever that is. -/
theorem ensures_placeDashboard (tidy : store.Tidy) (valid : dashboard.check = .ok ())
    (distinct : (dashboard.charts.map (·.name)).Nodup)
    (findable : dashboard.Findable store.face?) :
    Plan.Ensures Store.server answer (DashboardGroup.placeDashboard dashboard) store
      fun placement after => Store.Placed dashboard placement store after := by
  have updates : Plan.Ensures Store.server answer (dashboard.update {}) store
      fun reply after => ∃ placement : Placement, Store.Placed dashboard placement store after ∧
        after.resource? .dashboard placement.dashboardId = some reply := by
    by_cases there : ∃ id face, store.face? id = some face ∧ face.name = some dashboard.name
    case pos =>
      obtain ⟨id, face, found, isNamed⟩ := there
      exact ensures_update_placed tidy valid distinct findable found isNamed
    case neg =>
      have none : ∀ id face, store.face? id = some face → face.name ≠ some dashboard.name :=
        fun id face found named => there ⟨id, face, found, named⟩
      have unnamed : store.named .dashboard dashboard.name = (Option.none : Option Json).toList :=
        (Store.named_eq_nil_iff tidy.sound.ordered ..).mpr fun id document stored =>
          none id _ (Store.face?_eq stored)
      unfold update
      rw [Plan.checked_eq valid, pure_bind]
      refine Plan.ensures_bind (Store.ensures_findUnique unnamed) ?_
      rintro _ store ⟨rfl, rfl⟩
      exact ensures_createUnguarded_placed tidy valid none
  refine Plan.ensures_bind updates ?_
  rintro reply after ⟨placement, placed, stored⟩
  obtain ⟨identified, names⟩ := placed.reply stored
  rw [requireId_eq identified, pure_bind]
  have field : (reply.field "groupId").string? = some placement.groupId := names
  rw [field]
  exact Plan.ensures_pure placed

end Dashboard

end SignalBoard
