/-
# Answers about groups

What a store answers when a group is created, a dashboard is cloned into a group, and a dashboard
or a group is deleted, and which store is left.
-/

import SignalBoard.Proofs.Group.Change
import SignalBoard.Proofs.Group.Members

namespace SignalBoard

namespace Store

open Function (update)

variable {store : Store}

/-- The entries with their charts replaced. -/
def copiedEntries (entries : List Json) (ids : List String) : List Json :=
  List.zipWith (fun entry id => entry.withField "chartId" (.str id)) entries ids

/-- An entry places a stored chart. -/
def Places (store : Store) (entry chart : Json) : Prop :=
  ∃ chartId, Layout.chartId? entry = some chartId ∧
    store.documents.get? (Kind.chart.path chartId) = some chart

/-- An entry that places a chart is an object. -/
theorem Places.isObject {entry chart : Json} (places : store.Places entry chart) :
    entry.isObject = true := by
  obtain ⟨chartId, names, -⟩ := places
  obtain ⟨value, held, -⟩ := Option.bind_eq_some_iff.mp names
  exact Json.isObject_of_get? held

/-- The store with a copy of a chart under the next identifier. -/
def copied (store : Store) (chart : Json) : Store :=
  store.allocate.set (Kind.chart.path (ident (store.allocated + 1)))
    (chart.withField "id" (.str (ident (store.allocated + 1))))

/-- Copying the chart of an entry. -/
theorem perform_copyPlaced {entry chart : Json} (sound : store.Sound)
    (places : store.Places entry chart) :
    perform (copyPlaced entry) store =
      (.ok (entry.withField "chartId" (.str (ident (store.allocated + 1)))),
        store.copied chart) := by
  have entryObject := places.isObject
  obtain ⟨chartId, names, stored⟩ := places
  have object := sound.isObject stored
  have field : (chart.withField "id" (.str (ident (store.allocated + 1)))).field "id" =
      .str (ident (store.allocated + 1)) :=
    Json.field_of_get? (Json.Stamped.withField_id object _).get?_id
  have placed : (entry.get? "chartId").bind Json.string? = some chartId := names
  simp only [copyPlaced, perform_bind, Json.string?_field, placed, Option.getD_some,
    perform_fetch, stored, perform_add_object object, perform_assign]
  rw [field, Json.assign_eq entryObject]
  rfl

/-- A copy is stored beside everything that was there. -/
theorem agreesOff_copied (store : Store) (chart : Json) :
    store.AgreesOff (Kind.chart.paths [ident (store.allocated + 1)]) (store.copied chart) := by
  intro path untouched
  rw [copied, get?_set, if_neg (by simpa [Kind.paths] using untouched), documents_allocate]

/-- Entries place the same charts after a copy. -/
theorem Places.copied {entry placed : Json} (places : store.Places entry placed)
    (sound : store.Sound) (chart : Json) : (store.copied chart).Places entry placed := by
  obtain ⟨chartId, names, stored⟩ := places
  refine ⟨chartId, names, (store.agreesOff_copied chart _ fun touched => ?_).trans stored⟩
  refine not_mem_freshIds sound stored 1 ?_
  exact Kind.path_mem_paths.mp touched

/-- Copying the charts of a layout: each copy gets the next identifier. -/
theorem perform_copies {entries charts : List Json} (sound : store.Sound)
    (places : List.Forall₂ store.Places entries charts) :
    ∃ after, perform (entries.mapM copyPlaced) store =
        (.ok (copiedEntries entries (store.freshIds charts.length)), after) ∧
      after.allocated = store.allocated + charts.length ∧
      store.AgreesOff (Kind.chart.paths (store.freshIds charts.length)) after ∧
      List.Forall₂ (fun chart id => after.documents.get? (Kind.chart.path id) =
        some (chart.withField "id" (.str id))) charts (store.freshIds charts.length) := by
  induction charts generalizing entries store with
  | nil =>
      obtain rfl := List.forall₂_nil_right_iff.mp places
      exact ⟨store, rfl, rfl, AgreesOff.refl _ _, .nil⟩
  | cons chart charts ih =>
      obtain ⟨entry, entries, here, rest, rfl⟩ := List.forall₂_cons_right_iff.mp places
      have object : chart.isObject = true := by
        obtain ⟨_, -, stored⟩ := here
        exact sound.isObject stored
      have soundCopied : (store.copied chart).Sound :=
        (Step.add store Kind.chart.endpoint (.withField_id object _)).sound sound
      obtain ⟨after, ended, allocated, agrees, copies⟩ :=
        ih soundCopied (rest.imp fun _ _ there => there.copied sound chart)
      have ids : store.freshIds (chart :: charts).length =
          ident (store.allocated + 1) :: (store.copied chart).freshIds charts.length := by
        rw [List.length_cons, freshIds_succ]
        rfl
      have notLater : ident (store.allocated + 1) ∉
          (store.copied chart).freshIds charts.length := by
        have once := store.nodup_freshIds (chart :: charts).length
        rw [ids, List.nodup_cons] at once
        exact once.1
      rw [ids]
      refine ⟨after, ?_, ?_, (store.agreesOff_copied chart).trans agrees, .cons ?_ copies⟩
      · rw [List.mapM_cons]
        simp only [perform_bind, perform_copyPlaced sound here, ended, perform_pure]
        rfl
      · rw [allocated, List.length_cons, copied, allocated_set, allocated_allocate]
        omega
      · rw [agrees _ fun touched => notLater (Kind.path_mem_paths.mp touched), copied, get?_set,
          if_pos rfl]

/-- A created dashboard names its group. -/
theorem groupId?_dashboardDocument (name groupId : String) (layout : List Json) (id : String) :
    (dashboardDocument name groupId layout id).groupId? = some groupId := by
  rw [Json.groupId?, Json.field_of_get? (get?_dashboardDocument ..)]
  rfl

/-- The face of a created dashboard. -/
theorem faceOf_dashboardDocument (store : Store) (name groupId : String) (layout : List Json)
    (id : String) : store.faceOf (dashboardDocument name groupId layout id) =
      ⟨some name, some groupId, layout.map store.nameAt?⟩ := by
  rw [faceOf, name?_dashboardDocument, groupId?_dashboardDocument, charts_dashboardDocument]
  rfl

theorem chartIds_dashboardDocument (name groupId : String) (layout : List Json) (id : String) :
    Layout.chartIds (dashboardDocument name groupId layout id) =
      layout.filterMap Layout.chartId? := by
  rw [Layout.chartIds, charts_dashboardDocument]
  rfl

/-- Entries of charts that a dashboard is created from show the names of these charts. -/
theorem map_nameAt?_placedEntries {after : Store} {α : Type} {own : α → Option String}
    {items : List α} {chartIds : List String}
    (stored : List.Forall₂ (fun item id => ∃ chart, after.resource? .chart id = some chart ∧
      chart.name? = own item) items chartIds) (place : Nat) :
    (placedEntries chartIds place).map after.nameAt? = items.map own := by
  induction stored generalizing place with
  | nil => rfl
  | cons here _ ih =>
      obtain ⟨copy, stored, same⟩ := here
      rw [placedEntries, List.map_cons, List.map_cons, ih,
        nameAt?_eq (chartId?_placedEntry _ place) stored, same]

/-- A dashboard is added for a stored group after its charts, whatever the group lists. -/
theorem exists_extended {before between : Store} {groupId : String} {group : Json}
    {chartIds : List String} (sound : before.Sound)
    (agrees : before.AgreesOff (Kind.chart.paths chartIds) between)
    (later : before.allocated ≤ between.allocated) (name : String) {layout : List Json}
    (layoutIds : layout.filterMap Layout.chartId? = chartIds) (once : chartIds.Nodup)
    (charts : ∀ chartId ∈ chartIds, before.resource? .chart chartId = none ∧
      (between.resource? .chart chartId).isSome)
    (stored : before.resource? .group groupId = some group) :
    ∃ new after, perform (addDashboard name groupId layout) between =
        (.ok (dashboardDocument name groupId layout (ident (between.allocated + 1))), after) ∧
      between.AgreesOff [Kind.group.path groupId,
        Kind.dashboard.path (ident (between.allocated + 1))] after ∧
      after.resource? .group groupId = some new ∧
      group.Relisted (· ++ [.str (ident (between.allocated + 1))]) new ∧
      Extended groupId (ident (between.allocated + 1)) chartIds
        (dashboardDocument name groupId layout (ident (between.allocated + 1))) before after := by
  have object := sound.isObject (get?_of_resource? stored)
  have stillGroup : between.documents.get? (Kind.group.path groupId) = some group := by
    rw [agrees _ (Kind.path_not_mem_paths (by decide) _ _), get?_of_resource? stored]
  obtain ⟨new, added, relisted⟩ := exists_addDashboard stillGroup object name layout
  generalize isNew : ident (between.allocated + 1) = id at added relisted
  have clean : '/' ∉ id.toList := isNew ▸ slash_not_mem_ident _
  refine ⟨new, _, added, ?_, ?_, relisted, ?_⟩
  · intro path untouched
    simp only [List.mem_cons, List.not_mem_nil, or_false, not_or] at untouched
    rw [get?_set, if_neg untouched.1, get?_set, if_neg untouched.2, documents_allocate]
  · rw [resource?_of_clean (clean_of_resource? stored), get?_set, if_pos rfl]
  constructor
  case elsewhere =>
    intro path untouched
    simp only [List.mem_cons, not_or] at untouched
    rw [get?_set, if_neg untouched.1, get?_set, if_neg untouched.2.1, documents_allocate,
      agrees path untouched.2.2]
  case fresh =>
    rw [← isNew, resource?_of_clean (slash_not_mem_ident _)]
    exact sound.get?_fresh (by omega) Kind.dashboard.endpoint
  case stored =>
    rw [resource?_of_clean clean, get?_set, if_neg (Kind.path_ne (by decide) _ _), get?_set,
      if_pos rfl]
  case layout => rw [chartIds_dashboardDocument, layoutIds]
  case once => exact once
  case charts =>
    intro chartId member
    refine ⟨(charts chartId member).1, ?_⟩
    refine (congrArg Option.isSome (resource?_congr ?_)).trans (charts chartId member).2
    rw [get?_set, if_neg (Kind.path_ne (by decide) _ _), get?_set,
      if_neg (Kind.path_ne (by decide) _ _), documents_allocate]

/-- A group that has a proper list lists the added dashboard last. -/
theorem Extended.added {before after : Store} {groupId id : String} {ids chartIds : List String}
    {dashboard group new : Json} (extended : Extended groupId id chartIds dashboard before after)
    (names : dashboard.groupId? = some groupId)
    (stored : before.resource? .group groupId = some group) (lists : group.Lists ids)
    (now : after.resource? .group groupId = some new)
    (relisted : group.Relisted (· ++ [.str id]) new) :
    DashboardAdded groupId id ids chartIds dashboard before after where
  toExtended := extended
  names := names
  listed := listed?_eq stored lists
  group := ⟨new, now, relisted.lists_add lists, relisted.isNamed.trans (title?_eq stored).symm⟩

/-- A group is created under an identifier that nothing had, with an empty dashboard of its own. -/
theorem Sound.exists_groupAdded (sound : store.Sound) {body : Json} (object : body.isObject = true)
    (name : String) :
    ∃ reply groupId id after,
      server (.post Kind.group.endpoint [("name", name)] body) store = (.ok reply, after) ∧
      after.resource? .group groupId = some reply ∧ reply.name? = some name ∧ reply.Lists [id] ∧
      store.resource? .group groupId = none ∧
      Extended groupId id [] (dashboardDocument "Default Dashboard" groupId [] id) store after := by
  generalize isGroup : ident (store.allocated + 1) = groupId
  have named : (body.withField "name" (.str name)).isObject = true := by simpa
  generalize isDocument : groupDocument (body.withField "name" (.str name)) groupId = group
  let between := store.allocate.set (Kind.group.path groupId) group
  have lists : group.Lists [] := isDocument ▸ get?_groupDocument named groupId "dashboards"
  have stamped : group.Stamped groupId := isDocument ▸ .withField_id (by simpa) groupId
  have soundBetween : between.Sound := by
    have step := Step.add store Kind.group.endpoint (isGroup.symm ▸ stamped)
    rw [isGroup] at step
    exact step.sound sound
  have first : store.AgreesOff [Kind.group.path groupId] between := by
    intro path untouched
    simp only [between, get?_set, documents_allocate]
    rw [if_neg (by simpa using untouched)]
  have clean : '/' ∉ groupId.toList := isGroup ▸ slash_not_mem_ident _
  have stored : between.resource? .group groupId = some group := by
    rw [resource?_of_clean clean, get?_set, if_pos rfl]
  obtain ⟨reply, after, added, -, now, relisted, extended⟩ := exists_extended soundBetween
    (AgreesOff.refl _ _) (Nat.le_refl _) "Default Dashboard"
    (rfl : [].filterMap Layout.chartId? = []) List.nodup_nil (by simp) stored
  generalize isLast : ident (between.allocated + 1) = id at added relisted extended
  have answered : server (.post Kind.group.endpoint [("name", name)] body) store =
      (.ok reply, after) := by
    have path : ¬ (Kind.group.endpoint = Kind.chart.endpoint ∨
      Kind.group.endpoint = Kind.detector.endpoint) := by decide
    have notSimple : Kind.group.endpoint ≠ "/dashboard/simple" := by decide
    have query : Request.nameIn? [("name", name)] = some name := by simp [Request.nameIn?]
    have idOf_group : idOf group = groupId := by
      rw [idOf, Json.field_of_get? stamped.get?_id]
      rfl
    have adds : perform (addDashboard "Default Dashboard" groupId [])
        (store.allocate.set (Kind.group.path groupId) group) =
        (.ok (dashboardDocument "Default Dashboard" groupId [] id), after) := added
    rw [server_eq_perform]
    simp only [answer, post, if_neg path, if_neg notSimple, if_true, query, perform_bind,
      perform_assign, Json.assign_eq object, perform_addGroup named]
    rw [isGroup, isDocument]
    simp only [idOf_group, adds, perform_fetch, get?_of_resource? now]
  refine ⟨reply, groupId, id, after, answered, now, ?_, relisted.lists_add lists, ?_, ?_⟩
  · rw [relisted.isNamed, ← isDocument, Json.name?, get?_groupDocument named,
      if_neg (by decide), if_neg (by decide), Json.get?_withField object, if_pos rfl]
    rfl
  · rw [← isGroup, resource?_of_clean (slash_not_mem_ident _)]
    exact sound.get?_fresh (Nat.lt_succ_self _) Kind.group.endpoint
  · exact { extended with
      elsewhere := by
        intro path untouched
        rw [extended.elsewhere path untouched, first path]
        exact fun touched => untouched (List.mem_cons.mpr (.inl (List.mem_singleton.mp touched)))
      fresh := by
        rw [← first.resource?_eq (by simpa using Kind.path_ne (by decide) _ _)]
        exact extended.fresh
      charts := by simp }

/-- A group is created with an empty dashboard of its own. -/
theorem Sound.server_post_group (sound : store.Sound) (consistent : store.Consistent) {body : Json}
    (object : body.isObject = true) (name : String) :
    ∃ reply groupId id after,
      server (.post Kind.group.endpoint [("name", name)] body) store = (.ok reply, after) ∧
      after.resource? .group groupId = some reply ∧ reply.name? = some name ∧
      Founded groupId id ⟨"Default Dashboard", some groupId, []⟩ store after := by
  obtain ⟨reply, groupId, id, after, answered, now, named, lists, freshGroup, extended⟩ :=
    sound.exists_groupAdded object name
  have soundAfter : after.Sound := sound.of_server answered
  refine ⟨reply, groupId, id, after, answered, now, named, ?_⟩
  constructor
  case sound => exact soundAfter
  case consistent => exact extended.consistent consistent soundAfter
  case freshGroup => exact freshGroup
  case fresh => rw [face?, extended.fresh, Option.map_none]
  case belongs => rfl
  case faces => rw [extended.faces consistent, faceOf_dashboardDocument, List.map_nil]
  case group => exact ⟨reply, now, lists⟩
  case groups => exact fun other different => extended.group_eq different

/-- A group is created in a tidy store, with an empty dashboard of its own. -/
theorem Tidy.server_post_group (tidy : store.Tidy) {body : Json} (object : body.isObject = true)
    (name : String) :
    ∃ reply groupId id after,
      server (.post Kind.group.endpoint [("name", name)] body) store = (.ok reply, after) ∧
      after.Tidy ∧ after.resource? .group groupId = some reply ∧ reply.id? = some groupId ∧
      reply.name? = some name ∧ reply.Lists [id] ∧
      after.face? = update store.face? id (some ⟨"Default Dashboard", some groupId, []⟩) := by
  obtain ⟨reply, groupId, id, after, answered, stored, named, founded⟩ :=
    tidy.sound.server_post_group tidy.grouped.consistent object name
  refine ⟨reply, groupId, id, after, answered, founded.tidy tidy, stored,
    (founded.sound.id_of_resource? stored).1, named, ?_, founded.faces⟩
  obtain ⟨group, stored', lists⟩ := founded.group
  obtain rfl := Option.some.inj (stored.symm.trans stored')
  exact lists

/-- Something for every item, as a list. -/
theorem exists_forall₂ {α β : Type} {related : α → β → Prop} :
    ∀ {items : List α}, (∀ item ∈ items, ∃ other, related item other) →
      ∃ others, List.Forall₂ related items others
  | [], _ => ⟨[], .nil⟩
  | item :: rest, each => by
      obtain ⟨other, here⟩ := each item List.mem_cons_self
      obtain ⟨others, there⟩ := exists_forall₂ fun item later => each item (.tail _ later)
      exact ⟨other :: others, .cons here there⟩

/-- An entry places a stored chart of the name that it shows. -/
def Shows (store : Store) (entry chart : Json) : Prop :=
  store.Places entry chart ∧ store.nameAt? entry = chart.name?

/-- An entry that shows a name places a chart. -/
theorem exists_shows {entry : Json} (named : store.nameAt? entry ≠ none) :
    ∃ chart, store.Shows entry chart := by
  cases names : Layout.chartId? entry with
  | none => simp [nameAt?, names] at named
  | some chartId =>
      cases stored : store.resource? .chart chartId with
      | none => simp [nameAt?, names, stored] at named
      | some chart =>
          exact ⟨chart, ⟨chartId, names, get?_of_resource? stored⟩, nameAt?_eq names stored⟩

theorem chartId?_copied {entry : Json} (object : entry.isObject = true) (id : String) :
    Layout.chartId? (entry.withField "chartId" (.str id)) = some id := by
  rw [Layout.chartId?, Json.get?_withField object, if_pos rfl]
  rfl

/-- Every copied entry names the chart that it was copied for. -/
theorem forall₂_copiedEntries {entries charts : List Json}
    (places : List.Forall₂ store.Places entries charts) {ids : List String}
    (lengths : charts.length = ids.length) :
    List.Forall₂ (fun entry id => Layout.chartId? entry = some id) (copiedEntries entries ids)
      ids := by
  induction places generalizing ids with
  | nil =>
      rw [List.eq_nil_of_length_eq_zero lengths.symm]
      exact .nil
  | cons here _ ih =>
      cases ids with
      | nil => cases lengths
      | cons id ids => exact .cons (chartId?_copied here.isObject id) (ih (Nat.succ_inj.mp lengths))

/-- The charts that copied entries place. -/
theorem filterMap_copiedEntries {entries charts : List Json}
    (places : List.Forall₂ store.Places entries charts) {ids : List String}
    (lengths : charts.length = ids.length) :
    (copiedEntries entries ids).filterMap Layout.chartId? = ids := by
  have named := forall₂_copiedEntries places lengths
  clear lengths
  generalize copiedEntries entries ids = copies at named ⊢
  induction named with
  | nil => rfl
  | cons here _ ih => rw [List.filterMap_cons_some here, ih]

/-- Copied entries show the same names. -/
theorem map_nameAt?_copiedEntries {after : Store} {entries charts : List Json}
    {ids : List String} (shows : List.Forall₂ store.Shows entries charts)
    (copied : List.Forall₂ (fun chart id => ∃ copy, after.resource? .chart id = some copy ∧
      copy.name? = chart.name?) charts ids) :
    (copiedEntries entries ids).map after.nameAt? = entries.map store.nameAt? := by
  induction shows generalizing ids with
  | nil => rfl
  | cons here _ ih =>
      obtain ⟨id, ids, ⟨copy, stored, name⟩, rest, rfl⟩ := List.forall₂_cons_left_iff.mp copied
      rw [copiedEntries, List.zipWith_cons_cons, List.map_cons, List.map_cons, here.2,
        nameAt?_eq (chartId?_copied here.1.isObject id) stored, name]
      exact congrArg (_ :: ·) (ih rest)

/-- A request for a clone. -/
theorem server_post_clone (store : Store) (target id : String) :
    server (.post (Request.clonePath target) []
      (.record [("sourceDashboard", some (.str id))])) store = perform (clone target id) store := by
  have plain : ¬ (Request.clonePath target = Kind.chart.endpoint ∨
      Request.clonePath target = Kind.detector.endpoint) := by
    rw [not_or]
    exact ⟨Request.clonePath_ne target (by decide), Request.clonePath_ne target (by decide)⟩
  have notSimple : Request.clonePath target ≠ "/dashboard/simple" :=
    Request.clonePath_ne target (by decide)
  have notGroup : Request.clonePath target ≠ Kind.group.endpoint :=
    Request.clonePath_ne target (by decide)
  have source : ((Json.record [("sourceDashboard", some (.str id))]).field
      "sourceDashboard").string? = some id := by
    rw [Json.string?_field, Json.get?_record (by simp)]
    rfl
  rw [server_eq_perform]
  simp only [answer, post, if_neg plain, if_neg notSimple, if_neg notGroup,
    Request.cloneTarget?_clonePath, source]

/-- A dashboard is cloned into a stored group, with copies of its charts, whatever the group
lists. -/
theorem Sound.exists_cloned (sound : store.Sound) {id target : String} {source group : Json}
    {charts : List Json} (stored : store.resource? .dashboard id = some source)
    (places : List.Forall₂ store.Places (source.field "charts").items charts)
    (storedGroup : store.resource? .group target = some group) :
    ∃ new ids relisted after,
      let reply := dashboardDocument ((source.field "name").string?.getD "") target
        (copiedEntries (source.field "charts").items ids) new
      server (.post (Request.clonePath target) []
        (.record [("sourceDashboard", some (.str id))])) store = (.ok reply, after) ∧
      after.resource? .group target = some relisted ∧
      group.Relisted (· ++ [.str new]) relisted ∧
      Extended target new ids reply store after ∧
      List.Forall₂ (fun chart id => after.resource? .chart id =
        some (chart.withField "id" (.str id))) charts ids := by
  obtain ⟨between, copies, allocated, agrees, copied⟩ := perform_copies sound places
  generalize isFresh : store.freshIds charts.length = fresh at copies agrees copied
  have lengths : charts.length = fresh.length := copied.length_eq
  have isCopied : List.Forall₂ (fun chart id => between.resource? .chart id =
      some (chart.withField "id" (.str id))) charts fresh := by
    refine List.forall₂_iff_zip.mpr ⟨lengths, fun {chart chartId} member => ?_⟩
    have new : chartId ∈ store.freshIds charts.length := isFresh ▸ (List.of_mem_zip member).2
    rw [resource?_of_clean (clean_of_mem_freshIds new)]
    exact (List.forall₂_iff_zip.mp copied).2 member
  have added : ∀ chartId ∈ fresh, store.resource? .chart chartId = none ∧
      (between.resource? .chart chartId).isSome := by
    intro chartId member
    obtain ⟨chart, -, copy⟩ := exists_of_forall₂_right isCopied member
    have new : chartId ∈ store.freshIds charts.length := isFresh ▸ member
    exact ⟨sound.resource?_of_mem_freshIds new _, by rw [copy]; rfl⟩
  obtain ⟨listing, after, adds, last, now, relisted, extended⟩ := exists_extended sound agrees
    (by omega) ((source.field "name").string?.getD "") (filterMap_copiedEntries places lengths)
    (isFresh ▸ store.nodup_freshIds _) added storedGroup
  refine ⟨_, fresh, listing, after, ?_, now, relisted, extended, isCopied.imp fun _ _ copy => ?_⟩
  · rw [server_post_clone]
    simp only [clone, perform_bind, perform_fetch, get?_of_resource? stored,
      get?_of_resource? storedGroup, copies]
    exact adds
  · rw [← copy]
    exact last.resource?_eq (by simp [Kind.path_ne])

/-- A dashboard that shows all its charts is cloned into a stored group. -/
theorem Sound.server_clone (sound : store.Sound) {id target name : String} {face : Face}
    (found : store.face? id = some face) (isNamed : face.name = some name)
    (whole : none ∉ face.charts) {group : Json}
    (storedGroup : store.resource? .group target = some group) :
    ∃ reply new chartIds relisted after, server (.post (Request.clonePath target) []
        (.record [("sourceDashboard", some (.str id))])) store = (.ok reply, after) ∧
      after.faceOf reply = ⟨name, some target, face.charts⟩ ∧
      after.resource? .group target = some relisted ∧
      group.Relisted (· ++ [.str new]) relisted ∧
      Extended target new chartIds reply store after := by
  obtain ⟨source, stored, rfl⟩ := exists_of_face? found
  obtain ⟨charts, shows⟩ : ∃ charts,
      List.Forall₂ store.Shows (source.field "charts").items charts :=
    exists_forall₂ fun entry member => exists_shows fun none =>
      whole (none ▸ List.mem_map_of_mem member)
  obtain ⟨new, ids, listing, after, answered, now, relisted, extended, copied⟩ :=
    sound.exists_cloned stored (shows.imp fun _ _ => And.left) storedGroup
  refine ⟨_, new, ids, listing, after, answered, ?_, now, relisted, extended⟩
  have copiedAfter : List.Forall₂ (fun chart id => ∃ copy,
      after.resource? .chart id = some copy ∧ copy.name? = chart.name?) charts ids := by
    refine List.forall₂_iff_zip.mpr ⟨copied.length_eq, fun {chart chartId} member => ?_⟩
    have among := List.of_mem_zip member
    obtain ⟨entry, -, shown⟩ := exists_of_forall₂_right shows among.1
    obtain ⟨_, -, atPath⟩ := shown.1
    refine ⟨_, (List.forall₂_iff_zip.mp copied).2 member, ?_⟩
    rw [Json.name?_withField (sound.isObject atPath) (by decide)]
  have nameText : (source.field "name").string? = some name :=
    (Json.string?_field source "name").trans isNamed
  rw [faceOf_dashboardDocument, map_nameAt?_copiedEntries shows copiedAfter, nameText]
  rfl

/-- A dashboard is cloned into a group of a tidy store, with copies of its charts. -/
theorem Tidy.server_clone (tidy : store.Tidy) {id target name : String} {face : Face}
    (found : store.face? id = some face) (isNamed : face.name = some name)
    (whole : none ∉ face.charts) {ids : List String} (listed : store.listed? target = some ids) :
    ∃ reply new after, server (.post (Request.clonePath target) []
        (.record [("sourceDashboard", some (.str id))])) store = (.ok reply, after) ∧
      after.Tidy ∧ reply.id? = some new ∧ store.face? new = none ∧
      after.face? = update store.face? new (some ⟨name, some target, face.charts⟩) ∧
      after.listed? = update store.listed? target (some (ids ++ [new])) ∧
      after.title? = store.title? := by
  obtain ⟨group, storedGroup, lists⟩ := tidy.grouped.exists_of_listed? listed
  obtain ⟨reply, new, chartIds, listing, after, answered, face, now, relisted, extended⟩ :=
    tidy.sound.server_clone found isNamed whole storedGroup
  have names : reply.groupId? = some target := congrArg Face.groupId face
  have sound : after.Sound := tidy.sound.of_server answered
  obtain ⟨tidyAfter, faces, lists⟩ :=
    (extended.added names storedGroup lists now relisted).tidy tidy sound
  refine ⟨reply, new, after, answered, tidyAfter, (sound.id_of_resource? extended.stored).1, ?_,
    face ▸ faces, lists⟩
  rw [face?, extended.fresh, Option.map_none]

end Store

end SignalBoard
