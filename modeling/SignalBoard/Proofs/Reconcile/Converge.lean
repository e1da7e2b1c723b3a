/-
# An update converges

However the charts of a stored dashboard and the local ones overlap, an update makes them the
same: after it the layout shows exactly the local names, each once. What was there under a local
name keeps its place and its identifier, what was missing is added below, and what has no local
name is gone. The operation promises more than its loops can do by themselves, namely that the
two lists are matched by the same names throughout; here the names that the loops compare are
tied to the names that are stored.
-/

import SignalBoard.Proofs.Reconcile.Dashboard
import SignalBoard.Proofs.Store.Consistent

namespace SignalBoard

/-- The charts that the entries of a layout name are those of its entries that name one. -/
theorem Layout.filterMap_entries (remote : Json) :
    (Layout.entries remote).filterMap Layout.chartId? = Layout.chartIds remote := by
  rw [Layout.entries, List.filterMap_filter, Layout.chartIds]
  refine List.filterMap_congr fun entry _ => ?_
  cases Layout.chartId? entry <;> rfl

theorem Layout.chartId?_added (chartId : String) (row : UInt64) :
    Layout.chartId? (Layout.added chartId row) = some chartId := by
  rw [Layout.chartId?, Layout.added, Json.get?_record (by simp)]
  simp [Table.get?, Json.string?]

/-- Added entries name the charts they are added for. -/
theorem Layout.filterMap_stacked (ids : List String) (row : UInt64) :
    (Layout.stacked ids row).filterMap Layout.chartId? = ids := by
  induction ids generalizing row with
  | nil => rfl
  | cons id rest ih =>
      rw [Layout.stacked, List.filterMap_cons_some (Layout.chartId?_added id row), ih]

/-- What relates a list to the charts of added entries relates it to the entries. -/
theorem Layout.forall₂_stacked {α : Type} {related : α → String → Prop} {items : List α}
    {ids : List String} (each : List.Forall₂ related items ids) (row : UInt64) :
    List.Forall₂ (fun item entry => ∃ id, Layout.chartId? entry = some id ∧ related item id)
      items (Layout.stacked ids row) := by
  induction each generalizing row with
  | nil => exact .nil
  | @cons item id items ids here _ ih =>
      exact .cons ⟨id, Layout.chartId?_added id row, here⟩ (ih (row + Layout.addedHeight))

/-- A layout that names stored charts, each of them once, can be reconciled. -/
theorem Store.Sound.placeable {store : Store} (sound : store.Sound) {remote : Json}
    (once : (Layout.chartIds remote).Nodup)
    (placed : ∀ chartId ∈ Layout.chartIds remote, (store.resource? .chart chartId).isSome) :
    Dashboard.Placeable store (Layout.entries remote) where
  once := by rwa [Layout.filterMap_entries]
  named := fun entry member => (List.mem_filter.mp member).2
  stored := by
    intro chartId member
    rw [Layout.filterMap_entries] at member
    obtain ⟨chart, found⟩ := Option.isSome_iff_exists.mp (placed chartId member)
    exact ⟨chart, Store.get?_of_resource? found, (sound.id_of_resource? found).1⟩

/-- The layout of a stored dashboard of a consistent store can be reconciled. -/
theorem Store.Consistent.placeable {store : Store} (consistent : store.Consistent)
    (sound : store.Sound) {id : String} {remote : Json}
    (stored : store.resource? .dashboard id = some remote) :
    Dashboard.Placeable store (Layout.entries remote) :=
  sound.placeable (consistent.once id remote stored) (consistent.placed id remote stored)

namespace Dashboard

variable {answer : Question → Bool} {dashboard : Dashboard} {store : Store}

/-- The entries of a stored layout whose chart has the name of a local one. -/
def matched (dashboard : Dashboard) (store : Store) (remote : Json) : List Json :=
  (remote.field "charts").items.filter fun entry =>
    (store.nameAt? entry).any (dashboard.charts.map (·.name)).contains

/-- The local charts whose name no chart of a stored layout has. -/
def unmatched (dashboard : Dashboard) (store : Store) (remote : Json) : List Chart :=
  dashboard.charts.filter fun chart =>
    some chart.name ∉ (remote.field "charts").items.map store.nameAt?

/-- The stored dashboard is the local one, and nothing but its charts and itself has changed.
The layout is the matched entries and then the added ones. -/
structure Converged (dashboard : Dashboard) (overrides : Overrides) (before after : Store)
    (id : String) (remote reply : Json) (added : List Json) : Prop where
  /-- The old document is written back with its new layout, under the settings of the dashboard
  and the overrides. -/
  stored : after.resource? .dashboard id = some reply
  document : reply = (overrides.applied (dashboard.withSettings (remote.withField "charts"
    (.arr (dashboard.matched before remote ++ added))))).withField "id" (.str id)
  layout : reply.field "charts" = .arr (dashboard.matched before remote ++ added)
  /-- One entry for every missing chart, in order; the chart has an identifier that no resource
  had. -/
  created : List.Forall₂ (fun chart entry => ∃ chartId, Layout.chartId? entry = some chartId ∧
    (∀ kind, before.resource? kind chartId = none) ∧
    after.resource? .chart chartId = some (chart.storedAs chartId))
    (dashboard.unmatched before remote) added
  /-- A matched chart keeps its identifier and gets the fields of its local chart. -/
  revised : ∀ entry ∈ dashboard.matched before remote, ∃ chartId old, ∃ chart ∈ dashboard.charts,
    Layout.chartId? entry = some chartId ∧ before.resource? .chart chartId = some old ∧
    old.name? = some chart.name ∧
    after.resource? .chart chartId = some (chart.revise chartId old)
  names : ((dashboard.matched before remote ++ added).map after.nameAt?).Perm
    (dashboard.charts.map fun chart => some chart.name)
  /-- A chart without a local name is gone. -/
  gone : ∀ entry ∈ (remote.field "charts").items, entry ∉ dashboard.matched before remote →
    ∀ chartId, Layout.chartId? entry = some chartId →
    after.documents.get? (Kind.chart.path chartId) = none
  elsewhere : ∀ path, path ≠ Kind.dashboard.path id →
    (∀ chartId, chartId ∈ Layout.chartIds remote ∨ chartId ∈ Layout.chartIds reply →
      path ≠ Kind.chart.path chartId) →
    after.documents.get? path = before.documents.get? path
  consistent : after.Consistent

/-- Local charts have names that are not empty. -/
theorem empty_not_mem_names (valid : dashboard.check = .ok ()) :
    "" ∉ dashboard.charts.map (·.name) := by
  intro member
  obtain ⟨chart, member, empty⟩ := List.mem_map.mp member
  exact Chart.name_ne_empty (check_charts valid chart member) empty

/-- The name compared for an entry is the stored one, or empty. -/
theorem placed_name (consistent : store.Consistent) {id : String} {remote : Json}
    (stored : store.resource? .dashboard id = some remote) {entry : Json}
    (member : entry ∈ Layout.entries remote) :
    (store.placed entry).name = (store.nameAt? entry).getD "" := by
  obtain ⟨chartId, names⟩ := Option.isSome_iff_exists.mp (List.mem_filter.mp member).2
  have named : chartId ∈ Layout.chartIds remote :=
    List.mem_filterMap.mpr ⟨entry, (List.mem_filter.mp member).1, names⟩
  obtain ⟨chart, found⟩ :=
    Option.isSome_iff_exists.mp (consistent.placed id remote stored chartId named)
  rw [Store.nameAt?_eq names found]
  simp [Store.placed, names, Store.get?_of_resource? found]

/-- The entries that a reconciliation keeps are those whose chart has a local name. -/
theorem kept_eq_matched (valid : dashboard.check = .ok ()) (consistent : store.Consistent)
    {id : String} {remote : Json} (stored : store.resource? .dashboard id = some remote) :
    dashboard.kept store (Layout.entries remote) = dashboard.matched store remote := by
  have compared : dashboard.kept store (Layout.entries remote) =
      (Layout.entries remote).filter fun entry =>
        (store.nameAt? entry).any (dashboard.charts.map (·.name)).contains := by
    refine List.filter_congr fun entry member => ?_
    rw [placed_name consistent stored member, Bool.eq_iff_iff, chartNamed?_isSome_iff]
    cases store.nameAt? entry with
    | none => simpa using empty_not_mem_names valid
    | some name => simp
  rw [compared, Layout.entries, List.filter_filter, matched]
  refine List.filter_congr fun entry _ => ?_
  cases names : Layout.chartId? entry with
  | none => simp [Store.nameAt?, names]
  | some chartId => simp

/-- The charts that a reconciliation adds are those whose name no stored chart has. -/
theorem absent_eq_unmatched (valid : dashboard.check = .ok ()) (consistent : store.Consistent)
    {id : String} {remote : Json} (stored : store.resource? .dashboard id = some remote) :
    dashboard.absent store (Layout.entries remote) = dashboard.unmatched store remote := by
  refine List.filter_congr fun chart member => ?_
  have filled := Chart.name_ne_empty (check_charts valid chart member)
  rw [Bool.eq_iff_iff]
  simp only [Bool.not_eq_true', List.any_eq_false, decide_eq_true_eq, List.mem_map]
  constructor
  · rintro different ⟨entry, member', same⟩
    have names : (Layout.chartId? entry).isSome := by
      cases held : Layout.chartId? entry with
      | none => simp [Store.nameAt?, held] at same
      | some chartId => rfl
    have among : entry ∈ Layout.entries remote := List.mem_filter.mpr ⟨member', names⟩
    refine different (store.placed entry) ⟨entry, among, rfl⟩ ?_
    rw [placed_name consistent stored among, same]
    rfl
  · rintro different _ ⟨entry, member', rfl⟩ same
    rw [placed_name consistent stored member'] at same
    cases named : store.nameAt? entry with
    | none => exact filled (by simpa [named] using same.symm)
    | some name =>
        refine different ⟨entry, (List.mem_filter.mp member').1, ?_⟩
        rw [named, ← same, named]
        rfl

/-- An update writes a layout, settings, a name, a description and the identifier, and keeps
every other field. -/
theorem get?_updated (overrides : Overrides) (id : String) {remote : Json}
    (object : remote.isObject = true) {key : String}
    (foreign : key ∉ ["id", "name", "description", "filters", "eventOverlays",
      "selectedEventOverlays"]) :
    (dashboard.updated overrides store id remote).get? key =
      if key = "charts" then some (.arr (dashboard.relaid store (Layout.entries remote)))
      else remote.get? key := by
  simp only [List.mem_cons, List.not_mem_nil, or_false, not_or] at foreign
  obtain ⟨notId, notName, notDescription, notFilters, notOverlays, notSelected⟩ := foreign
  let laid := remote.withField "charts" (.arr (dashboard.relaid store (Layout.entries remote)))
  have laidObject : laid.isObject = true := by simpa [laid]
  have settled := isObject_withSettings dashboard laidObject
  rw [updated, Json.get?_withField (by simpa using settled), if_neg notId,
    Overrides.get?_applied overrides settled notName notDescription,
    get?_withSettings dashboard laidObject
      (by simp [notDescription, notFilters, notOverlays, notSelected]),
    Json.get?_withField object]

/-- The layout of an updated dashboard. -/
theorem charts_updated (overrides : Overrides) (id : String) {remote : Json}
    (object : remote.isObject = true) :
    (dashboard.updated overrides store id remote).field "charts" =
      .arr (dashboard.relaid store (Layout.entries remote)) :=
  Json.field_of_get? ((get?_updated overrides id object (by decide)).trans (if_pos rfl))

/-- The charts on the layout of an updated dashboard: those kept, then those added. -/
theorem chartIds_updated (overrides : Overrides) (id : String) {remote : Json}
    (object : remote.isObject = true) :
    Layout.chartIds (dashboard.updated overrides store id remote) =
      (dashboard.kept store (Layout.entries remote)).filterMap Layout.chartId? ++
        store.freshIds (dashboard.absent store (Layout.entries remote)).length := by
  rw [Layout.chartIds, charts_updated overrides id object]
  change List.filterMap Layout.chartId? (dashboard.relaid store (Layout.entries remote)) = _
  rw [relaid, List.filterMap_append, Layout.filterMap_stacked]

/-- The layout of an updated dashboard names no chart twice. -/
theorem Placeable.nodup_updated {remote : Json}
    (placeable : Placeable store (Layout.entries remote)) (sound : store.Sound)
    (object : remote.isObject = true) (overrides : Overrides) (id : String) :
    (Layout.chartIds (dashboard.updated overrides store id remote)).Nodup := by
  rw [chartIds_updated overrides id object, List.nodup_append]
  refine ⟨placeable.once.sublist (List.filter_sublist.filterMap _), store.nodup_freshIds _, ?_⟩
  rintro chartId kept _ fresh rfl
  obtain ⟨chart, found, -⟩ :=
    placeable.stored chartId ((List.filter_sublist.filterMap _).subset kept)
  exact Store.not_mem_freshIds sound found _ fresh

namespace Reconciled

variable {remote : Json} {id : String} {between : Store}

/-- A kept chart is stored again, revised. -/
theorem revised_kept (reconciled : dashboard.Reconciled (Layout.entries remote) store between)
    (placeable : Placeable store (Layout.entries remote)) {entry : Json}
    (member : entry ∈ dashboard.kept store (Layout.entries remote)) :
    ∃ chartId old, ∃ chart ∈ dashboard.charts, Layout.chartId? entry = some chartId ∧
      store.documents.get? (Kind.chart.path chartId) = some old ∧
      (store.placed entry).name = chart.name ∧
      between.documents.get? (Kind.chart.path chartId) = some (chart.revise chartId old) := by
  obtain ⟨among, isNamed⟩ := List.mem_filter.mp member
  obtain ⟨chart, found⟩ := Option.isSome_iff_exists.mp isNamed
  obtain ⟨old, stored, -⟩ := placeable.stored _ (placeable.mem_ids among)
  obtain ⟨isLocal, same⟩ := mem_of_chartNamed? found
  exact ⟨_, old, chart, isLocal, placeable.chartId?_eq among, stored, same.symm,
    reconciled.revised entry among chart found old stored⟩

/-- Every added chart is stored. -/
theorem created_stored (reconciled : dashboard.Reconciled (Layout.entries remote) store between)
    {chartId : String}
    (member : chartId ∈ store.freshIds (dashboard.absent store (Layout.entries remote)).length) :
    ∃ chart : Chart,
      between.documents.get? (Kind.chart.path chartId) = some (chart.storedAs chartId) := by
  obtain ⟨place, inside, rfl⟩ := List.mem_iff_getElem.mp member
  have lengths := reconciled.created.length_eq
  exact ⟨_, (List.forall₂_iff_get.mp reconciled.created).2 place (by omega) inside⟩

/-- Writing the dashboard last leaves the charts as the reconciliation left them. -/
theorem resource?_chart_set {id chartId : String} (clean : '/' ∉ chartId.toList)
    (between : Store) (document : Json) :
    (between.set (Kind.dashboard.path id) document).resource? .chart chartId =
      between.documents.get? (Kind.chart.path chartId) := by
  rw [Store.resource?_of_clean clean, Store.get?_set, if_neg (Kind.path_ne (by decide) _ _)]

/-- An update leaves the other dashboards alone. -/
theorem resource?_dashboard_set
    (reconciled : dashboard.Reconciled (Layout.entries remote) store between) {id' : String}
    (different : id' ≠ id) (document : Json) :
    (between.set (Kind.dashboard.path id) document).resource? .dashboard id' =
      store.resource? .dashboard id' := by
  refine Store.resource?_congr ?_
  rw [Store.get?_set, if_neg fun same => different (Kind.path_inj same).2,
    reconciled.elsewhere _ (Kind.path_not_mem_paths (by decide) id' _)]

/-- Every added chart is stored under an identifier that no resource had. -/
theorem created_fresh (reconciled : dashboard.Reconciled (Layout.entries remote) store between)
    (sound : store.Sound) (id : String) (document : Json) :
    List.Forall₂ (fun chart chartId => (∀ kind, store.resource? kind chartId = none) ∧
      (between.set (Kind.dashboard.path id) document).resource? .chart chartId =
        some (chart.storedAs chartId))
      (dashboard.absent store (Layout.entries remote))
      (store.freshIds (dashboard.absent store (Layout.entries remote)).length) := by
  refine List.forall₂_iff_zip.mpr ⟨reconciled.created.length_eq, fun {chart chartId} member => ?_⟩
  have fresh := (List.of_mem_zip member).2
  refine ⟨sound.resource?_of_mem_freshIds fresh, ?_⟩
  rw [resource?_chart_set (Store.clean_of_mem_freshIds fresh)]
  exact (List.forall₂_iff_zip.mp reconciled.created).2 member

/-- A matched chart is revised by the local chart of its name. -/
theorem revised_matched (reconciled : dashboard.Reconciled (Layout.entries remote) store between)
    (valid : dashboard.check = .ok ()) (sound : store.Sound) (consistent : store.Consistent)
    (stored : store.resource? .dashboard id = some remote) (document : Json) {entry : Json}
    (member : entry ∈ dashboard.matched store remote) :
    ∃ chartId old, ∃ chart ∈ dashboard.charts, Layout.chartId? entry = some chartId ∧
      store.resource? .chart chartId = some old ∧ old.name? = some chart.name ∧
      (between.set (Kind.dashboard.path id) document).resource? .chart chartId =
        some (chart.revise chartId old) := by
  have placeable := consistent.placeable sound stored
  rw [← kept_eq_matched valid consistent stored] at member
  have among := (List.mem_filter.mp member).1
  obtain ⟨chartId, old, chart, isLocal, names, atPath, same, now⟩ :=
    reconciled.revised_kept placeable member
  have mine : chartId ∈ Layout.chartIds remote := by
    rw [← Layout.filterMap_entries]
    exact List.mem_filterMap.mpr ⟨entry, among, names⟩
  obtain ⟨old', found⟩ :=
    Option.isSome_iff_exists.mp (consistent.placed id remote stored chartId mine)
  obtain rfl := Option.some.inj (atPath.symm.trans (Store.get?_of_resource? found))
  refine ⟨chartId, old, chart, isLocal, names, found, ?_, ?_⟩
  · rw [placed_name consistent stored among, Store.nameAt?_eq names found] at same
    have filled := Chart.name_ne_empty (check_charts valid chart isLocal)
    cases isNamed : old.name? with
    | none => exact absurd (by simpa [isNamed] using same.symm) filled
    | some name => simpa [isNamed] using same
  · rw [resource?_chart_set (Store.clean_of_resource? found), now]

/-- An update keeps a store consistent. -/
theorem consistent_set
    (reconciled : dashboard.Reconciled (Layout.entries remote) store between)
    (sound : store.Sound) (consistent : store.Consistent)
    (stored : store.resource? .dashboard id = some remote) (overrides : Overrides)
    (soundAfter : (between.set (Kind.dashboard.path id)
      (dashboard.updated overrides store id remote)).Sound) :
    (between.set (Kind.dashboard.path id)
      (dashboard.updated overrides store id remote)).Consistent := by
  have object := sound.isObject (Store.get?_of_resource? stored)
  have placeable := consistent.placeable sound stored
  have cleanId : '/' ∉ id.toList := Store.clean_of_resource? stored
  have own : (between.set (Kind.dashboard.path id)
      (dashboard.updated overrides store id remote)).layoutOf id =
      Layout.chartIds (dashboard.updated overrides store id remote) :=
    Store.layoutOf_eq (by rw [Store.resource?_of_clean cleanId, Store.get?_set, if_pos rfl])
  have keptIds : ((dashboard.kept store (Layout.entries remote)).filterMap
      Layout.chartId?).Sublist (Layout.chartIds remote) := by
    rw [← Layout.filterMap_entries]
    exact List.filter_sublist.filterMap _
  have notFresh : ∀ chartId, (store.resource? .chart chartId).isSome → ∀ count,
      chartId ∉ store.freshIds count := by
    intro chartId there count
    obtain ⟨chart, found⟩ := Option.isSome_iff_exists.mp there
    exact Store.not_mem_freshIds sound (Store.get?_of_resource? found) count
  refine consistent.of_change soundAfter id ?_ ?_ ?_ ?_
  · intro id' other different found
    rw [reconciled.resource?_dashboard_set different] at found
    exact ⟨other, found, rfl⟩
  · intro chartId there notOwn
    obtain ⟨chart, found⟩ := Option.isSome_iff_exists.mp there
    rw [resource?_chart_set (Store.clean_of_resource? found), reconciled.elsewhere,
      Store.get?_of_resource? found]
    · rfl
    · rw [Kind.path_mem_paths, List.mem_append, not_or, Layout.filterMap_entries]
      exact ⟨by rwa [← Store.layoutOf_eq stored], notFresh chartId there _⟩
  · rw [own]
    exact placeable.nodup_updated sound object overrides id
  · intro chartId member
    rw [own, chartIds_updated overrides id object, List.mem_append] at member
    rw [Store.layoutOf_eq stored]
    rcases member with old | fresh
    · have mine := keptIds.subset old
      obtain ⟨chart, found⟩ :=
        Option.isSome_iff_exists.mp (consistent.placed id remote stored chartId mine)
      obtain ⟨entry, member, names⟩ := List.mem_filterMap.mp old
      obtain ⟨chartId', old, chart, -, names', -, -, now⟩ :=
        reconciled.revised_kept placeable member
      obtain rfl := Option.some.inj (names.symm.trans names')
      exact ⟨by rw [resource?_chart_set (Store.clean_of_resource? found), now]; rfl, .inl mine⟩
    · obtain ⟨chart, now⟩ := reconciled.created_stored fresh
      refine ⟨?_, .inr (sound.resource?_of_mem_freshIds fresh _)⟩
      rw [resource?_chart_set (Store.clean_of_mem_freshIds fresh), now]
      rfl

end Reconciled

/-- An entry is matched when its chart has a local name. -/
theorem mem_matched_iff {remote entry : Json} :
    entry ∈ dashboard.matched store remote ↔ entry ∈ (remote.field "charts").items ∧
      ∃ chart ∈ dashboard.charts, store.nameAt? entry = some chart.name := by
  rw [matched, List.mem_filter, Option.any_eq_true]
  simp only [List.contains_iff_mem, List.mem_map]
  constructor
  · rintro ⟨member, name, named, chart, isLocal, rfl⟩
    exact ⟨member, chart, isLocal, named⟩
  · rintro ⟨member, chart, isLocal, named⟩
    exact ⟨member, chart.name, named, chart, isLocal, rfl⟩

/-- A name is kept or missing when a local chart has it. -/
theorem mem_names_iff {remote : Json} {name : Option String} :
    name ∈ (dashboard.matched store remote).map store.nameAt? ++
        (dashboard.unmatched store remote).map (fun chart => some chart.name) ↔
      name ∈ dashboard.charts.map fun chart => some chart.name := by
  rw [List.mem_append]
  constructor
  · rintro (old | new)
    · obtain ⟨entry, member, rfl⟩ := List.mem_map.mp old
      obtain ⟨-, chart, isLocal, named⟩ := mem_matched_iff.mp member
      exact List.mem_map.mpr ⟨chart, isLocal, named.symm⟩
    · obtain ⟨chart, among, rfl⟩ := List.mem_map.mp new
      exact List.mem_map.mpr ⟨chart, (List.mem_filter.mp among).1, rfl⟩
  · intro member
    obtain ⟨chart, isLocal, rfl⟩ := List.mem_map.mp member
    by_cases there : some chart.name ∈ (remote.field "charts").items.map store.nameAt?
    · obtain ⟨entry, member', named⟩ := List.mem_map.mp there
      exact .inl (List.mem_map.mpr
        ⟨entry, mem_matched_iff.mpr ⟨member', chart, isLocal, named⟩, named⟩)
    · exact .inr (List.mem_map.mpr
        ⟨chart, List.mem_filter.mpr ⟨isLocal, by simpa using there⟩, rfl⟩)

/-- The names that are kept and those that are missing are the local ones. -/
theorem names_perm (distinct : (dashboard.charts.map (·.name)).Nodup) {remote : Json}
    (remoteDistinct : ((remote.field "charts").items.filterMap store.nameAt?).Nodup) :
    ((dashboard.matched store remote).map store.nameAt? ++
      (dashboard.unmatched store remote).map fun chart => some chart.name).Perm
      (dashboard.charts.map fun chart => some chart.name) := by
  have injective : Function.Injective (some : String → Option String) := fun _ _ => Option.some.inj
  have localDistinct : (dashboard.charts.map fun chart => some chart.name).Nodup := by
    have whole := distinct.map injective
    rwa [List.map_map] at whole
  have keptDistinct : ((dashboard.matched store remote).map store.nameAt?).Nodup := by
    have each : (dashboard.matched store remote).map store.nameAt? =
        ((dashboard.matched store remote).filterMap store.nameAt?).map some := by
      rw [List.map_filterMap, ← List.filterMap_eq_map]
      refine List.filterMap_congr fun entry member => ?_
      obtain ⟨-, chart, -, named⟩ := mem_matched_iff.mp member
      simp [named]
    rw [each]
    exact (remoteDistinct.sublist (List.filter_sublist.filterMap _)).map injective
  refine (List.perm_ext_iff_of_nodup ?_ localDistinct).mpr fun name => ?_
  · refine List.nodup_append.mpr
      ⟨keptDistinct, localDistinct.sublist (List.filter_sublist.map _), ?_⟩
    rintro name old _ new rfl
    obtain ⟨entry, member, rfl⟩ := List.mem_map.mp old
    obtain ⟨chart, among, same⟩ := List.mem_map.mp new
    have unnamed := (List.mem_filter.mp among).2
    rw [decide_eq_true_eq] at unnamed
    exact unnamed (same ▸ List.mem_map_of_mem (mem_matched_iff.mp member).1)
  · exact mem_names_iff

/-- The names on the layout afterwards, told from what was revised and what was created. -/
theorem map_nameAt?_after {before after : Store} {remote : Json} {added : List Json}
    (revised : ∀ entry ∈ dashboard.matched before remote, ∃ chartId old,
      ∃ chart ∈ dashboard.charts, Layout.chartId? entry = some chartId ∧
      before.resource? .chart chartId = some old ∧ old.name? = some chart.name ∧
      after.resource? .chart chartId = some (chart.revise chartId old))
    (created : List.Forall₂ (fun chart entry => ∃ chartId, Layout.chartId? entry = some chartId ∧
      (∀ kind, before.resource? kind chartId = none) ∧
      after.resource? .chart chartId = some (chart.storedAs chartId))
      (dashboard.unmatched before remote) added) :
    (dashboard.matched before remote ++ added).map after.nameAt? =
      (dashboard.matched before remote).map before.nameAt? ++
        (dashboard.unmatched before remote).map fun chart => some chart.name := by
  rw [List.map_append]
  congr 1
  · refine List.map_congr_left fun entry member => ?_
    obtain ⟨chartId, old, chart, -, names, found, isNamed, now⟩ := revised entry member
    rw [Store.nameAt?_eq names now, Store.nameAt?_eq names found, isNamed, chart.name?_revise]
  · have same : List.Forall₂ (· = ·)
        ((dashboard.unmatched before remote).map fun chart => some chart.name)
        (added.map after.nameAt?) := by
      rw [List.forall₂_map_left_iff, List.forall₂_map_right_iff]
      refine created.imp ?_
      rintro chart entry ⟨chartId, names, -, now⟩
      rw [Store.nameAt?_eq names now, chart.name?_storedAs]
    rw [List.forall₂_eq_eq_eq] at same
    exact same.symm

/-- In a sound store an update makes a stored dashboard the local one. -/
theorem ensures_update_of_sound (sound : store.Sound) (consistent : store.Consistent)
    (valid : dashboard.check = .ok ()) (distinct : (dashboard.charts.map (·.name)).Nodup)
    (overrides : Overrides) {id : String} {remote : Json}
    (stored : store.resource? .dashboard id = some remote)
    (isNamed : remote.name? = some dashboard.name)
    (only : ∀ id' other, store.resource? .dashboard id' = some other →
      other.name? = some dashboard.name → id' = id)
    (remoteDistinct : ((remote.field "charts").items.filterMap store.nameAt?).Nodup) :
    Plan.Ensures Store.server answer (dashboard.update overrides) store
      fun reply after => ∃ added,
        dashboard.Converged overrides store after id remote reply added := by
  have placeable := consistent.placeable sound stored
  have object := sound.isObject (Store.get?_of_resource? stored)
  have alone := Store.named_eq_singleton sound.ordered stored isNamed only
  have kept := kept_eq_matched valid consistent stored
  have absent := absent_eq_unmatched valid consistent stored
  refine ((ensures_update_stored valid sound overrides alone stored placeable).keeping
    Store.sound_server sound).mono ?_
  rintro _ _ ⟨⟨rfl, between, reconciled, rfl⟩, soundAfter⟩
  let reply := dashboard.updated overrides store id remote
  let added := Layout.stacked (store.freshIds (dashboard.unmatched store remote).length)
    (Layout.bottom (dashboard.matched store remote))
  have relaid_eq : dashboard.relaid store (Layout.entries remote) =
      dashboard.matched store remote ++ added := by
    rw [relaid, kept, absent]
  have revised := fun entry (member : entry ∈ dashboard.matched store remote) =>
    reconciled.revised_matched valid sound consistent stored reply member
  have created := Layout.forall₂_stacked (reconciled.created_fresh sound id reply)
    (Layout.bottom (dashboard.matched store remote))
  rw [absent] at created
  refine ⟨added, ?_⟩
  constructor
  case stored =>
    rw [Store.resource?_of_clean (Store.clean_of_resource? stored), Store.get?_set, if_pos rfl]
  case document => rw [updated, relaid_eq]
  case layout => rw [charts_updated overrides id object, relaid_eq]
  case created => exact created
  case revised => exact revised
  case names =>
    rw [map_nameAt?_after revised created]
    exact names_perm distinct remoteDistinct
  case gone =>
    intro entry member notMatched chartId names
    have among : entry ∈ Layout.entries remote := List.mem_filter.mpr ⟨member, by simp [names]⟩
    have placedId := placeable.chartId?_eq among
    rw [names] at placedId
    rw [Option.some.inj placedId, Store.get?_set, if_neg (Kind.path_ne (by decide) _ _)]
    refine reconciled.gone entry among (Option.not_isSome_iff_eq_none.mp fun isNamed => ?_)
    exact notMatched (kept ▸ List.mem_filter.mpr ⟨among, isNamed⟩)
  case elsewhere =>
    intro path notDashboard notChart
    rw [Store.get?_set, if_neg notDashboard, reconciled.elsewhere]
    intro touched
    obtain ⟨chartId, member, rfl⟩ := List.mem_map.mp touched
    rw [Layout.filterMap_entries, List.mem_append] at member
    refine notChart chartId (member.imp_right fun fresh => ?_) rfl
    rw [chartIds_updated overrides _ object]
    exact List.mem_append_right _ fresh
  case consistent =>
    exact reconciled.consistent_set sound consistent stored overrides soundAfter

/-- An update of a stored dashboard succeeds and makes it the local one, whichever charts are
kept, added and dropped. -/
theorem ensures_update_converged (reachable : store.Reachable) (consistent : store.Consistent)
    (valid : dashboard.check = .ok ()) (distinct : (dashboard.charts.map (·.name)).Nodup)
    (overrides : Overrides) {id : String} {remote : Json}
    (stored : store.resource? .dashboard id = some remote)
    (isNamed : remote.name? = some dashboard.name)
    (only : ∀ id' other, store.resource? .dashboard id' = some other →
      other.name? = some dashboard.name → id' = id)
    (remoteDistinct : ((remote.field "charts").items.filterMap store.nameAt?).Nodup) :
    Plan.Ensures Store.server answer (dashboard.update overrides) store
      fun reply after => ∃ added,
        dashboard.Converged overrides store after id remote reply added :=
  ensures_update_of_sound reachable.sound consistent valid distinct overrides stored isNamed only
    remoteDistinct

/-- A store with one dashboard, which shows two charts. -/
def oldStore : Store :=
  (Store.server (.post "/dashboard/simple" [("name", "board")] (.arr
    [({ name := "dropped", options := .text "x" } : Chart).document,
      ({ name := "kept", options := .text "x" } : Chart).document])) {}).2

/-- A dashboard of the same name with one of the charts and a new one. -/
def newBoard : Dashboard where
  name := "board"
  charts := [{ name := "added", options := .text "y" }, { name := "kept", options := .text "y" }]

/-- One chart kept, one added and one dropped. -/
theorem ensures_update_converged_newBoard :
    ∃ remote, oldStore.resource? .dashboard "id-4" = some remote ∧
      Plan.Ensures Store.server (fun _ => false) (newBoard.update {}) oldStore
        fun reply after => ∃ added,
          newBoard.Converged {} oldStore after "id-4" remote reply added := by
  have reachable : oldStore.Reachable := .request _ .empty
  have alone : ∀ other ∈ oldStore.under Kind.dashboard.endpoint, other.id? = some "id-4" := by
    decide +kernel
  refine ⟨_, rfl, ?_⟩
  refine ensures_update_converged reachable ?_ rfl (by decide) {} rfl (by decide +kernel) ?_
    (by decide +kernel)
  · exact reachable.sound.consistent (by decide +kernel) (by decide +kernel)
  · intro id' other stored _
    have identified := (reachable.sound.id_of_resource? stored).1
    have member := (Store.mem_under_iff reachable.sound.ordered ..).mpr ⟨id', stored⟩
    exact Option.some.inj (identified.symm.trans (alone other member))

end Dashboard

end SignalBoard
