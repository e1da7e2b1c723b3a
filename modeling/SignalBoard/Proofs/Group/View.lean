/-
# What groups see of a store

The faces of the dashboards and the lists of the groups of a store. A store is grouped when it is
consistent and its dashboards are filed. A change that touches some paths only leaves the faces
of all dashboards as they were that are neither kept at such a path themselves nor show a chart
that is.
-/

import SignalBoard.Proofs.Group.Filing
import SignalBoard.Proofs.Store.Consistent
import SignalBoard.Proofs.Store.Fresh
import SignalBoard.Proofs.Store.Success
import SignalBoard.Reconcile.Group

namespace SignalBoard

/-- The group that a dashboard names. -/
def Json.groupId? (document : Json) : Option String := (document.field "groupId").string?

/-- The group lists exactly these dashboards, in this order. -/
def Json.Lists (group : Json) (ids : List String) : Prop :=
  group.get? "dashboards" = some (.arr (ids.map .str))

/-- What a group lists is told from its document. -/
theorem Json.Lists.members {group : Json} {ids : List String} (lists : group.Lists ids) :
    DashboardGroup.members group = ids := by
  rw [DashboardGroup.members, field_of_get? lists]
  simp [items, items?, List.filterMap_map, Function.comp_def, string?]

namespace Store

/-- The face of a dashboard in a store. -/
def faceOf (store : Store) (dashboard : Json) : Face where
  name := dashboard.name?
  groupId := dashboard.groupId?
  charts := (dashboard.field "charts").items.map store.nameAt?

/-- The face of the dashboard with an identifier. -/
def face? (store : Store) (id : String) : Option Face :=
  (store.resource? .dashboard id).map store.faceOf

/-- The dashboards that the group with an identifier lists. -/
def listed? (store : Store) (groupId : String) : Option (List String) :=
  (store.resource? .group groupId).map DashboardGroup.members

/-- The name of the group with an identifier. -/
def title? (store : Store) (groupId : String) : Option String :=
  (store.resource? .group groupId).bind Json.name?

/-- A consistent store in which every dashboard names a stored group and every group lists, once
each, exactly the dashboards that name it. -/
structure Grouped (store : Store) : Prop where
  consistent : store.Consistent
  lists : ∀ groupId group, store.resource? .group groupId = some group → ∃ ids, group.Lists ids
  filed : Filed store.face? store.listed?

variable {before after : Store} {paths : List String}

/-- A dashboard with a face is stored. -/
theorem exists_of_face? {store : Store} {id : String} {face : Face}
    (found : store.face? id = some face) :
    ∃ dashboard, store.resource? .dashboard id = some dashboard ∧
      store.faceOf dashboard = face := by
  obtain ⟨dashboard, stored, same⟩ := Option.map_eq_some_iff.mp found
  exact ⟨dashboard, stored, same⟩

theorem face?_eq {store : Store} {id : String} {dashboard : Json}
    (stored : store.resource? .dashboard id = some dashboard) :
    store.face? id = some (store.faceOf dashboard) := by
  rw [face?, stored, Option.map_some]

/-- A group with a list is stored. -/
theorem Grouped.exists_of_listed? {store : Store} (grouped : store.Grouped) {groupId : String}
    {ids : List String} (found : store.listed? groupId = some ids) :
    ∃ group, store.resource? .group groupId = some group ∧ group.Lists ids := by
  obtain ⟨group, stored, same⟩ := Option.map_eq_some_iff.mp found
  obtain ⟨others, lists⟩ := grouped.lists groupId group stored
  rw [lists.members] at same
  exact ⟨group, stored, same ▸ lists⟩

theorem listed?_eq {store : Store} {groupId : String} {group : Json} {ids : List String}
    (stored : store.resource? .group groupId = some group) (lists : group.Lists ids) :
    store.listed? groupId = some ids := by
  rw [listed?, stored, Option.map_some, lists.members]

theorem title?_eq {store : Store} {groupId : String} {group : Json}
    (stored : store.resource? .group groupId = some group) :
    store.title? groupId = group.name? := by
  rw [title?, stored, Option.bind_some]

/-- A name that identifies a group is the name of no other. -/
theorem Sound.eq_of_title? {store : Store} (sound : store.Sound) {name target : String}
    {remote : Json} (alone : store.named .group name = [remote])
    (stored : store.resource? .group target = some remote) {groupId : String}
    (titled : store.title? groupId = some name) : groupId = target := by
  obtain ⟨other, stored', isNamed⟩ := Option.bind_eq_some_iff.mp titled
  exact sound.eq_of_named alone stored stored' isNamed

/-- Whether a sound store is grouped can be told from its dashboards and its groups. -/
theorem Sound.grouped {store : Store} (sound : store.Sound) (consistent : store.Consistent)
    (lists : ∀ group ∈ store.under Kind.group.endpoint,
      group.get? "dashboards" = some (.arr ((DashboardGroup.members group).map .str)) ∧
        (DashboardGroup.members group).Nodup ∧ ∀ id ∈ DashboardGroup.members group,
          (store.resource? .dashboard id).map Json.groupId? = some group.id?)
    (belongs : ∀ dashboard ∈ store.under Kind.dashboard.endpoint,
      ∃ ids ∈ dashboard.groupId?.bind store.listed?, ∃ id ∈ dashboard.id?, id ∈ ids) :
    store.Grouped := by
  have members : ∀ groupId ids, store.listed? groupId = some ids → ids.Nodup ∧
      ∀ id ∈ ids, (store.resource? .dashboard id).map Json.groupId? = some (some groupId) := by
    intro groupId ids listed
    obtain ⟨group, stored, rfl⟩ := Option.map_eq_some_iff.mp listed
    have known := lists group ((mem_under_iff sound.ordered ..).mpr ⟨groupId, stored⟩)
    rw [(sound.id_of_resource? stored).1] at known
    exact known.2
  have listing : ∀ id face, store.face? id = some face →
      ∃ groupId ids, face.groupId = some groupId ∧ store.listed? groupId = some ids ∧ id ∈ ids := by
    intro id face found
    obtain ⟨dashboard, stored, rfl⟩ := exists_of_face? found
    obtain ⟨ids, listed, own, identified, member⟩ :=
      belongs dashboard ((mem_under_iff sound.ordered ..).mpr ⟨id, stored⟩)
    obtain ⟨groupId, names, listed⟩ := Option.bind_eq_some_iff.mp listed
    rw [(sound.id_of_resource? stored).1] at identified
    obtain rfl := Option.some.inj identified
    exact ⟨groupId, ids, names, listed, member⟩
  refine ⟨consistent, fun groupId group stored => ?_, ?_⟩
  · exact ⟨_, (lists group ((mem_under_iff sound.ordered ..).mpr ⟨groupId, stored⟩)).1⟩
  constructor
  case belongs =>
    intro id face found
    obtain ⟨groupId, ids, names, listed, -⟩ := listing id face found
    exact ⟨groupId, names, listed ▸ rfl⟩
  case once => exact fun groupId ids listed => (members groupId ids listed).1
  case mem_iff =>
    intro groupId ids listed id
    constructor
    · intro member
      obtain ⟨dashboard, stored, names⟩ :=
        Option.map_eq_some_iff.mp ((members groupId ids listed).2 id member)
      exact ⟨_, face?_eq stored, names⟩
    · rintro ⟨face, found, names⟩
      obtain ⟨own, ids', names', listed', member⟩ := listing id face found
      obtain rfl := Option.some.inj (names.symm.trans names')
      obtain rfl := Option.some.inj (listed.symm.trans listed')
      exact member

namespace AgreesOff

/-- A resource away from what was touched. -/
theorem resource?_eq (agrees : AgreesOff paths before after) {kind : Kind} {id : String}
    (away : kind.path id ∉ paths) : after.resource? kind id = before.resource? kind id :=
  resource?_congr (agrees _ away)

/-- The name of a chart away from what was touched. -/
theorem nameAt?_eq (agrees : AgreesOff paths before after) {entry : Json}
    (away : ∀ chartId, Layout.chartId? entry = some chartId → Kind.chart.path chartId ∉ paths) :
    after.nameAt? entry = before.nameAt? entry := by
  cases names : Layout.chartId? entry with
  | none => simp [nameAt?, names]
  | some chartId => simp [nameAt?, names, agrees.resource?_eq (away chartId names)]

/-- A document whose charts are away from what was touched has the same face. -/
theorem faceOf_eq (agrees : AgreesOff paths before after) {dashboard : Json}
    (away : ∀ chartId ∈ Layout.chartIds dashboard, Kind.chart.path chartId ∉ paths) :
    after.faceOf dashboard = before.faceOf dashboard := by
  have charts : (dashboard.field "charts").items.map after.nameAt? =
      (dashboard.field "charts").items.map before.nameAt? :=
    List.map_congr_left fun entry member => agrees.nameAt?_eq fun chartId names =>
      away chartId (List.mem_filterMap.mpr ⟨entry, member, names⟩)
  rw [faceOf, faceOf, charts]

/-- A dashboard away from what was touched, with its charts, has the same face. -/
theorem face?_eq (agrees : AgreesOff paths before after) {id : String}
    (away : Kind.dashboard.path id ∉ paths)
    (awayCharts : ∀ chartId ∈ before.layoutOf id, Kind.chart.path chartId ∉ paths) :
    after.face? id = before.face? id := by
  rw [face?, face?, agrees.resource?_eq away]
  cases stored : before.resource? .dashboard id with
  | none => rfl
  | some dashboard =>
      rw [layoutOf_eq stored] at awayCharts
      rw [Option.map_some, Option.map_some, agrees.faceOf_eq awayCharts]

/-- A group away from what was touched lists the same dashboards. -/
theorem listed?_eq (agrees : AgreesOff paths before after) {groupId : String}
    (away : Kind.group.path groupId ∉ paths) :
    after.listed? groupId = before.listed? groupId := by
  rw [listed?, listed?, agrees.resource?_eq away]

/-- The groups of a store have the same names when the one that was touched has. -/
theorem title?_eq_of_ne (agrees : AgreesOff paths before after) {groupId : String}
    (groups : ∀ other, other ≠ groupId → Kind.group.path other ∉ paths)
    (own : after.title? groupId = before.title? groupId) : after.title? = before.title? := by
  funext other
  by_cases here : other = groupId
  · rw [here, own]
  · rw [title?, title?, agrees.resource?_eq (groups other here)]

end AgreesOff

end Store

end SignalBoard
