/-
# How grouped stores change

A group is added, a dashboard is added to a group, and a dashboard is written again. Each change
keeps a store grouped and is told by the faces and the lists alone.
-/

import SignalBoard.Proofs.Group.View

namespace SignalBoard.Store

open Function (update)

variable {before after : Store} {groupId id : String} {ids : List String}

/-- A sound store that is grouped. -/
structure Tidy (store : Store) : Prop where
  sound : store.Sound
  grouped : store.Grouped

/-- What is written over a resource with its identifier keeps whatever identifier it had. -/
theorem Sound.stamped_of_resource? {store : Store} (sound : store.Sound) {kind : Kind}
    {old new : Json} (stored : store.resource? kind id = some old) (stamped : new.Stamped id) :
    ∀ other, old.Stamped other → new.Stamped other := by
  intro other stampedOld
  have own := (sound.id_of_resource? stored).1
  obtain rfl := Option.some.inj (own.symm.trans stampedOld.id?_eq)
  exact stamped

/-- A chart on a layout is stored. -/
theorem Consistent.stored_of_layoutOf {store : Store} (consistent : store.Consistent)
    {chartId : String} (member : chartId ∈ store.layoutOf id) :
    (store.resource? .chart chartId).isSome := by
  cases stored : store.resource? .dashboard id with
  | none => simp [layoutOf, stored] at member
  | some dashboard =>
      rw [layoutOf_eq stored] at member
      exact consistent.placed id dashboard stored chartId member

/-- A chart is on the layout of one dashboard only. -/
theorem Consistent.eq_of_layoutOf {store : Store} (consistent : store.Consistent)
    {id id' chartId : String} (member : chartId ∈ store.layoutOf id)
    (member' : chartId ∈ store.layoutOf id') : id = id' := by
  cases stored : store.resource? .dashboard id with
  | none => simp [layoutOf, stored] at member
  | some dashboard =>
      rw [layoutOf_eq stored] at member
      by_contra different
      exact consistent.not_mem_layoutOf stored different member member'

/-- Other dashboards have the same faces when only one dashboard, charts that are on no other
layout, and groups were touched. -/
theorem AgreesOff.face?_of_ne {paths : List String} (agrees : AgreesOff paths before after)
    (dashboards : ∀ other, other ≠ id → Kind.dashboard.path other ∉ paths)
    (charts : ∀ other, other ≠ id → ∀ chartId ∈ before.layoutOf other,
      Kind.chart.path chartId ∉ paths) {face : Option Face} (own : after.face? id = face) :
    after.face? = update before.face? id face := by
  funext other
  by_cases here : other = id
  · subst here
    rw [own, Function.update_self]
  · rw [Function.update_of_ne here]
    exact agrees.face?_eq (dashboards other here) (charts other here)

/-- Other dashboards have the same faces when only one dashboard was touched, and charts that were
on its layout or are new. -/
theorem AgreesOff.face?_of_charts {chartIds : List String}
    (agrees : before.AgreesOff (Kind.dashboard.path id :: Kind.chart.paths chartIds) after)
    (consistent : before.Consistent)
    (known : ∀ chartId ∈ chartIds, chartId ∈ before.layoutOf id ∨
      before.resource? .chart chartId = none) {face : Option Face} (own : after.face? id = face) :
    after.face? = update before.face? id face := by
  refine agrees.face?_of_ne ?_ ?_ own
  · intro other different
    rw [List.mem_cons, not_or]
    exact ⟨fun same => different (Kind.path_inj same).2, Kind.path_not_mem_paths (by decide) _ _⟩
  · intro other different chartId member
    rw [List.mem_cons, not_or]
    refine ⟨Kind.path_ne (by decide) _ _, fun touched => ?_⟩
    rcases known chartId (Kind.path_mem_paths.mp touched) with mine | new
    · exact different (consistent.eq_of_layoutOf member mine)
    · have there := consistent.stored_of_layoutOf member
      rw [new] at there
      cases there

/-- Other groups list the same dashboards when only one group was touched. -/
theorem AgreesOff.listed?_of_ne {paths : List String} (agrees : AgreesOff paths before after)
    (groups : ∀ other, other ≠ groupId → Kind.group.path other ∉ paths)
    {list : Option (List String)} (own : after.listed? groupId = list) :
    after.listed? = update before.listed? groupId list := by
  funext other
  by_cases here : other = groupId
  · subst here
    rw [own, Function.update_self]
  · rw [Function.update_of_ne here]
    exact agrees.listed?_eq (groups other here)

/-- The groups of a store have lists when the group that was touched has one. -/
theorem AgreesOff.lists {paths : List String} (agrees : AgreesOff paths before after)
    (grouped : before.Grouped)
    (groups : ∀ other, other ≠ groupId → Kind.group.path other ∉ paths)
    (own : ∀ group, after.resource? .group groupId = some group → ∃ ids, group.Lists ids) :
    ∀ other group, after.resource? .group other = some group → ∃ ids, group.Lists ids := by
  intro other group stored
  by_cases here : other = groupId
  · subst here
    exact own group stored
  · rw [agrees.resource?_eq (groups other here)] at stored
    exact grouped.lists other group stored

/-- Only a group was touched. -/
theorem AgreesOff.face?_of_group (agrees : before.AgreesOff [Kind.group.path groupId] after) :
    after.face? = before.face? := by
  have others : ∀ (kind : Kind) other, kind ≠ .group →
      kind.path other ∉ [Kind.group.path groupId] := by
    intro kind other different
    simpa using Kind.path_ne different other _
  funext other
  exact agrees.face?_eq (others .dashboard other (by decide)) fun chartId _ =>
    others .chart chartId (by decide)

/-- Only one group has changed. -/
theorem Consistent.regroup (consistent : before.Consistent) (sound : after.Sound)
    (agrees : before.AgreesOff [Kind.group.path groupId] after) : after.Consistent := by
  have same : ∀ (kind : Kind) other, kind ≠ .group →
      after.resource? kind other = before.resource? kind other := by
    intro kind other different
    apply agrees.resource?_eq
    simpa using Kind.path_ne different other _
  have dashboards := fun other => same .dashboard other (by decide)
  have charts := fun other => same .chart other (by decide)
  constructor
  · exact fun path document stored => sound.identified stored
  · simpa only [dashboards, charts] using consistent.placed
  · simpa only [dashboards] using consistent.once
  · simpa only [dashboards] using consistent.apart

/-- Only the list of one group has changed. -/
theorem Tidy.regroup (tidy : before.Tidy) (sound : after.Sound)
    (agrees : before.AgreesOff [Kind.group.path groupId] after) {group : Json}
    (stored : after.resource? .group groupId = some group) (lists : group.Lists ids)
    (filed : Filed before.face? (update before.listed? groupId (some ids))) :
    after.Tidy ∧ after.face? = before.face? ∧
      after.listed? = update before.listed? groupId (some ids) := by
  have groups : ∀ other, other ≠ groupId →
      Kind.group.path other ∉ [Kind.group.path groupId] := by
    intro other different same
    exact different (Kind.path_inj (List.mem_singleton.mp same)).2
  have consistent := tidy.grouped.consistent.regroup sound agrees
  have faces := agrees.face?_of_group
  have listed := agrees.listed?_of_ne groups (listed?_eq stored lists)
  refine ⟨⟨sound, consistent, ?_, ?_⟩, faces, listed⟩
  · refine agrees.lists tidy.grouped groups fun group' stored' => ?_
    obtain rfl := Option.some.inj (stored.symm.trans stored')
    exact ⟨ids, lists⟩
  · rwa [faces, listed]

/-- A group is written again with its dashboards in another order. -/
theorem Tidy.relist (tidy : before.Tidy) {old new : Json} {list : List String}
    (stored : before.resource? .group groupId = some old) (stamped : new.Stamped groupId)
    (lists : new.Lists ids) (listed : before.listed? groupId = some list) (perm : ids.Perm list) :
    let after := before.set (Kind.group.path groupId) new
    after.Tidy ∧ after.face? = before.face? ∧
      after.listed? = update before.listed? groupId (some ids) := by
  intro after
  refine tidy.regroup ((Step.replace before (get?_of_resource? stored)
    (tidy.sound.stamped_of_resource? stored stamped)).sound tidy.sound) ?_ ?_ lists
    (tidy.grouped.filed.reorder listed perm)
  · intro path untouched
    simp only [after, get?_set]
    rw [if_neg (by simpa using untouched)]
  · rw [resource?_of_clean (clean_of_resource? stored), get?_set, if_pos rfl]

/-- A dashboard was added with charts of its own, and its group may have changed. -/
structure Extended (groupId id : String) (chartIds : List String) (dashboard : Json)
    (before after : Store) : Prop where
  elsewhere : before.AgreesOff (Kind.group.path groupId :: Kind.dashboard.path id ::
    Kind.chart.paths chartIds) after
  fresh : before.resource? .dashboard id = none
  stored : after.resource? .dashboard id = some dashboard
  layout : Layout.chartIds dashboard = chartIds
  once : chartIds.Nodup
  charts : ∀ chartId ∈ chartIds, before.resource? .chart chartId = none ∧
    (after.resource? .chart chartId).isSome

namespace Extended

variable {chartIds : List String} {dashboard : Json}

theorem dashboards_away (id' : String) (different : id' ≠ id) :
    Kind.dashboard.path id' ∉ Kind.group.path groupId :: Kind.dashboard.path id ::
      Kind.chart.paths chartIds := by
  rw [Kind.path_mem_created_iff]
  simp [different]

theorem groups_away (groupId' : String) (different : groupId' ≠ groupId) :
    Kind.group.path groupId' ∉ Kind.group.path groupId :: Kind.dashboard.path id ::
      Kind.chart.paths chartIds := by
  rw [Kind.path_mem_created_iff]
  simp [different]

theorem chart_away {chartId : String} (other : chartId ∉ chartIds) :
    Kind.chart.path chartId ∉ Kind.group.path groupId :: Kind.dashboard.path id ::
      Kind.chart.paths chartIds := by
  rw [Kind.path_mem_created_iff]
  simp [other]

/-- Charts that were stored are not among the added ones. -/
theorem not_mem_chartIds (extended : Extended groupId id chartIds dashboard before after)
    {chartId : String} (stored : (before.resource? .chart chartId).isSome) :
    chartId ∉ chartIds := by
  intro member
  rw [(extended.charts chartId member).1] at stored
  cases stored

/-- Adding a dashboard keeps a store consistent. -/
theorem consistent (extended : Extended groupId id chartIds dashboard before after)
    (consistent : before.Consistent) (sound : after.Sound) : after.Consistent := by
  have own : after.layoutOf id = chartIds := by
    rw [layoutOf_eq extended.stored, extended.layout]
  refine consistent.of_change sound id ?_ ?_ ?_ ?_
  · intro other found different stored
    rw [extended.elsewhere.resource?_eq (dashboards_away other different)] at stored
    exact ⟨found, stored, rfl⟩
  · intro chartId stored _
    rwa [extended.elsewhere.resource?_eq (chart_away (extended.not_mem_chartIds stored))]
  · rw [own]
    exact extended.once
  · intro chartId member
    rw [own] at member
    exact ⟨(extended.charts chartId member).2, .inr (extended.charts chartId member).1⟩

/-- The dashboards that were there have the faces they had. -/
theorem faces (extended : Extended groupId id chartIds dashboard before after)
    (consistent : before.Consistent) :
    after.face? = update before.face? id (some (after.faceOf dashboard)) :=
  extended.elsewhere.face?_of_ne dashboards_away
    (fun _ _ _ member => chart_away (extended.not_mem_chartIds
      (consistent.stored_of_layoutOf member))) (face?_eq extended.stored)

/-- The groups but one are as they were. -/
theorem group_eq (extended : Extended groupId id chartIds dashboard before after) {other : String}
    (different : other ≠ groupId) :
    after.resource? .group other = before.resource? .group other :=
  extended.elsewhere.resource?_eq (groups_away other different)

end Extended

/-- A dashboard with charts of its own was added to a group, which lists it last. -/
structure DashboardAdded (groupId id : String) (ids chartIds : List String) (dashboard : Json)
    (before after : Store) : Prop
    extends Extended groupId id chartIds dashboard before after where
  names : dashboard.groupId? = some groupId
  listed : before.listed? groupId = some ids
  group : ∃ group, after.resource? .group groupId = some group ∧ group.Lists (ids ++ [id]) ∧
    group.name? = before.title? groupId

/-- What adding a dashboard does to faces and lists. -/
theorem DashboardAdded.tidy {chartIds : List String} {dashboard : Json}
    (added : DashboardAdded groupId id ids chartIds dashboard before after)
    (tidy : before.Tidy) (sound : after.Sound) :
    after.Tidy ∧ after.face? = update before.face? id (some (after.faceOf dashboard)) ∧
      after.listed? = update before.listed? groupId (some (ids ++ [id])) ∧
      after.title? = before.title? := by
  obtain ⟨group, stored, lists, sameName⟩ := added.group
  have faces := added.faces tidy.grouped.consistent
  have listed := added.elsewhere.listed?_of_ne Extended.groups_away (listed?_eq stored lists)
  have titles := added.elsewhere.title?_eq_of_ne Extended.groups_away
    ((title?_eq stored).trans sameName)
  refine ⟨⟨sound, added.consistent tidy.grouped.consistent sound, ?_, ?_⟩, faces, listed, titles⟩
  · refine added.elsewhere.lists tidy.grouped Extended.groups_away fun group' stored' => ?_
    obtain rfl := Option.some.inj (stored.symm.trans stored')
    exact ⟨_, lists⟩
  · rw [faces, listed]
    refine tidy.grouped.filed.add ?_ added.listed added.names
    rw [face?, added.fresh, Option.map_none]

/-- A new group was added with one new dashboard. -/
structure Founded (groupId id : String) (face : Face) (before after : Store) : Prop where
  sound : after.Sound
  consistent : after.Consistent
  freshGroup : before.resource? .group groupId = none
  fresh : before.face? id = none
  belongs : face.groupId = some groupId
  faces : after.face? = update before.face? id (some face)
  group : ∃ group, after.resource? .group groupId = some group ∧ group.Lists [id]
  groups : ∀ other, other ≠ groupId →
    after.resource? .group other = before.resource? .group other

namespace Founded

variable {face : Face}

theorem listed (founded : Founded groupId id face before after) :
    after.listed? = update before.listed? groupId (some [id]) := by
  obtain ⟨group, stored, lists⟩ := founded.group
  funext other
  by_cases here : other = groupId
  · rw [here, Function.update_self, listed?_eq stored lists]
  · rw [Function.update_of_ne here, listed?, listed?, founded.groups other here]

/-- Adding a group with a dashboard keeps a store tidy. -/
theorem tidy (founded : Founded groupId id face before after) (tidy : before.Tidy) :
    after.Tidy := by
  refine ⟨founded.sound, founded.consistent, ?_, ?_⟩
  · intro other document stored
    by_cases here : other = groupId
    · obtain ⟨group, stored', lists⟩ := founded.group
      rw [here, stored'] at stored
      exact ⟨[id], Option.some.inj stored ▸ lists⟩
    · rw [founded.groups other here] at stored
      exact tidy.grouped.lists other document stored
  · have fresh : before.listed? groupId = none := by
      rw [listed?, founded.freshGroup, Option.map_none]
    have filed := (tidy.grouped.filed.newGroup fresh).add founded.fresh
      (Function.update_self groupId (some []) before.listed?) founded.belongs
    rw [Function.update_idem, List.nil_append] at filed
    rwa [founded.faces, founded.listed]

end Founded

end SignalBoard.Store
