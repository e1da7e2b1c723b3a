/-
# Intact stores

Identifiers are written in three places: a layout names charts, a dashboard names its group, and a
group lists its dashboards. A store is intact when all of them refer to something that is there and
agree with each other, and it is told which charts are loose, that is, on no layout. Each way in
which operations change a store, from adding a dashboard to removing several with their charts,
keeps it intact; which charts are loose afterwards, and which groups dashboards name, is told along
with it.
-/

import SignalBoard.Proofs.Group.Dropped
import SignalBoard.Proofs.Reconcile.Created

namespace SignalBoard

open Function (update)

/-- The layout of a dashboard is a list of entries that each name a chart. -/
def Layout.Proper (dashboard : Json) : Prop :=
  ∃ entries, dashboard.field "charts" = .arr entries ∧ ∀ entry ∈ entries, (chartId? entry).isSome

namespace Store

variable {before between after store : Store} {id groupId : String} {ids chartIds : List String}
  {loose loose' : String → Prop} {old new dashboard group : Json}

/-- The group that the dashboard with an identifier names. -/
def home? (store : Store) (id : String) : Option String :=
  (store.resource? .dashboard id).bind Json.groupId?

theorem home?_eq (stored : store.resource? .dashboard id = some dashboard) :
    store.home? id = dashboard.groupId? := by
  rw [home?, stored, Option.bind_some]

/-- A dashboard that names a group is stored. -/
theorem exists_of_home? (home : store.home? id = some groupId) :
    ∃ dashboard, store.resource? .dashboard id = some dashboard ∧
      dashboard.groupId? = some groupId :=
  Option.bind_eq_some_iff.mp home

theorem clean_of_home? (home : store.home? id = some groupId) : '/' ∉ id.toList := by
  obtain ⟨dashboard, stored, -⟩ := exists_of_home? home
  exact clean_of_resource? stored

/-- The dashboards that were there are there, and name the groups that they named. -/
def KeepsHomes (before after : Store) : Prop :=
  ∀ id groupId, before.home? id = some groupId → after.home? id = some groupId

theorem KeepsHomes.refl (store : Store) : store.KeepsHomes store := fun _ _ home => home

theorem KeepsHomes.trans (earlier : before.KeepsHomes between) (later : between.KeepsHomes after) :
    before.KeepsHomes after :=
  fun id groupId home => later id groupId (earlier id groupId home)

theorem keepsHomes_of_eq (same : after.home? = before.home?) : before.KeepsHomes after :=
  fun id _ home => (congrFun same id).trans home

/-- A chart is on a layout. -/
def Shown (store : Store) (chartId : String) : Prop := ∃ id, chartId ∈ store.layoutOf id

section

variable (others : ∀ other, other ≠ id →
  after.resource? .dashboard other = before.resource? .dashboard other)

include others

/-- Only one dashboard may name another group than before. -/
theorem home?_of_others : after.home? = update before.home? id (after.home? id) := by
  funext other
  by_cases here : other = id
  · rw [here, Function.update_self]
  · rw [Function.update_of_ne here, home?, others other here, home?]

/-- Only one dashboard may show other charts than before. -/
theorem shown_iff_of_others (chartId : String) : after.Shown chartId ↔
    chartId ∈ after.layoutOf id ∨ ∃ other, other ≠ id ∧ chartId ∈ before.layoutOf other := by
  have layouts : ∀ other, other ≠ id → after.layoutOf other = before.layoutOf other :=
    fun other different => by rw [layoutOf, others other different, layoutOf]
  constructor
  · rintro ⟨other, member⟩
    by_cases here : other = id
    · exact .inl (here ▸ member)
    · exact .inr ⟨other, here, layouts other here ▸ member⟩
  · rintro (own | ⟨other, different, member⟩)
    · exact ⟨id, own⟩
    · exact ⟨other, (layouts other different).symm ▸ member⟩

end

namespace Extended

variable (extended : Extended groupId id chartIds dashboard before after)

include extended

theorem others (other : String) (different : other ≠ id) :
    after.resource? .dashboard other = before.resource? .dashboard other :=
  extended.elsewhere.resource?_eq (dashboards_away other different)

/-- The added dashboard shows its own charts, and every other what it showed before. -/
theorem shown_iff (chartId : String) :
    after.Shown chartId ↔ chartId ∈ chartIds ∨ before.Shown chartId := by
  have none : before.layoutOf id = [] := by rw [layoutOf, extended.fresh]; rfl
  rw [shown_iff_of_others extended.others, layoutOf_eq extended.stored, extended.layout,
    shown_iff_of_others (fun other _ => rfl : ∀ other, other ≠ id → _), none]
  simp

end Extended

namespace DashboardsRemoved

variable (removed : DashboardsRemoved groupId ids before after)

include removed

theorem others (other : String) (notGone : other ∉ ids) :
    after.resource? .dashboard other = before.resource? .dashboard other :=
  removed.elsewhere.resource?_eq (dashboards_away other notGone)

theorem home?_eq (other : String) :
    after.home? other = if other ∈ ids then none else before.home? other := by
  split
  case isTrue gone => rw [home?, removed.gone other gone, Option.bind_none]
  case isFalse notGone => rw [home?, removed.others other notGone, home?]

/-- What the removed dashboards showed is on no layout any more. -/
theorem shown_iff (consistent : before.Consistent) (chartId : String) :
    after.Shown chartId ↔ before.Shown chartId ∧ chartId ∉ ids.flatMap before.layoutOf := by
  have layouts : ∀ other, other ∉ ids → after.layoutOf other = before.layoutOf other :=
    fun other notGone => by rw [layoutOf, removed.others other notGone, layoutOf]
  constructor
  · rintro ⟨other, member⟩
    have notGone : other ∉ ids := by
      intro gone
      rw [layoutOf, removed.gone other gone] at member
      cases member
    rw [layouts other notGone] at member
    refine ⟨⟨other, member⟩, fun own => ?_⟩
    obtain ⟨id, gone, there⟩ := List.mem_flatMap.mp own
    exact notGone (consistent.eq_of_layoutOf there member ▸ gone)
  · rintro ⟨⟨other, member⟩, notOwn⟩
    refine ⟨other, (layouts other fun gone => notOwn ?_).symm ▸ member⟩
    exact List.mem_flatMap.mpr ⟨other, gone, member⟩

/-- Charts that the removed dashboards did not show are as they were. -/
theorem chart_eq {chartId : String} (notOwn : chartId ∉ ids.flatMap before.layoutOf) :
    after.resource? .chart chartId = before.resource? .chart chartId := by
  apply removed.elsewhere.resource?_eq
  rw [List.mem_cons, List.mem_append, Kind.path_mem_paths, not_or, not_or]
  exact ⟨Kind.path_ne (by decide) _ _, Kind.path_not_mem_paths (by decide) _ _, notOwn⟩

end DashboardsRemoved

/-- Layouts name stored charts, dashboards name stored groups, every group lists exactly the
dashboards that name it, and the charts that are on no layout are the loose ones. -/
structure Intact (loose : String → Prop) (store : Store) : Prop where
  sound : store.Sound
  consistent : store.Consistent
  laid : ∀ id dashboard, store.resource? .dashboard id = some dashboard → Layout.Proper dashboard
  homed : ∀ id, (store.resource? .dashboard id).isSome →
    ∃ groupId, store.home? id = some groupId ∧ (store.resource? .group groupId).isSome
  lists : ∀ groupId group, store.resource? .group groupId = some group →
    ∃ ids, group.Lists ids ∧ ∀ id, id ∈ ids ↔ store.home? id = some groupId
  loose_iff : ∀ chartId, loose chartId ↔
    (store.resource? .chart chartId).isSome ∧ ¬ store.Shown chartId

theorem intact_empty : Intact (fun _ => False) {} := by
  have none : ∀ kind id, ({} : Store).resource? kind id = none := fun kind id =>
    Option.eq_none_iff_forall_ne_some.mpr fun document stored =>
      nomatch get?_of_resource? stored
  constructor
  case sound => exact sound_empty
  case consistent =>
    constructor
    case identified => exact fun path document stored => nomatch stored
    case placed => exact fun id dashboard stored => nomatch (none _ _).symm.trans stored
    case once => exact fun id dashboard stored => nomatch (none _ _).symm.trans stored
    case apart =>
      exact fun id id' dashboard dashboard' stored => nomatch (none _ _).symm.trans stored
  case laid => exact fun id dashboard stored => nomatch (none _ _).symm.trans stored
  case homed => exact fun id isSome => by simp [none] at isSome
  case lists => exact fun groupId group stored => nomatch (none _ _).symm.trans stored
  case loose_iff => exact fun chartId => by simp [none]

namespace Intact

/-- The loose charts may be told differently. -/
theorem congr (intact : Intact loose store) (same : ∀ chartId, loose' chartId ↔ loose chartId) :
    Intact loose' store :=
  { intact with loose_iff := fun chartId => (same chartId).trans (intact.loose_iff chartId) }

/-- A group that a dashboard names is stored. -/
theorem group_of_home? (intact : Intact loose store) (home : store.home? id = some groupId) :
    (store.resource? .group groupId).isSome := by
  obtain ⟨dashboard, stored, -⟩ := exists_of_home? home
  obtain ⟨groupId', home', isSome⟩ := intact.homed id (by rw [stored]; rfl)
  rwa [Option.some.inj (home.symm.trans home')]

theorem clean_group (intact : Intact loose store) (home : store.home? id = some groupId) :
    '/' ∉ groupId.toList := by
  obtain ⟨group, stored⟩ := Option.isSome_iff_exists.mp (intact.group_of_home? home)
  exact clean_of_resource? stored

/-- A group lists the dashboards that name it. -/
theorem mem_members_iff (intact : Intact loose store)
    (stored : store.resource? .group groupId = some group) :
    id ∈ DashboardGroup.members group ↔ store.home? id = some groupId := by
  obtain ⟨ids, lists, mem_iff⟩ := intact.lists groupId group stored
  rw [lists.members]
  exact mem_iff id

/-- Dashboards and groups stay as they are, and so do charts, but for what is written in them;
charts that are added are loose. -/
theorem quiet (intact : Intact loose before) (sound : after.Sound)
    (dashboards : ∀ id, after.resource? .dashboard id = before.resource? .dashboard id)
    (groups : ∀ id, after.resource? .group id = before.resource? .group id)
    (kept : ∀ id, (before.resource? .chart id).isSome → (after.resource? .chart id).isSome) :
    ∃ loose', Intact loose' after := by
  have homes : after.home? = before.home? := funext fun id => by rw [home?, home?, dashboards]
  have layouts : after.layoutOf = before.layoutOf :=
    funext fun id => by rw [layoutOf, layoutOf, dashboards]
  refine ⟨fun chartId => (after.resource? .chart chartId).isSome ∧ ¬ after.Shown chartId, ?_⟩
  constructor
  case sound => exact sound
  case consistent =>
    constructor
    case identified => exact fun path document stored => sound.identified stored
    case placed =>
      intro id dashboard stored chartId member
      rw [dashboards] at stored
      exact kept chartId (intact.consistent.placed id dashboard stored chartId member)
    case once => simpa only [dashboards] using intact.consistent.once
    case apart => simpa only [dashboards] using intact.consistent.apart
  case laid => simpa only [dashboards] using intact.laid
  case homed => simpa only [dashboards, groups, homes] using intact.homed
  case lists => simpa only [groups, homes] using intact.lists
  case loose_iff => exact fun chartId => Iff.rfl

/-- A dashboard is added with charts of its own, and the group that it names lists it. -/
theorem extend (intact : Intact loose before)
    (extended : Extended groupId id chartIds dashboard before after) (sound : after.Sound)
    (proper : Layout.Proper dashboard) (names : dashboard.groupId? = some groupId)
    (listed : after.resource? .group groupId = some group) (lists : group.Lists ids)
    (mem_iff : ∀ other, other ∈ ids ↔ other = id ∨ before.home? other = some groupId) :
    Intact loose after ∧ after.home? = update before.home? id (some groupId) := by
  have homes : after.home? = update before.home? id (some groupId) := by
    rw [home?_of_others extended.others, home?_eq extended.stored, names]
  refine ⟨?_, homes⟩
  constructor
  case sound => exact sound
  case consistent => exact extended.consistent intact.consistent sound
  case laid =>
    intro other document stored
    by_cases here : other = id
    · rw [here, extended.stored] at stored
      exact Option.some.inj stored ▸ proper
    · rw [extended.others other here] at stored
      exact intact.laid other document stored
  case homed =>
    intro other isSome
    rw [homes]
    by_cases here : other = id
    · exact ⟨groupId, by rw [here, Function.update_self], by rw [listed]; rfl⟩
    · rw [extended.others other here] at isSome
      obtain ⟨own, home, isSome⟩ := intact.homed other isSome
      refine ⟨own, by rwa [Function.update_of_ne here], ?_⟩
      by_cases same : own = groupId
      · rw [same, listed]
        rfl
      · rwa [extended.group_eq same]
  case lists =>
    intro other document stored'
    rw [homes]
    by_cases here : other = groupId
    · subst here
      obtain rfl := Option.some.inj (listed.symm.trans stored')
      refine ⟨ids, lists, fun id' => ?_⟩
      rw [mem_iff]
      by_cases same : id' = id
      · simp [same]
      · simp [same]
    · rw [extended.group_eq here] at stored'
      obtain ⟨ids', lists', mem_iff'⟩ := intact.lists other document stored'
      refine ⟨ids', lists', fun id' => ?_⟩
      rw [mem_iff']
      by_cases same : id' = id
      · have new : before.home? id' = none := by rw [same, home?, extended.fresh, Option.bind_none]
        rw [new, same, Function.update_self]
        simp [Ne.symm here]
      · rw [Function.update_of_ne same]
  case loose_iff =>
    intro chartId
    rw [intact.loose_iff, extended.shown_iff, not_or]
    constructor
    · rintro ⟨isSome, hidden⟩
      have away := extended.not_mem_chartIds isSome
      exact ⟨by rwa [extended.elsewhere.resource?_eq (Extended.chart_away away)], away, hidden⟩
    · rintro ⟨isSome, away, hidden⟩
      rw [extended.elsewhere.resource?_eq (Extended.chart_away away)] at isSome
      exact ⟨isSome, hidden⟩

/-- A dashboard is written again with its group. The charts that are stored are those on its new
layout, and those that were stored before and were not on its old one. -/
theorem relay (intact : Intact loose before) (sound : after.Sound) (consistent : after.Consistent)
    (stored : before.resource? .dashboard id = some old)
    (now : after.resource? .dashboard id = some new)
    (others : ∀ other, other ≠ id →
      after.resource? .dashboard other = before.resource? .dashboard other)
    (groups : ∀ other, after.resource? .group other = before.resource? .group other)
    (proper : Layout.Proper new) (same : new.groupId? = old.groupId?)
    (charts : ∀ chartId, chartId ∉ Layout.chartIds new →
      ((after.resource? .chart chartId).isSome ↔
        (before.resource? .chart chartId).isSome ∧ chartId ∉ Layout.chartIds old))
    (added : ∀ chartId ∈ Layout.chartIds new, chartId ∈ Layout.chartIds old ∨
      before.resource? .chart chartId = none) :
    Intact loose after ∧ after.home? = before.home? := by
  have homes : after.home? = before.home? := by
    rw [home?_of_others others, home?_eq now, same, ← home?_eq stored, Function.update_eq_self]
  refine ⟨?_, homes⟩
  constructor
  case sound => exact sound
  case consistent => exact consistent
  case laid =>
    intro other document stored'
    by_cases here : other = id
    · rw [here, now] at stored'
      exact Option.some.inj stored' ▸ proper
    · rw [others other here] at stored'
      exact intact.laid other document stored'
  case homed =>
    intro other isSome
    simp only [homes, groups]
    refine intact.homed other ?_
    by_cases here : other = id
    · rw [here, stored]
      rfl
    · rwa [← others other here]
  case lists => simpa only [groups, homes] using intact.lists
  case loose_iff =>
    intro chartId
    rw [intact.loose_iff, shown_iff_of_others (fun other _ => rfl : ∀ other, other ≠ id → _),
      shown_iff_of_others others, layoutOf_eq stored, layoutOf_eq now]
    by_cases onNew : chartId ∈ Layout.chartIds new
    case pos =>
      refine iff_of_false ?_ fun ⟨_, hidden⟩ => hidden (.inl onNew)
      rintro ⟨isSome, hidden⟩
      refine (added chartId onNew).elim (fun onOld => hidden (.inl onOld)) fun none => ?_
      rw [none] at isSome
      cases isSome
    case neg =>
      rw [charts chartId onNew, not_or, not_or, and_assoc]
      simp only [onNew, not_false_eq_true, true_and]

/-- A group is written again and lists the dashboards that name it. -/
theorem regroup (intact : Intact loose before) (sound : after.Sound)
    (agrees : before.AgreesOff [Kind.group.path groupId] after)
    (isSome : (before.resource? .group groupId).isSome)
    (now : after.resource? .group groupId = some group) (lists : group.Lists ids)
    (mem_iff : ∀ id, id ∈ ids ↔ before.home? id = some groupId) : Intact loose after := by
  have still : ∀ kind id, kind ≠ .group → after.resource? kind id = before.resource? kind id :=
    fun kind id other => agrees.resource?_eq (by simpa using Kind.path_ne other _ _)
  have homes : after.home? = before.home? :=
    funext fun id => by rw [home?, home?, still .dashboard id (by decide)]
  have layouts : after.layoutOf = before.layoutOf :=
    funext fun id => by rw [layoutOf, layoutOf, still .dashboard id (by decide)]
  have groups : ∀ other, other ≠ groupId →
      after.resource? .group other = before.resource? .group other := fun other different =>
    agrees.resource?_eq (by simpa using fun same => different (Kind.path_inj same).2)
  constructor
  case sound => exact sound
  case consistent => exact intact.consistent.regroup sound agrees
  case laid => simpa only [still .dashboard _ (by decide)] using intact.laid
  case homed =>
    intro id stored
    rw [still .dashboard id (by decide)] at stored
    obtain ⟨own, home, isSome'⟩ := intact.homed id stored
    refine ⟨own, by rw [homes, home], ?_⟩
    by_cases here : own = groupId
    · rw [here, now]
      rfl
    · rwa [groups own here]
  case lists =>
    intro other document stored
    rw [homes]
    by_cases here : other = groupId
    · subst here
      obtain rfl := Option.some.inj (now.symm.trans stored)
      exact ⟨ids, lists, mem_iff⟩
    · rw [groups other here] at stored
      exact intact.lists other document stored
  case loose_iff =>
    intro chartId
    rw [still .chart chartId (by decide), Shown, layouts]
    exact intact.loose_iff chartId

/-- Dashboards of a group are removed, from its list or with it. Charts of theirs that are left are
loose. -/
theorem remove (intact : Intact loose before) (removed : DashboardsRemoved groupId ids before after)
    (sound : after.Sound)
    (left : ∀ new, after.resource? .group groupId = some new → ∃ old,
      before.resource? .group groupId = some old ∧ old.Relisted (Json.leaving ids) new)
    (empty : after.resource? .group groupId = none →
      ∀ id, before.home? id = some groupId → id ∈ ids) :
    Intact (fun chartId => loose chartId ∨ chartId ∈ ids.flatMap before.layoutOf ∧
        (after.resource? .chart chartId).isSome) after ∧
      ∀ id, after.home? id = if id ∈ ids then none else before.home? id := by
  have stays : ∀ other, (after.resource? .dashboard other).isSome → other ∉ ids := by
    intro other isSome gone
    rw [removed.gone other gone] at isSome
    cases isSome
  refine ⟨?_, removed.home?_eq⟩
  constructor
  case sound => exact sound
  case consistent => exact removed.consistent intact.consistent sound
  case laid =>
    intro other document stored
    rw [removed.others other (stays other (by rw [stored]; rfl))] at stored
    exact intact.laid other document stored
  case homed =>
    intro other isSome
    have notGone := stays other isSome
    rw [removed.others other notGone] at isSome
    obtain ⟨own, home, isSome⟩ := intact.homed other isSome
    refine ⟨own, by rw [removed.home?_eq, if_neg notGone, home], ?_⟩
    by_cases here : own = groupId
    · subst here
      exact Option.isSome_iff_ne_none.mpr fun none => notGone (empty none other home)
    · rwa [removed.group_eq here]
  case lists =>
    intro other document stored
    by_cases here : other = groupId
    · subst here
      obtain ⟨old, storedBefore, relisted⟩ := left document stored
      obtain ⟨list, lists, mem_iff⟩ := intact.lists other old storedBefore
      refine ⟨_, relisted.lists_leaving lists, fun id => ?_⟩
      rw [List.mem_filter, mem_iff, removed.home?_eq]
      by_cases gone : id ∈ ids <;> simp [gone]
    · rw [removed.group_eq here] at stored
      obtain ⟨list, lists, mem_iff⟩ := intact.lists other document stored
      refine ⟨list, lists, fun id => ?_⟩
      rw [mem_iff, removed.home?_eq]
      split
      case isFalse => rfl
      case isTrue gone =>
        refine iff_of_false (fun home => here ?_) nofun
        obtain ⟨dashboard, storedBefore, names⟩ := exists_of_home? home
        exact Option.some.inj (names.symm.trans
          (removed.belonged id gone _ (face?_eq storedBefore)))
  case loose_iff =>
    intro chartId
    rw [intact.loose_iff, removed.shown_iff intact.consistent]
    by_cases own : chartId ∈ ids.flatMap before.layoutOf
    case pos =>
      obtain ⟨id, -, member⟩ := List.mem_flatMap.mp own
      have shown : before.Shown chartId := ⟨id, member⟩
      simp [own, shown]
    case neg => simp [own, removed.chart_eq own]

end Intact

end Store

end SignalBoard
