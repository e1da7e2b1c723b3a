/-
# Dashboards removed from a store

Dashboards are removed with their charts, one from a group that stays, or all of a group together
with the group. For what is left it makes no difference which: the removed dashboards have no
face, the others have theirs, a group that is left lists what it listed but for them, and only
groups without other dashboards are gone.
-/

import SignalBoard.Proofs.Group.Change
import SignalBoard.Proofs.Group.Members

namespace SignalBoard.Store

variable {before between after : Store} {groupId id : String} {ids ids' : List String}
  {face : Face}

/-- Dashboards were removed, and with them at most their groups. -/
structure Dropped (ids : List String) (before after : Store) : Prop where
  sound : after.Sound
  consistent : after.Consistent
  faces : after.face? = fun id => if id ∈ ids then none else before.face? id
  /-- A group of none of the dashboards is as it was. -/
  groups : ∀ groupId, (∀ id ∈ ids, ∀ face, before.face? id = some face →
    face.groupId ≠ some groupId) →
    after.resource? .group groupId = before.resource? .group groupId
  /-- A group that is left lists what it listed, but for its removed dashboards. -/
  left : ∀ groupId new, after.resource? .group groupId = some new →
    ∃ old, before.resource? .group groupId = some old ∧ ∃ removed ⊆ ids,
      old.Relisted (Json.leaving removed) new ∧
      ∀ id ∈ ids, ∀ face, before.face? id = some face → face.groupId = some groupId → id ∈ removed
  /-- A group that is gone listed no others. -/
  empty : ∀ groupId old, before.resource? .group groupId = some old →
    after.resource? .group groupId = none → ∀ id ∈ DashboardGroup.members old, id ∈ ids

namespace Dropped

/-- Removing nothing. -/
theorem refl (sound : before.Sound) (consistent : before.Consistent) :
    Dropped [] before before where
  sound := sound
  consistent := consistent
  faces := by simp
  groups := fun _ _ => rfl
  left := fun _ new stored =>
    ⟨new, stored, [], List.Subset.refl _, .refl new, fun _ member => nomatch member⟩
  empty := fun _ _ stored none => nomatch stored.symm.trans none

/-- A dashboard with a face afterwards had it before and was not removed. -/
theorem face?_eq_some (dropped : Dropped ids before after) (found : after.face? id = some face) :
    id ∉ ids ∧ before.face? id = some face := by
  rw [dropped.faces] at found
  dsimp only at found
  split at found
  · cases found
  case isFalse other => exact ⟨other, found⟩

/-- A dashboard that was not removed keeps its face. -/
theorem face?_of_not_mem (dropped : Dropped ids before after) (other : id ∉ ids) :
    after.face? id = before.face? id := by
  rw [dropped.faces]
  exact if_neg other

/-- A group that is left has its name. -/
theorem title?_of_stored (dropped : Dropped ids before after) {new : Json}
    (stored : after.resource? .group groupId = some new) : before.title? groupId = new.name? := by
  obtain ⟨old, storedBefore, _, -, relisted, -⟩ := dropped.left groupId new stored
  rw [title?_eq storedBefore, ← relisted.isNamed]

/-- A group that was not there is not there. -/
theorem missing (dropped : Dropped ids before after)
    (none : before.resource? .group groupId = none) :
    after.resource? .group groupId = Option.none := by
  cases stored : after.resource? .group groupId with
  | none => rfl
  | some new =>
      obtain ⟨old, storedBefore, -⟩ := dropped.left groupId new stored
      exact nomatch none.symm.trans storedBefore

/-- Removing some dashboards and then others. -/
theorem trans (first : Dropped ids before between) (second : Dropped ids' between after) :
    Dropped (ids ++ ids') before after where
  sound := second.sound
  consistent := second.consistent
  faces := by
    rw [second.faces, first.faces]
    funext id
    by_cases here : id ∈ ids' <;> by_cases there : id ∈ ids <;> simp [here, there]
  groups := by
    intro groupId foreign
    rw [second.groups groupId ?_, first.groups groupId ?_]
    · exact fun id member => foreign id (List.mem_append_left _ member)
    · exact fun id member face found =>
        foreign id (List.mem_append_right _ member) face (first.face?_eq_some found).2
  left := by
    intro groupId new stored
    obtain ⟨mid, storedBetween, removed', subset', relisted', own'⟩ :=
      second.left groupId new stored
    obtain ⟨old, storedBefore, removed, subset, relisted, own⟩ :=
      first.left groupId mid storedBetween
    refine ⟨old, storedBefore, removed ++ removed', ?_, relisted.trans relisted', ?_⟩
    · exact List.append_subset.mpr
        ⟨List.subset_append_of_subset_left _ subset, List.subset_append_of_subset_right _ subset'⟩
    · intro id member face found names
      rw [List.mem_append]
      by_cases early : id ∈ ids
      · exact .inl (own id early face found names)
      · have late := (List.mem_append.mp member).resolve_left early
        exact .inr (own' id late face ((first.face?_of_not_mem early).trans found) names)
  empty := by
    intro groupId old stored none id member
    rw [List.mem_append]
    cases storedBetween : between.resource? .group groupId with
    | none => exact .inl (first.empty groupId old stored storedBetween id member)
    | some mid =>
        obtain ⟨old', stored', removed, subset, relisted, -⟩ :=
          first.left groupId mid storedBetween
        obtain rfl := Option.some.inj (stored.symm.trans stored')
        by_cases early : id ∈ removed
        · exact .inl (subset early)
        · exact .inr (second.empty groupId mid storedBetween none id
            (relisted.mem_iff.mpr ⟨member, early⟩))

/-- It does not matter in which order dashboards are removed. -/
theorem congr (dropped : Dropped ids before after) (same : ∀ id, id ∈ ids ↔ id ∈ ids') :
    Dropped ids' before after where
  sound := dropped.sound
  consistent := dropped.consistent
  faces := by simpa only [same] using dropped.faces
  groups := by simpa only [same] using dropped.groups
  left := by simpa only [List.subset_def, same] using dropped.left
  empty := by simpa only [same] using dropped.empty

/-- A proper list of a group in a tidy store that is left is one without the removed dashboards. -/
theorem exists_lists (dropped : Dropped ids before after) (tidy : before.Tidy) {new : Json}
    (stored : after.resource? .group groupId = some new) :
    ∃ list, before.listed? groupId = some list ∧ new.Lists (list.filter (· ∉ ids)) := by
  obtain ⟨old, storedBefore, removed, subset, relisted, own⟩ := dropped.left groupId new stored
  obtain ⟨list, lists⟩ := tidy.grouped.lists groupId old storedBefore
  have listed := listed?_eq storedBefore lists
  have same : list.filter (· ∉ ids) = list.filter (· ∉ removed) := by
    refine List.filter_congr fun id member => ?_
    obtain ⟨face, found, names⟩ := (tidy.grouped.filed.mem_iff groupId list listed id).mp member
    rw [decide_eq_decide, not_iff_not]
    exact ⟨fun gone => own id gone face found names, fun gone => subset gone⟩
  exact ⟨list, listed, same ▸ relisted.lists_leaving lists⟩

/-- Removing dashboards keeps a store tidy. -/
theorem tidy (dropped : Dropped ids before after) (tidy : before.Tidy) : after.Tidy := by
  refine ⟨dropped.sound, dropped.consistent, ?_, ?_⟩
  · intro groupId new stored
    obtain ⟨list, -, lists⟩ := dropped.exists_lists tidy stored
    exact ⟨_, lists⟩
  · rw [dropped.faces]
    refine tidy.grouped.filed.restrict ids ?_ ?_
    · intro groupId ids' listed
      obtain ⟨new, stored, rfl⟩ := Option.map_eq_some_iff.mp listed
      obtain ⟨list, listedBefore, lists⟩ := dropped.exists_lists tidy stored
      refine ⟨list, listedBefore, ?_⟩
      rw [lists.members]
      exact ⟨(tidy.grouped.filed.once groupId list listedBefore).filter _, fun id => by simp⟩
    · intro groupId list listed none
      obtain ⟨old, stored, rfl⟩ := Option.map_eq_some_iff.mp listed
      exact dropped.empty groupId old stored (Option.map_eq_none_iff.mp none)

end Dropped

/-- Dashboards of a group were removed with their charts. -/
structure DashboardsRemoved (groupId : String) (ids : List String) (before after : Store) :
    Prop where
  elsewhere : before.AgreesOff (Kind.group.path groupId :: (Kind.dashboard.paths ids ++
    Kind.chart.paths (ids.flatMap before.layoutOf))) after
  gone : ∀ id ∈ ids, after.resource? .dashboard id = none
  belonged : ∀ id ∈ ids, ∀ face, before.face? id = some face → face.groupId = some groupId

namespace DashboardsRemoved

theorem dashboards_away {charts : List String} (id : String) (other : id ∉ ids) :
    Kind.dashboard.path id ∉ Kind.group.path groupId :: (Kind.dashboard.paths ids ++
      Kind.chart.paths charts) := by
  rw [List.mem_cons, List.mem_append, not_or, not_or]
  exact ⟨Kind.path_ne (by decide) _ _, fun member => other (Kind.path_mem_paths.mp member),
    Kind.path_not_mem_paths (by decide) _ _⟩

theorem groups_away {charts : List String} (groupId' : String) (different : groupId' ≠ groupId) :
    Kind.group.path groupId' ∉ Kind.group.path groupId :: (Kind.dashboard.paths ids ++
      Kind.chart.paths charts) := by
  rw [List.mem_cons, List.mem_append, not_or, not_or]
  exact ⟨fun same => different (Kind.path_inj same).2, Kind.path_not_mem_paths (by decide) _ _,
    Kind.path_not_mem_paths (by decide) _ _⟩

/-- A chart on the layout of another dashboard was not touched. -/
theorem chart_away (consistent : before.Consistent) {id chartId : String} (other : id ∉ ids)
    (member : chartId ∈ before.layoutOf id) :
    Kind.chart.path chartId ∉ Kind.group.path groupId :: (Kind.dashboard.paths ids ++
      Kind.chart.paths (ids.flatMap before.layoutOf)) := by
  rw [List.mem_cons, List.mem_append, not_or, not_or]
  refine ⟨Kind.path_ne (by decide) _ _, Kind.path_not_mem_paths (by decide) _ _, fun among => ?_⟩
  obtain ⟨id', removed, member'⟩ := List.mem_flatMap.mp (Kind.path_mem_paths.mp among)
  obtain rfl := consistent.eq_of_layoutOf member member'
  exact other removed

variable (removed : DashboardsRemoved groupId ids before after)
include removed

/-- Removed dashboards have no face, and the others keep theirs. -/
theorem face?_eq (consistent : before.Consistent) :
    after.face? = fun id => if id ∈ ids then none else before.face? id := by
  funext id
  split
  case isTrue member => rw [face?, removed.gone id member, Option.map_none]
  case isFalse other =>
    exact removed.elsewhere.face?_eq (dashboards_away id other) fun chartId member =>
      chart_away consistent other member

/-- Removing dashboards keeps a store consistent. -/
theorem consistent (consistent : before.Consistent) (sound : after.Sound) :
    after.Consistent := by
  have stay : ∀ id dashboard, after.resource? .dashboard id = some dashboard →
      id ∉ ids ∧ before.resource? .dashboard id = some dashboard := by
    intro id dashboard stored
    by_cases member : id ∈ ids
    · rw [removed.gone id member] at stored
      cases stored
    · rw [removed.elsewhere.resource?_eq (dashboards_away id member)] at stored
      exact ⟨member, stored⟩
  constructor
  case identified => exact fun path document stored => sound.identified stored
  case placed =>
    intro id dashboard stored chartId member
    obtain ⟨other, storedBefore⟩ := stay id dashboard stored
    have onLayout : chartId ∈ before.layoutOf id := by rwa [layoutOf_eq storedBefore]
    rw [removed.elsewhere.resource?_eq (chart_away consistent other onLayout)]
    exact consistent.placed id dashboard storedBefore chartId member
  case once => exact fun id dashboard stored => consistent.once id _ (stay id dashboard stored).2
  case apart =>
    intro id id' dashboard dashboard' stored stored' different
    exact consistent.apart id id' _ _ (stay id dashboard stored).2 (stay id' dashboard' stored').2
      different

/-- The groups but one are as they were. -/
theorem group_eq {groupId' : String} (different : groupId' ≠ groupId) :
    after.resource? .group groupId' = before.resource? .group groupId' :=
  removed.elsewhere.resource?_eq (groups_away groupId' different)

/-- What became of the one group tells what was dropped. -/
theorem dropped (consistent : before.Consistent) (sound : after.Sound) (member : id ∈ ids)
    (there : before.face? id = some face)
    (left : ∀ new, after.resource? .group groupId = some new → ∃ old,
      before.resource? .group groupId = some old ∧ old.Relisted (Json.leaving ids) new)
    (empty : ∀ old, before.resource? .group groupId = some old →
      after.resource? .group groupId = none → ∀ id ∈ DashboardGroup.members old, id ∈ ids) :
    Dropped ids before after where
  sound := sound
  consistent := removed.consistent consistent sound
  faces := removed.face?_eq consistent
  groups := by
    intro groupId' foreign
    refine removed.group_eq ?_
    rintro rfl
    exact foreign id member face there (removed.belonged id member face there)
  left := by
    intro groupId' new stored
    by_cases here : groupId' = groupId
    · subst here
      obtain ⟨old, storedBefore, relisted⟩ := left new stored
      exact ⟨old, storedBefore, ids, List.Subset.refl _, relisted, fun id member _ _ _ => member⟩
    · rw [removed.group_eq here] at stored
      refine ⟨new, stored, [], List.nil_subset _, .refl new, fun id member face found names => ?_⟩
      have own := removed.belonged id member face found
      exact (here (Option.some.inj (names.symm.trans own))).elim
  empty := by
    intro groupId' old stored none
    by_cases here : groupId' = groupId
    · subst here
      exact empty old stored none
    · rw [removed.group_eq here, stored] at none
      cases none

end DashboardsRemoved

end SignalBoard.Store
