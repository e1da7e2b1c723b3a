/-
# The loops over the dashboards of a group

The turns of the loops can be taken: a dashboard can be put in its place because its name says
where it is, it can be cloned because all its charts are stored, and it can be removed because it
was found. What makes the next turn possible is kept by every turn.
-/

import SignalBoard.Proofs.Group.Gather

namespace SignalBoard

/-- Local dashboards that pass their checks and are told apart by their names, as are the charts
of each. -/
structure Dashboard.Distinct (dashboards : List Dashboard) : Prop where
  valid : ∀ dashboard ∈ dashboards, dashboard.check = .ok ()
  names : (dashboards.map (·.name)).Nodup
  charts : ∀ dashboard ∈ dashboards, (dashboard.charts.map (·.name)).Nodup

/-- A tidy store with a target group, in which dashboards are placed that show all their
charts. -/
structure Store.Clonable (target : String) (placements : List Placement) (store : Store) :
    Prop where
  tidy : store.Tidy
  listed : (store.listed? target).isSome
  whole : ∀ placement ∈ placements, ∃ face, store.face? placement.dashboardId = some face ∧
    face.name.isSome ∧ none ∉ face.charts

/-- What is brought into the target group leaves the other dashboards there to be cloned. -/
theorem Store.Clonable.of_settled {target id : String} {placement : Placement}
    {placements : List Placement} {before after : Store}
    (clonable : before.Clonable target placements)
    (settled : Settled target placement id before after) (tidy : after.Tidy)
    (listed : (after.listed? target).isSome) : after.Clonable target placements where
  tidy := tidy
  listed := listed
  whole := by
    intro placement member
    obtain ⟨face, found, rest⟩ := clonable.whole placement member
    exact ⟨face, settled.keeps_face found, rest⟩

namespace DashboardGroup

open Plan (Turns)
open Store (Clonable Gathered Placed Ready Settled)

variable {answer : Question → Bool} {before store : Store} {target : String}
  {dashboards : List Dashboard} {placement : Placement} {placements : List Placement}
  {ids : List String}

/-- All dashboards are put in their places. -/
theorem ensures_placements (isLocal : Dashboard.Distinct dashboards)
    (ready : store.Ready dashboards) :
    Plan.Ensures Store.server answer (dashboards.mapM placeDashboard) store
      fun placements after => Turns Placed dashboards placements store after ∧
        after.Ready dashboards := by
  refine Plan.ensures_mapM_turns ?_ ready
  intro dashboard member between ready
  refine (Dashboard.ensures_placeDashboard ready.tidy (isLocal.valid dashboard member)
    (isLocal.charts dashboard member) (ready.findable dashboard member)).mono ?_
  intro placement after placed
  refine ⟨placed, placed.tidy, fun other member' => ?_⟩
  refine placed.findable (isLocal.charts other member') (ready.findable other member') ?_
  exact fun same => List.inj_on_of_nodup_map isLocal.names member' member same

/-- Dashboards in their places can be cloned. -/
theorem clonable_of_placements (turns : Turns Placed dashboards placements before store)
    (isLocal : Dashboard.Distinct dashboards) (ready : store.Ready dashboards)
    (listed : (store.listed? target).isSome) : store.Clonable target placements where
  tidy := ready.tidy
  listed := listed
  whole := by
    intro placement member
    obtain ⟨dashboard, -, face, found, isMatch⟩ := Store.exists_of_forall₂_right
      (Store.shown_of_placements turns isLocal.names) member
    refine ⟨face, found, isMatch.isNamed ▸ rfl, fun unnamed => ?_⟩
    obtain ⟨chart, -, same⟩ := List.mem_map.mp (isMatch.charts.subset unnamed)
    cases same

/-- A dashboard of another group is cloned into the target group. -/
theorem ensures_cloneInto (clonable : store.Clonable target placements)
    (member : placement ∈ placements) (outside : placement.groupId ≠ target) :
    Plan.Ensures Store.server answer (cloneInto target placement.dashboardId) store
      fun reply after => ∃ id, reply.id? = some id ∧ Settled target placement id store after ∧
        after.Clonable target placements := by
  obtain ⟨⟨faceName, groupId, charts⟩, found, isNamed, whole⟩ := clonable.whole placement member
  obtain ⟨name, rfl⟩ := Option.isSome_iff_exists.mp isNamed
  obtain ⟨list, listed⟩ := Option.isSome_iff_exists.mp clonable.listed
  obtain ⟨reply, id, after, answered, tidy, identified, fresh, faces, lists, titles⟩ :=
    clonable.tidy.server_clone found rfl whole listed
  have listedAfter : after.listed? target = some (list ++ [id]) := by
    rw [lists, Function.update_self]
  have settled : Settled target placement id store after :=
    .cloned outside found fresh faces listed listedAfter titles
  refine Plan.ensures_call answered (Plan.ensures_pure ⟨id, identified, settled, ?_⟩)
  exact clonable.of_settled settled tidy (listedAfter ▸ rfl)

/-- A dashboard is brought into the target group, unless it is there. -/
theorem ensures_settle (clonable : store.Clonable target placements)
    (member : placement ∈ placements) :
    Plan.Ensures Store.server answer (settle target placement) store
      fun id after => Settled target placement id store after ∧
        after.Clonable target placements := by
  unfold settle
  split
  case isTrue inside => exact Plan.ensures_pure ⟨.stays inside, clonable⟩
  case isFalse outside =>
    refine Plan.ensures_bind (ensures_cloneInto clonable member outside) ?_
    rintro reply after ⟨id, identified, settled, clonable⟩
    rw [requireId_eq identified]
    exact Plan.ensures_pure ⟨settled, clonable⟩

/-- All dashboards are brought into the target group. -/
theorem ensures_settlings (clonable : store.Clonable target placements) :
    Plan.Ensures Store.server answer (placements.mapM (settle target)) store
      fun ids after => Turns (Settled target) placements ids store after ∧
        after.Clonable target placements :=
  Plan.ensures_mapM_turns (fun _ member _ clonable => ensures_settle clonable member) clonable

/-- All dashboards are cloned into a target group that has none of them. -/
theorem ensures_clones (clonable : store.Clonable target placements)
    (outside : ∀ placement ∈ placements, placement.groupId ≠ target) :
    Plan.Ensures Store.server answer (placements.forM fun placement => do
        let _ ← cloneInto target placement.dashboardId
        return ()) store
      fun _ after => ∃ ids, Turns (Settled target) placements ids store after ∧
        after.Clonable target placements := by
  refine Plan.ensures_forM_turns (fun placement member _ clonable => ?_) clonable
  refine Plan.ensures_bind (ensures_cloneInto clonable member (outside placement member)) ?_
  rintro reply after ⟨id, -, settled, clonable⟩
  exact Plan.ensures_pure ⟨id, settled, clonable⟩

/-- The originals of all clones are removed, and the dashboards are gathered in the group. -/
theorem ensures_removeSources_gathered {placed settled : Store}
    (isLocal : Dashboard.Distinct dashboards)
    (turns : Turns Placed dashboards placements before placed) (ready : placed.Ready dashboards)
    (settlings : Turns (Settled target) placements ids placed settled) (tidy : settled.Tidy) :
    Plan.Ensures Store.server answer (removeSources target placements) settled
      fun _ after => after.Tidy ∧ after.Gathered dashboards target ids ∧
        after.resource? .group target = settled.resource? .group target := by
  have inPlace := Store.shown_of_placements turns isLocal.names
  have named : List.Forall₂ (fun dashboard id => ∃ face, placed.face? id = some face ∧
      face.name = some dashboard.name) dashboards (placements.map (·.dashboardId)) :=
    List.forall₂_map_right_iff.mpr
      (inPlace.imp fun _ _ ⟨face, found, isMatch⟩ => ⟨face, found, isMatch.isNamed⟩)
  have once := Store.nodup_of_shown named isLocal.names
  have belong : ∀ source ∈ placements, ∃ face, settled.face? source.dashboardId = some face ∧
      face.groupId = some source.groupId := by
    intro source member
    obtain ⟨dashboard, -, face, found, isMatch⟩ := Store.exists_of_forall₂_right inPlace member
    exact ⟨face, Store.face_of_settlings settlings found, isMatch.belongs⟩
  have has : ∀ source ∈ placements, source.groupId ≠ target →
      Has settled source.groupId [source.dashboardId] := by
    intro source member _ id isOne
    rw [List.mem_singleton.mp isOne]
    obtain ⟨face, found, names⟩ := belong source member
    exact ⟨face, found, names, tidy.grouped.filed.exists_listed found names⟩
  refine (ensures_removeSources tidy.sound tidy.grouped.consistent once has).mono ?_
  rintro _ after ⟨dropped, -⟩
  refine ⟨dropped.tidy tidy,
    Store.gathered_of_turns turns ready settlings dropped isLocal.names, ?_⟩
  refine dropped.groups target ?_
  intro id member face found
  obtain ⟨source, isSource, outside, rfl⟩ := mem_originals.mp member
  obtain ⟨own, found', names⟩ := belong source isSource
  obtain rfl := Option.some.inj (found.symm.trans found')
  rw [names]
  exact fun same => outside (Option.some.inj same)

end DashboardGroup

end SignalBoard
