/-
# Gathering dashboards in a group

A group comes to its dashboards in three loops: all are put in their places, those in other
groups are cloned into it, and the originals of the clones are removed. Each loop is followed
turn by turn. Placing keeps what has another name and all groups; cloning keeps every face; so
after the last removal the local names are found in the group alone, once each.
-/

import SignalBoard.Proofs.Group.Place
import SignalBoard.Proofs.Group.Sources

namespace SignalBoard

namespace Store

open Function (update)
open Plan (Turns)

variable {before between after store : Store} {id target groupId : String} {face : Face}
  {dashboard : Dashboard} {dashboards : List Dashboard} {placement : Placement}
  {placements : List Placement} {ids list : List String}

/-- The dashboards are stored in the group under the identifiers, in order, and nothing else has
one of their names. -/
structure Gathered (dashboards : List Dashboard) (groupId : String) (ids : List String)
    (store : Store) : Prop where
  shown : List.Forall₂ (fun dashboard id => ∃ face, store.face? id = some face ∧
    face.Matches dashboard groupId) dashboards ids
  only : ∀ id face, store.face? id = some face →
    face.name ∈ dashboards.map (fun dashboard => some dashboard.name) → id ∈ ids

/-- A tidy store in which every dashboard can be found by its name. -/
structure Ready (dashboards : List Dashboard) (store : Store) : Prop where
  tidy : store.Tidy
  findable : ∀ dashboard ∈ dashboards, dashboard.Findable store.face?


namespace Placed

/-- Other dashboards keep their faces. -/
theorem face?_of_ne (placed : Placed dashboard placement before after)
    (other : id ≠ placement.dashboardId) : after.face? id = before.face? id := by
  obtain ⟨face, -, faces⟩ := placed.face
  rw [faces, Function.update_of_ne other]

/-- A dashboard of another name keeps its face. -/
theorem keeps_face (placed : Placed dashboard placement before after)
    (found : before.face? id = some face) (foreign : face.name ≠ some dashboard.name) :
    after.face? id = some face := by
  rw [placed.face?_of_ne, found]
  rintro rfl
  exact foreign (placed.own face found)

/-- What was placed has its face. -/
theorem face?_self (placed : Placed dashboard placement before after) :
    ∃ face, after.face? placement.dashboardId = some face ∧
      face.Matches dashboard placement.groupId := by
  obtain ⟨face, isMatch, faces⟩ := placed.face
  exact ⟨face, by rw [faces, Function.update_self], isMatch⟩

/-- Only what was placed has the name. -/
theorem eq_of_name (placed : Placed dashboard placement before after)
    (found : after.face? id = some face) (named : face.name = some dashboard.name) :
    id = placement.dashboardId := by
  by_contra different
  rw [placed.face?_of_ne different] at found
  exact different (placed.only id face found named)

/-- Dashboards can be found after one of them was placed. -/
theorem findable (placed : Placed dashboard placement before after) {other : Dashboard}
    (distinct : (other.charts.map (·.name)).Nodup) (findable : other.Findable before.face?)
    (same : other.name = dashboard.name → other = dashboard) : other.Findable after.face? := by
  by_cases names : other.name = dashboard.name
  case pos =>
    obtain rfl := same names
    constructor
    case only =>
      intro id id' face face' found found' named named'
      rw [placed.eq_of_name found named, placed.eq_of_name found' named']
    case distinct =>
      intro id face found named
      obtain rfl := placed.eq_of_name found named
      obtain ⟨own, there, isMatch⟩ := placed.face?_self
      obtain rfl := Option.some.inj (there.symm.trans found)
      have charts : (other.charts.map fun chart => some chart.name).filterMap id =
          other.charts.map (·.name) := by
        simp [List.filterMap_map]
      have perm : own.charts.reduceOption.Perm (other.charts.map (·.name)) :=
        charts ▸ isMatch.charts.filterMap id
      exact perm.nodup_iff.mpr distinct
  case neg =>
    have foreign : ∀ id face, after.face? id = some face → face.name = some other.name →
        before.face? id = some face := by
      intro id face found named
      rw [← found, placed.face?_of_ne]
      rintro rfl
      obtain ⟨own, there, isMatch⟩ := placed.face?_self
      obtain rfl := Option.some.inj (there.symm.trans found)
      exact names (Option.some.inj (named.symm.trans isMatch.isNamed))
    constructor
    case only =>
      intro id id' face face' found found' named named'
      exact findable.only id id' face face' (foreign id face found named)
        (foreign id' face' found' named') named named'
    case distinct =>
      exact fun id face found named =>
        findable.distinct id face (foreign id face found named) named

end Placed

/-- Placing dashboards leaves every group that was there as it was. -/
theorem group_of_placements (turns : Turns Placed dashboards placements before after)
    (listed : (before.listed? groupId).isSome) :
    after.resource? .group groupId = before.resource? .group groupId := by
  induction turns with
  | nil => rfl
  | cons head _ ih =>
      have still := head.groups groupId listed
      rw [ih (by rwa [listed?, still]), still]

/-- Placing dashboards keeps the faces of all that have other names. -/
theorem face_of_placements (turns : Turns Placed dashboards placements before after)
    (found : before.face? id = some face)
    (foreign : ∀ dashboard ∈ dashboards, face.name ≠ some dashboard.name) :
    after.face? id = some face := by
  induction turns with
  | nil => exact found
  | cons head _ ih =>
      exact ih (head.keeps_face found (foreign _ List.mem_cons_self))
        fun dashboard later => foreign dashboard (.tail _ later)

/-- Every dashboard is in its place after all of them were put there. -/
theorem shown_of_placements (turns : Turns Placed dashboards placements before after)
    (distinct : (dashboards.map (·.name)).Nodup) :
    List.Forall₂ (fun dashboard placement => ∃ face,
      after.face? placement.dashboardId = some face ∧ face.Matches dashboard placement.groupId)
      dashboards placements := by
  induction turns with
  | nil => exact .nil
  | cons head tail ih =>
      rw [List.map_cons, List.nodup_cons] at distinct
      obtain ⟨face, found, isMatch⟩ := head.face?_self
      refine .cons ⟨face, face_of_placements tail found ?_, isMatch⟩ (ih distinct.2)
      intro other later same
      rw [isMatch.isNamed] at same
      exact distinct.1 (Option.some.inj same ▸ List.mem_map_of_mem later)

/-- How a store has changed once a dashboard is in the target group: it was there already, or a
clone of it is there now. -/
inductive Settled (target : String) (placement : Placement) : String → Store → Store → Prop where
  | stays {store : Store} (inside : placement.groupId = target) :
      Settled target placement placement.dashboardId store store
  | cloned {id : String} {face : Face} {list : List String} {before after : Store}
      (outside : placement.groupId ≠ target)
      (found : before.face? placement.dashboardId = some face)
      (fresh : before.face? id = none)
      (faces : after.face? = update before.face? id (some { face with groupId := some target }))
      (listed : before.listed? target = some list)
      (lists : after.listed? target = some (list ++ [id]))
      (titles : after.title? = before.title?) :
      Settled target placement id before after

namespace Settled

/-- Bringing a dashboard into a group keeps all faces. -/
theorem keeps_face (settled : Settled target placement id before after) {other : String}
    (found : before.face? other = some face) : after.face? other = some face := by
  cases settled with
  | stays => exact found
  | cloned outside original fresh faces =>
      rw [faces, Function.update_of_ne, found]
      rintro rfl
      rw [fresh] at found
      cases found

/-- The dashboard in the group matches what the original matched. -/
theorem shown (settled : Settled target placement id before after)
    (found : before.face? placement.dashboardId = some face)
    (isMatch : face.Matches dashboard placement.groupId) :
    ∃ face, after.face? id = some face ∧ face.Matches dashboard target := by
  cases settled with
  | stays inside => exact ⟨face, found, inside ▸ isMatch⟩
  | cloned outside original fresh faces =>
      obtain rfl := Option.some.inj (original.symm.trans found)
      refine ⟨_, (congrFun faces id).trans (Function.update_self ..), ?_⟩
      exact ⟨isMatch.isNamed, rfl, isMatch.charts⟩

/-- Besides the faces from before there is at most that of the dashboard in the group. -/
theorem face?_cases (settled : Settled target placement id before after) {other : String}
    (found : after.face? other = some face) : before.face? other = some face ∨ other = id := by
  cases settled with
  | stays => exact .inl found
  | cloned outside original fresh faces =>
      by_cases here : other = id
      · exact .inr here
      · rw [faces, Function.update_of_ne here] at found
        exact .inl found

end Settled

/-- Gathering dashboards keeps all faces. -/
theorem face_of_settlings (turns : Turns (Settled target) placements ids before after)
    (found : before.face? id = some face) : after.face? id = some face := by
  induction turns with
  | nil => exact found
  | cons head _ ih => exact ih (head.keeps_face found)

/-- Gathering dashboards adds faces of gathered dashboards only. -/
theorem cases_of_settlings (turns : Turns (Settled target) placements ids before after)
    (found : after.face? id = some face) : before.face? id = some face ∨ id ∈ ids := by
  induction turns with
  | nil => exact .inl found
  | cons head _ ih =>
      rcases ih found with between | later
      · refine (head.face?_cases between).imp_right ?_
        rintro rfl
        exact List.mem_cons_self
      · exact .inr (.tail _ later)

/-- What is in the group already is gathered. -/
theorem mem_of_settlings (turns : Turns (Settled target) placements ids before after)
    (member : placement ∈ placements) (inside : placement.groupId = target) :
    placement.dashboardId ∈ ids := by
  induction turns with
  | nil => cases member
  | cons head _ ih =>
      rcases List.mem_cons.mp member with rfl | later
      · cases head with
        | stays => exact List.mem_cons_self
        | cloned outside => exact (outside inside).elim
      · exact .tail _ (ih later)

/-- Every dashboard that was in its place is in the group after all of them were gathered. -/
theorem shown_of_settlings (turns : Turns (Settled target) placements ids before after)
    (placed : List.Forall₂ (fun dashboard placement => ∃ face,
      before.face? placement.dashboardId = some face ∧ face.Matches dashboard placement.groupId)
      dashboards placements) :
    List.Forall₂ (fun dashboard id => ∃ face, after.face? id = some face ∧
      face.Matches dashboard target) dashboards ids := by
  induction turns generalizing dashboards with
  | nil =>
      obtain rfl := List.forall₂_nil_right_iff.mp placed
      exact .nil
  | cons head tail ih =>
      obtain ⟨dashboard, rest, ⟨face, found, isMatch⟩, later, rfl⟩ :=
        List.forall₂_cons_right_iff.mp placed
      obtain ⟨shown, there, matchesTarget⟩ := head.shown found isMatch
      refine .cons ⟨shown, face_of_settlings tail there, matchesTarget⟩ (ih (later.imp ?_))
      rintro _ _ ⟨face', found', isMatch'⟩
      exact ⟨face', head.keeps_face found', isMatch'⟩

/-- Clones are listed last, in the order in which they were made. -/
theorem listed_of_settlings (turns : Turns (Settled target) placements ids before after)
    (outside : ∀ placement ∈ placements, placement.groupId ≠ target)
    (listed : before.listed? target = some list) :
    after.listed? target = some (list ++ ids) ∧ after.title? = before.title? := by
  induction turns generalizing list with
  | nil => exact ⟨by rwa [List.append_nil], rfl⟩
  | cons head _ ih =>
      have outsideLater := fun placement later => outside placement (.tail _ later)
      cases head with
      | stays inside => exact (outside _ List.mem_cons_self inside).elim
      | cloned _ _ _ _ listed' lists titles =>
          obtain rfl := Option.some.inj (listed.symm.trans listed')
          obtain ⟨whole, same⟩ := ih outsideLater lists
          rw [List.append_assoc] at whole
          exact ⟨whole, same.trans titles⟩

/-- Local dashboards whose names differ are shown by dashboards with different identifiers. -/
theorem nodup_of_shown (shown : List.Forall₂ (fun dashboard id => ∃ face,
      store.face? id = some face ∧ face.name = some dashboard.name) dashboards ids)
    (distinct : (dashboards.map (·.name)).Nodup) : ids.Nodup := by
  induction shown with
  | nil => exact List.nodup_nil
  | cons here rest ih =>
      rw [List.map_cons, List.nodup_cons] at distinct
      refine List.nodup_cons.mpr ⟨fun member => ?_, ih distinct.2⟩
      obtain ⟨face, found, named⟩ := here
      obtain ⟨other, later, face', found', named'⟩ := exists_of_forall₂_right rest member
      obtain rfl := Option.some.inj (found.symm.trans found')
      rw [Option.some.inj (named.symm.trans named')] at distinct
      exact distinct.1 (List.mem_map_of_mem later)

/-- After the three loops the dashboards are gathered in the group. -/
theorem gathered_of_turns {placed settled : Store}
    (placements_turns : Turns Placed dashboards placements before placed)
    (ready : placed.Ready dashboards)
    (settlings : Turns (Settled target) placements ids placed settled)
    (dropped : Dropped (DashboardGroup.originals target placements) settled after)
    (distinct : (dashboards.map (·.name)).Nodup) : after.Gathered dashboards target ids := by
  have inPlace := shown_of_placements placements_turns distinct
  have shown := shown_of_settlings settlings inPlace
  have elsewhere : ∀ id ∈ DashboardGroup.originals target placements,
      ∃ face, settled.face? id = some face ∧ face.groupId ≠ some target := by
    intro id member
    obtain ⟨placement, isPlacement, outside, rfl⟩ := DashboardGroup.mem_originals.mp member
    obtain ⟨dashboard, -, face, found, isMatch⟩ := exists_of_forall₂_right inPlace isPlacement
    refine ⟨face, face_of_settlings settlings found, ?_⟩
    rw [isMatch.belongs]
    exact fun same => outside (Option.some.inj same)
  constructor
  case shown =>
    refine shown.imp ?_
    rintro dashboard id ⟨face, found, isMatch⟩
    refine ⟨face, ?_, isMatch⟩
    rw [dropped.face?_of_not_mem, found]
    intro removed
    obtain ⟨face', found', foreign⟩ := elsewhere id removed
    obtain rfl := Option.some.inj (found.symm.trans found')
    exact foreign isMatch.belongs
  case only =>
    intro id face found among
    obtain ⟨dashboard, isLocal, named⟩ := List.mem_map.mp among
    obtain ⟨kept, foundSettled⟩ := dropped.face?_eq_some found
    rcases cases_of_settlings settlings foundSettled with foundPlaced | member
    · obtain ⟨placement, isPlacement, own, there, isMatch⟩ :=
        exists_of_forall₂_left inPlace isLocal
      have same := (ready.findable dashboard isLocal).only id _ face own foundPlaced there
        named.symm isMatch.isNamed
      subst same
      refine mem_of_settlings settlings isPlacement (not_not.mp fun outside => kept ?_)
      exact DashboardGroup.mem_originals.mpr ⟨placement, isPlacement, outside, rfl⟩
    · exact member

end Store

end SignalBoard
