/-
# Placing and moving all dashboards

What is known while the dashboards of a group are put in their places one by one, and then while
they are brought into the group: every dashboard that is done fits its local one, no other has its
name, and no group besides has the name of the group but one that lists a single dashboard, which
is about to leave. The lists of items that are done and of what was found for them grow at their
ends, turn by turn.
-/

import SignalBoard.Proofs.Group.Aligned

namespace SignalBoard

open Function (update)

namespace Store

variable {before after start store : Store} {id target name : String} {document : Json}
  {dashboard : Dashboard} {dashboards : List Dashboard} {placement : Placement}
  {placements : List Placement} {kept : List String}

/-- Some dashboards were put in their places, in the presence of a target group. -/
structure Seating (name target : String) (document : Json) (dashboards : List Dashboard)
    (placements : List Placement) (store : Store) : Prop where
  sound : store.Sound
  aligned : store.Aligned
  stored : store.resource? .group target = some document
  seated : List.Forall₂ (fun dashboard placement => ∃ face,
    store.face? placement.dashboardId = some face ∧ face.Fits dashboard placement.groupId)
    dashboards placements
  only : ∀ id face, store.face? id = some face → ∀ dashboard ∈ dashboards,
    face.name = some dashboard.name → id ∈ placements.map (·.dashboardId)
  /-- Another group of the name has only one dashboard, and that one was placed. -/
  titled : ∀ groupId, store.title? groupId = some name → groupId = target ∨
    ∃ placement ∈ placements, placement.groupId = groupId ∧
      store.listed? groupId = some [placement.dashboardId]

namespace Seating

/-- No dashboard was placed yet, and the target group has its name alone. -/
theorem ofTitles (sound : store.Sound) (aligned : store.Aligned)
    (stored : store.resource? .group target = some document)
    (titles : ∀ groupId, store.title? groupId = some name → groupId = target) :
    Seating name target document [] [] store where
  sound := sound
  aligned := aligned
  stored := stored
  seated := .nil
  only := by simp
  titled := fun groupId titled => .inl (titles groupId titled)

/-- One more dashboard of another name is put in its place. -/
theorem snoc (seating : Seating name target document dashboards placements before)
    (seated : Seated dashboard placement before after) (sound : after.Sound)
    (new : ∀ other ∈ dashboards, other.name ≠ dashboard.name) :
    Seating name target document (dashboards ++ [dashboard]) (placements ++ [placement]) after := by
  obtain ⟨face, fits, faces⟩ := seated.exists_face
  have own : after.face? placement.dashboardId = some face := by rw [faces, Function.update_self]
  constructor
  case sound => exact sound
  case aligned => exact seated.aligned seating.aligned
  case stored => rw [seated.group_eq (by rw [seating.stored]; rfl), seating.stored]
  case seated =>
    apply List.rel_append _ (.cons ⟨face, own, fits⟩ .nil)
    refine List.forall₂_iff_zip.mpr ⟨seating.seated.length_eq, fun {other earlier} member => ?_⟩
    obtain ⟨face', found, fits'⟩ := (List.forall₂_iff_zip.mp seating.seated).2 member
    refine ⟨face', ?_, fits'⟩
    rw [faces, Function.update_of_ne, found]
    intro same
    rw [same] at found
    have named := fits'.isNamed.symm.trans (seated.name_eq found)
    exact new other (List.of_mem_zip member).1 (Option.some.inj named)
  case only =>
    intro id face' found other member named
    rw [List.map_append, List.mem_append]
    by_cases here : id = placement.dashboardId
    · exact .inr (by simp [here])
    · rw [faces, Function.update_of_ne here] at found
      rcases List.mem_append.mp member with earlier | last
      · exact .inl (seating.only id face' found other earlier named)
      · rw [List.mem_singleton.mp last] at named
        exact (here (seated.eq_of_name found named)).elim
  case titled =>
    intro groupId titled
    have earlier : before.resource? .group groupId = after.resource? .group groupId →
        groupId = target ∨ ∃ other ∈ placements ++ [placement], other.groupId = groupId ∧
          after.listed? groupId = some [other.dashboardId] := by
      intro same
      rw [title?, ← same] at titled
      rw [listed?, ← same]
      apply (seating.titled groupId titled).imp_right
      rintro ⟨other, member, rest⟩
      exact ⟨other, List.mem_append_left _ member, rest⟩
    cases seated with
    | stays _ _ _ _ _ _ groups => exact earlier (groups groupId).symm
    | founded _ _ founded =>
        by_cases here : groupId = placement.groupId
        · refine .inr ⟨placement, by simp, here.symm, ?_⟩
          rw [founded.listed, here, Function.update_self]
        · exact earlier (founded.groups groupId here).symm

end Seating

/-- Some dashboards of a store were brought into the target group: those that were there stay, and
the others have clones there. -/
structure Moving (target : String) (document : Json) (start : Store) (placements : List Placement)
    (kept : List String) (store : Store) : Prop where
  sound : store.Sound
  consistent : store.Consistent
  stays : ∀ id face, start.face? id = some face → store.face? id = some face
  moved : List.Forall₂ (fun placement id => ∃ face,
    start.face? placement.dashboardId = some face ∧
    store.face? id = some { face with groupId := some target }) placements kept
  known : ∀ id face, store.face? id = some face → start.face? id = some face ∨ id ∈ kept
  origin : ∀ id ∈ kept, start.face? id = none ∨
    ∃ face, start.face? id = some face ∧ face.groupId = some target
  /-- The target group keeps its name and lists at most the dashboards that are in it now. -/
  group : ∃ now, store.resource? .group target = some now ∧ now.name? = document.name? ∧
    ∀ id ∈ DashboardGroup.members now, id ∈ DashboardGroup.members document ∨ id ∈ kept
  groups : ∀ groupId, groupId ≠ target →
    store.resource? .group groupId = start.resource? .group groupId

namespace Moving

theorem refl (sound : store.Sound) (consistent : store.Consistent)
    (stored : store.resource? .group target = some document) :
    Moving target document store [] [] store where
  sound := sound
  consistent := consistent
  stays := fun _ _ found => found
  moved := .nil
  known := fun _ _ found => .inl found
  origin := fun _ member => nomatch member
  group := ⟨document, stored, rfl, fun _ member => .inl member⟩
  groups := fun _ _ => rfl

/-- A dashboard that is in the target group stays. -/
theorem stay (moving : Moving target document start placements kept store) {face : Face}
    (found : start.face? placement.dashboardId = some face) (inside : face.groupId = some target) :
    Moving target document start (placements ++ [placement]) (kept ++ [placement.dashboardId])
      store where
  sound := moving.sound
  consistent := moving.consistent
  stays := moving.stays
  moved := by
    apply List.rel_append moving.moved (.cons ⟨face, found, ?_⟩ .nil)
    rw [moving.stays _ face found, ← inside]
  known := fun id face' found' => (moving.known id face' found').imp_right (List.mem_append_left _)
  origin := by
    intro id member
    rcases List.mem_append.mp member with earlier | last
    · exact moving.origin id earlier
    · rw [List.mem_singleton.mp last]
      exact .inr ⟨face, found, inside⟩
  group := by
    obtain ⟨now, stored, named, members⟩ := moving.group
    exact ⟨now, stored, named, fun id member =>
      (members id member).imp_right (List.mem_append_left _)⟩
  groups := moving.groups

/-- A clone of a dashboard is added to the target group. -/
theorem clone (moving : Moving target document start placements kept store) {face : Face}
    (found : start.face? placement.dashboardId = some face) {chartIds : List String}
    {reply group relisted : Json} (sound : after.Sound)
    (extended : Extended target id chartIds reply store after)
    (clones : after.faceOf reply = { face with groupId := some target })
    (stored : store.resource? .group target = some group)
    (now : after.resource? .group target = some relisted)
    (lists : group.Relisted (· ++ [.str id]) relisted) :
    Moving target document start (placements ++ [placement]) (kept ++ [id]) after ∧
      start.face? id = none := by
  have faces := extended.faces moving.consistent
  have absent : store.face? id = none := by rw [face?, extended.fresh, Option.map_none]
  have fresh : start.face? id = none := by
    cases there : start.face? id with
    | none => rfl
    | some old => cases absent.symm.trans (moving.stays id old there)
  have still : ∀ other old, store.face? other = some old → after.face? other = some old := by
    intro other old there
    rw [faces, Function.update_of_ne, there]
    rintro rfl
    cases absent.symm.trans there
  have own : after.face? id = some { face with groupId := some target } := by
    rw [faces, Function.update_self, clones]
  refine ⟨?_, fresh⟩
  constructor
  case sound => exact sound
  case consistent => exact extended.consistent moving.consistent sound
  case stays => exact fun other old there => still other old (moving.stays other old there)
  case moved =>
    apply List.rel_append _ (.cons ⟨face, found, own⟩ .nil)
    refine moving.moved.imp ?_
    rintro _ _ ⟨old, there, moved⟩
    exact ⟨old, there, still _ _ moved⟩
  case known =>
    intro other face' there
    by_cases here : other = id
    · exact .inr (by simp [here])
    · rw [faces, Function.update_of_ne here] at there
      exact (moving.known other face' there).imp_right (List.mem_append_left _)
  case origin =>
    intro other member
    rcases List.mem_append.mp member with earlier | last
    · exact moving.origin other earlier
    · rw [List.mem_singleton.mp last]
      exact .inl fresh
  case group =>
    obtain ⟨old, storedOld, named, members⟩ := moving.group
    obtain rfl := Option.some.inj (storedOld.symm.trans stored)
    refine ⟨relisted, now, lists.isNamed.trans named, fun other member => ?_⟩
    rw [List.mem_append, List.mem_singleton]
    rcases lists.mem_of_add member with earlier | last
    · exact (members other earlier).imp_right .inl
    · exact .inr (.inr last)
  case groups =>
    intro other different
    rw [extended.group_eq different, moving.groups other different]

end Moving

end Store

namespace DashboardGroup

open Store (Moving Seating)

variable {answer : Question → Bool} {start store : Store} {target name : String} {document : Json}
  {dashboards : List Dashboard} {placement : Placement} {placements : List Placement}
  {kept : List String}

/-- All dashboards that could be placed are in their places. -/
theorem yields_placements (distinct : (dashboards.map (·.name)).Nodup)
    (seating : Seating name target document [] [] store) :
    Plan.Yields Store.server answer (dashboards.mapM placeDashboard) store
      fun placements after => Seating name target document dashboards placements after := by
  apply Plan.yields_mapM (Seating name target document) ?_ (List.nil_append dashboards) seating
  intro past dashboard rest found between split seating
  apply (yields_placeDashboard seating.sound seating.aligned).mono
  rintro placement after ⟨sound, seated⟩
  apply seating.snoc seated sound
  intro other earlier same
  rw [← split, List.map_append, List.map_cons, List.nodup_append] at distinct
  exact distinct.2.2 _ (List.mem_map_of_mem earlier) _ List.mem_cons_self same

/-- A dashboard that shows all its charts is cloned into the target group. -/
theorem ensures_cloneInto_moving (moving : Moving target document start placements kept store)
    {face : Face} (found : start.face? placement.dashboardId = some face)
    (isNamed : face.name.isSome) (whole : none ∉ face.charts) :
    Plan.Ensures Store.server answer (cloneInto target placement.dashboardId) store
      fun reply after => ∃ id, reply.id? = some id ∧ start.face? id = none ∧
        Moving target document start (placements ++ [placement]) (kept ++ [id]) after := by
  obtain ⟨title, isNamed⟩ := Option.isSome_iff_exists.mp isNamed
  obtain ⟨group, stored, -⟩ := moving.group
  obtain ⟨reply, id, chartIds, relisted, after, answered, clones, now, lists, extended⟩ :=
    moving.sound.server_clone (moving.stays _ face found) isNamed whole stored
  have sound : after.Sound := moving.sound.of_server answered
  rw [← isNamed] at clones
  obtain ⟨moved, fresh⟩ := moving.clone found sound extended clones stored now lists
  apply Plan.ensures_call answered
  exact Plan.ensures_pure ⟨id, (sound.id_of_resource? extended.stored).1, fresh, moved⟩

/-- Every placed dashboard has a face that can be cloned, and is in the group that it names. -/
theorem exists_face_of_seating (seating : Seating name target document dashboards placements store)
    (member : placement ∈ placements) :
    ∃ face, store.face? placement.dashboardId = some face ∧
      face.groupId = some placement.groupId ∧ face.name.isSome ∧ none ∉ face.charts := by
  obtain ⟨dashboard, -, face, found, fits⟩ :=
    Store.exists_of_forall₂_right seating.seated member
  exact ⟨face, found, fits.belongs, by rw [fits.isNamed]; rfl, fits.none_not_mem⟩

/-- All placed dashboards are brought into the target group; those that are there stay. -/
theorem yields_settlings (seating : Seating name target document dashboards placements store) :
    Plan.Yields Store.server answer (placements.mapM (settle target)) store
      fun kept after => Moving target document store placements kept after ∧
        ∀ placement ∈ placements, placement.groupId = target → placement.dashboardId ∈ kept := by
  apply Plan.yields_mapM (fun past kept after => Moving target document store past kept after ∧
      ∀ placement ∈ past, placement.groupId = target → placement.dashboardId ∈ kept) ?_
    (List.nil_append placements)
    ⟨.refl seating.sound seating.aligned.consistent seating.stored, fun _ member => nomatch member⟩
  rintro past placement rest kept between split ⟨moving, inside⟩
  obtain ⟨face, found, belongs, isNamed, whole⟩ :=
    exists_face_of_seating seating (by simp [← split] : placement ∈ placements)
  have earlier : ∀ (id : String), ∀ other ∈ past, other.groupId = target →
      other.dashboardId ∈ kept ++ [id] := fun id other member same =>
    List.mem_append_left _ (inside other member same)
  unfold settle
  split
  case isTrue here =>
    apply Plan.yields_pure
    refine ⟨moving.stay found (here ▸ belongs), fun other member same => ?_⟩
    rcases List.mem_append.mp member with early | last
    · exact earlier _ other early same
    · simp [List.mem_singleton.mp last]
  case isFalse elsewhere =>
    apply Plan.yields_bind (ensures_cloneInto_moving moving found isNamed whole).yields
    rintro reply after ⟨id, identified, -, moved⟩
    rw [requireId_eq identified]
    apply Plan.yields_pure
    refine ⟨moved, fun other member same => ?_⟩
    rcases List.mem_append.mp member with early | last
    · exact earlier _ other early same
    · rw [List.mem_singleton.mp last] at same
      exact (elsewhere same).elim

/-- All placed dashboards are cloned into the target group. -/
theorem ensures_clones_moving (seating : Seating name target document dashboards placements store) :
    Plan.Ensures Store.server answer (placements.forM fun placement => do
        let _ ← cloneInto target placement.dashboardId
        return ()) store
      fun _ after => ∃ kept, Moving target document store placements kept after ∧
        ∀ id ∈ kept, store.face? id = none := by
  apply Plan.ensures_forM_past (fun past after => ∃ kept,
      Moving target document store past kept after ∧ ∀ id ∈ kept, store.face? id = none) ?_
    (List.nil_append placements)
    ⟨[], .refl seating.sound seating.aligned.consistent seating.stored,
      fun _ member => nomatch member⟩
  rintro past placement rest between split ⟨kept, moving, fresh⟩
  obtain ⟨face, found, -, isNamed, whole⟩ :=
    exists_face_of_seating seating (by simp [← split] : placement ∈ placements)
  apply Plan.ensures_bind (ensures_cloneInto_moving moving found isNamed whole)
  rintro reply after ⟨id, -, isNew, moved⟩
  apply Plan.ensures_pure
  refine ⟨kept ++ [id], moved, fun other member => ?_⟩
  rcases List.mem_append.mp member with early | last
  · exact fresh other early
  · rwa [List.mem_singleton.mp last]

end DashboardGroup

end SignalBoard
