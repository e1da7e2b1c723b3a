/-
# Groups that host their dashboards

A group hosts the local dashboards when each of them has exactly one stored dashboard of its name,
which is in the group and shows exactly the local names. This is what an update leaves whenever it
succeeds, whether it created the group or found it, and wherever the dashboards were: what was
placed elsewhere was cloned and is removed, with every group that listed nothing else, and what was
in the group without a local name is removed as well.
-/

import SignalBoard.Proofs.Group.Reach
import SignalBoard.Proofs.Group.Seating

namespace SignalBoard

open Function (update)

namespace Store

open DashboardGroup (mem_originals originals)

variable {start moved store after : Store} {id id' target name : String} {document : Json}
  {dashboards : List Dashboard} {placements : List Placement} {kept gone : List String}

/-- Every local dashboard has one stored dashboard of its name, under one of the identifiers in
order, which is in the group and shows exactly the local names. -/
structure Hosted (dashboards : List Dashboard) (target : String) (kept : List String)
    (store : Store) : Prop where
  shown : List.Forall₂ (fun dashboard id => ∃ face, store.face? id = some face ∧
    face.Fits dashboard target) dashboards kept
  only : ∀ id face, store.face? id = some face → ∀ dashboard ∈ dashboards,
    face.name = some dashboard.name → id ∈ kept

/-- Of local dashboards with distinct names, two with one name are shown under one identifier. -/
theorem eq_of_shown (shown : List.Forall₂ (fun (dashboard : Dashboard) id => ∃ face,
      store.face? id = some face ∧ face.name = some dashboard.name) dashboards kept)
    (distinct : (dashboards.map (·.name)).Nodup) (member : id ∈ kept) (member' : id' ∈ kept)
    (same : (store.face? id).bind Face.name = (store.face? id').bind Face.name) : id = id' := by
  induction shown with
  | nil => cases member
  | @cons dashboard first dashboards rest here later ih =>
      rw [List.map_cons, List.nodup_cons] at distinct
      obtain ⟨face, found, named⟩ := here
      have foreign : ∀ other ∈ rest, (store.face? other).bind Face.name ≠
          (store.face? first).bind Face.name := by
        intro other member same
        obtain ⟨dashboard', isLater, face', found', named'⟩ := exists_of_forall₂_right later member
        rw [found, found', Option.bind_some, Option.bind_some, named, named'] at same
        exact distinct.1 (Option.some.inj same ▸ List.mem_map_of_mem isLater)
      rcases List.mem_cons.mp member with rfl | isLater <;>
        rcases List.mem_cons.mp member' with rfl | isLater'
      · rfl
      · exact (foreign id' isLater' same.symm).elim
      · exact (foreign id isLater same).elim
      · exact ih distinct.2 isLater isLater'

/-- A hosted dashboard is the only one of its name. -/
theorem Hosted.exists_of_mem (hosted : Hosted dashboards target kept store)
    (distinct : (dashboards.map (·.name)).Nodup) {dashboard : Dashboard}
    (member : dashboard ∈ dashboards) :
    ∃ id ∈ kept, ∃ face, store.face? id = some face ∧ face.Fits dashboard target ∧
      ∀ id' face', store.face? id' = some face' → face'.name = some dashboard.name → id' = id := by
  obtain ⟨id, isKept, face, found, fits⟩ := exists_of_forall₂_left hosted.shown member
  refine ⟨id, isKept, face, found, fits, fun id' face' found' named => ?_⟩
  refine eq_of_shown (hosted.shown.imp fun _ _ ⟨face, found, fits⟩ => ⟨face, found, fits.isNamed⟩)
    distinct (hosted.only id' face' found' dashboard member named) isKept ?_
  rw [found, found', Option.bind_some, Option.bind_some, named, fits.isNamed]

/-- The identifiers of placed dashboards differ. -/
theorem Seating.nodup (seating : Seating name target document dashboards placements store)
    (distinct : (dashboards.map (·.name)).Nodup) : (placements.map (·.dashboardId)).Nodup :=
  nodup_of_shown (List.forall₂_map_right_iff.mpr (seating.seated.imp
    fun _ _ ⟨face, found, fits⟩ => ⟨face, found, fits.isNamed⟩)) distinct

/-- A dashboard in the target group is none of those that were placed elsewhere. -/
theorem Seating.not_mem_originals
    (seating : Seating name target document dashboards placements store) {face : Face}
    (found : store.face? id = some face) (inside : face.groupId = some target) :
    id ∉ originals target placements := by
  intro member
  obtain ⟨placement, placed, outside, rfl⟩ := mem_originals.mp member
  obtain ⟨dashboard, -, own, there, fits⟩ := exists_of_forall₂_right seating.seated placed
  obtain rfl := Option.some.inj (found.symm.trans there)
  exact outside (Option.some.inj (fits.belongs.symm.trans inside))

/-- A dashboard that was brought into the group is none of those that were placed elsewhere. -/
theorem Moving.not_mem_originals (moving : Moving target document start placements kept moved)
    (seating : Seating name target document dashboards placements start) (member : id ∈ kept) :
    id ∉ originals target placements := by
  rcases moving.origin id member with fresh | ⟨face, found, inside⟩
  · intro original
    obtain ⟨placement, placed, -, rfl⟩ := mem_originals.mp original
    obtain ⟨dashboard, -, face, found, -⟩ := exists_of_forall₂_right seating.seated placed
    cases fresh.symm.trans found
  · exact seating.not_mem_originals found inside

/-- What the target group lists is in it. -/
theorem Seating.exists_face_of_mem
    (seating : Seating name target document dashboards placements store)
    (member : id ∈ DashboardGroup.members document) :
    ∃ face, store.face? id = some face ∧ face.groupId = some target := by
  refine (seating.aligned.mem_iff target _ ?_ id).mp member
  rw [listed?, seating.stored, Option.map_some]

/-- What was brought into the group fits there. -/
theorem Moving.shown (moving : Moving target document start placements kept moved)
    (seated : List.Forall₂ (fun dashboard placement => ∃ face,
      start.face? placement.dashboardId = some face ∧ face.Fits dashboard placement.groupId)
      dashboards placements) :
    List.Forall₂ (fun dashboard id => ∃ face, moved.face? id = some face ∧
      face.Fits dashboard target) dashboards kept := by
  have each := moving.moved
  clear moving
  induction seated generalizing kept with
  | nil =>
      obtain rfl := List.forall₂_nil_left_iff.mp each
      exact .nil
  | cons here _ ih =>
      obtain ⟨id, kept, ⟨face, found, now⟩, rest, rfl⟩ := List.forall₂_cons_left_iff.mp each
      obtain ⟨face', found', fits⟩ := here
      obtain rfl := Option.some.inj (found.symm.trans found')
      exact .cons ⟨_, now, ⟨fits.isNamed, rfl, fits.charts⟩⟩ (ih rest)

/-- Once the originals are gone that were placed elsewhere, and others that are not to stay, the
group hosts the dashboards. -/
theorem Moving.hosted (moving : Moving target document start placements kept moved)
    (seating : Seating name target document dashboards placements start)
    (dropped : Dropped (originals target placements ++ gone) moved after)
    (inside : ∀ placement ∈ placements, placement.groupId = target →
      placement.dashboardId ∈ gone ∨ placement.dashboardId ∈ kept)
    (stay : ∀ id ∈ kept, id ∉ gone) : Hosted dashboards target kept after := by
  have shown := moving.shown seating.seated
  constructor
  case shown =>
    refine List.forall₂_iff_zip.mpr ⟨shown.length_eq, fun {dashboard id} member => ?_⟩
    obtain ⟨face, found, fits⟩ := (List.forall₂_iff_zip.mp shown).2 member
    have isKept := (List.of_mem_zip member).2
    refine ⟨face, ?_, fits⟩
    rw [dropped.face?_of_not_mem, found]
    rw [List.mem_append, not_or]
    exact ⟨moving.not_mem_originals seating isKept, stay id isKept⟩
  case only =>
    intro id face found dashboard member named
    obtain ⟨left, foundMoved⟩ := dropped.face?_eq_some found
    rw [List.mem_append, not_or] at left
    rcases moving.known id face foundMoved with foundStart | isKept
    · obtain ⟨placement, placed, rfl⟩ :=
        List.mem_map.mp (seating.only id face foundStart dashboard member named)
      by_cases here : placement.groupId = target
      · exact (inside placement placed here).resolve_left left.2
      · exact (left.1 (mem_originals.mpr ⟨placement, placed, here, rfl⟩)).elim
    · exact isKept

/-- Once what the target group listed at first is gone, it lists at most what is to stay. -/
theorem Moving.members_subset (moving : Moving target document start placements kept moved)
    (dropped : Dropped gone moved after) {new : Json}
    (stored : after.resource? .group target = some new)
    (all : ∀ id ∈ DashboardGroup.members document, id ∈ gone ∧
      ∃ face, moved.face? id = some face ∧ face.groupId = some target) :
    new.name? = document.name? ∧ DashboardGroup.members new ⊆ kept := by
  obtain ⟨now, storedNow, named, listed⟩ := moving.group
  obtain ⟨old, storedOld, removed, -, relisted, own⟩ := dropped.left target new stored
  obtain rfl := Option.some.inj (storedNow.symm.trans storedOld)
  refine ⟨relisted.isNamed.trans named, fun id member => ?_⟩
  obtain ⟨listedNow, left⟩ := relisted.mem_iff.mp member
  apply (listed id listedNow).resolve_left
  intro original
  obtain ⟨isGone, face, found, inside⟩ := all id original
  exact left (own id isGone face found inside)

end Store

namespace DashboardGroup

open Store (Dropped Hosted Moving Seating)

variable {answer : Question → Bool} {start moved store : Store} {id target name groupId : String}
  {document : Json} {dashboards : List Dashboard} {placements : List Placement}
  {kept ids : List String} {group : DashboardGroup}

/-- The originals that were placed elsewhere are removed. The target group is as it was, and no
other group has the name any more. -/
theorem ensures_removeSources_moving (distinct : (dashboards.map (·.name)).Nodup)
    (seating : Seating name target document dashboards placements start)
    (moving : Moving target document start placements kept moved) :
    Plan.Ensures Store.server answer (removeSources target placements) moved
      fun _ after =>
        Dropped (originals target placements) moved after ∧
        after.resource? .group target = moved.resource? .group target ∧
        ∀ groupId, after.title? groupId = some name → groupId = target := by
  have belong : ∀ placement ∈ placements, ∃ face,
      start.face? placement.dashboardId = some face ∧ face.groupId = some placement.groupId := by
    intro placement member
    obtain ⟨face, found, belongs, -⟩ := exists_face_of_seating seating member
    exact ⟨face, found, belongs⟩
  have has : ∀ placement ∈ placements, placement.groupId ≠ target →
      Has moved placement.groupId [placement.dashboardId] := by
    intro placement member outside id isOne
    rw [List.mem_singleton.mp isOne]
    obtain ⟨face, found, belongs⟩ := belong placement member
    refine ⟨face, moving.stays _ face found, belongs, ?_⟩
    rw [Store.listed?, moving.groups _ outside]
    exact seating.aligned.exists_listed found belongs
  refine (ensures_removeSources moving.sound moving.consistent (seating.nodup distinct) has).mono ?_
  rintro _ after ⟨dropped, gone⟩
  refine ⟨dropped, dropped.groups target ?_, fun groupId titled => ?_⟩
  · intro id member face found
    obtain ⟨placement, placed, outside, rfl⟩ := mem_originals.mp member
    obtain ⟨own, foundStart, belongs⟩ := belong placement placed
    obtain rfl := Option.some.inj ((moving.stays _ own foundStart).symm.trans found)
    rw [belongs]
    exact fun same => outside (Option.some.inj same)
  · by_contra different
    obtain ⟨new, stored, named⟩ := Option.bind_eq_some_iff.mp titled
    have titledMoved := (dropped.title?_of_stored stored).trans named
    rw [Store.title?, moving.groups groupId different] at titledMoved
    obtain ⟨placement, placed, rfl, listed⟩ :=
      (seating.titled groupId titledMoved).resolve_left different
    have missing := gone placement placed different (by
      rw [Store.listed?, moving.groups _ different]
      exact listed)
    cases missing.symm.trans stored

/-- What is deleted was there. -/
theorem yields_deleteById_found (clean : '/' ∉ id.toList) :
    Plan.Yields Store.server answer (Dashboard.deleteById id) store
      fun _ _ => (store.face? id).isSome := by
  have reads : Plan.Yields Store.server answer (Dashboard.deleteChartsOf id) store
      fun _ _ => (store.face? id).isSome := by
    apply Plan.yields_call
    intro reply after answered
    obtain ⟨stored, rfl⟩ := Store.stored_of_get answered
    have found : after.resource? .dashboard id = some reply := by
      rw [Store.resource?_of_clean clean, stored]
    exact ⟨fun _ _ => by rw [Store.face?_eq found]; rfl⟩
  apply Plan.yields_bind reads
  intro _ _ isSome
  exact ⟨fun _ _ => isSome⟩

/-- Dashboards of a group are deleted one by one, if none of them is named twice. The group is
left. -/
theorem yields_forM_deleteById (sound : store.Sound) (consistent : store.Consistent)
    (belong : ∀ id ∈ ids, ∃ face, store.face? id = some face ∧ face.groupId = some groupId) :
    Plan.Yields Store.server answer (ids.forM Dashboard.deleteById) store
      fun _ after => Dropped ids store after ∧
        ((store.resource? .group groupId).isSome → (after.resource? .group groupId).isSome) := by
  apply Plan.yields_forM (fun past after => Dropped past store after ∧
    ((store.resource? .group groupId).isSome → (after.resource? .group groupId).isSome)) ?_
    (List.nil_append ids) ⟨.refl sound consistent, id⟩
  rintro past id rest between split ⟨dropped, left⟩
  obtain ⟨face, found, names⟩ := belong id (by simp [← split])
  obtain ⟨dashboard, stored, -⟩ := Store.exists_of_face? found
  apply (yields_deleteById_found (Store.clean_of_resource? stored)).assuming
  intro isSome
  obtain ⟨face', there⟩ := Option.isSome_iff_exists.mp isSome
  obtain rfl := Option.some.inj (found.symm.trans (dropped.face?_eq_some there).2)
  apply (ensures_deleteById dropped.sound dropped.consistent there names).yields.mono
  rintro _ after ⟨droppedToo, leftToo⟩
  exact ⟨dropped.trans droppedToo, fun isStored => leftToo (left isStored)⟩

/-- If the dashboards of a stored group can be reconciled, the group hosts them. -/
theorem yields_reconcileDashboards (distinct : (group.dashboards.map (·.name)).Nodup)
    (seating : Seating name target document [] [] store) :
    Plan.Yields Store.server answer (group.reconcileDashboards target) store
      fun kept after => after.Sound ∧ (after.resource? .group target).isSome ∧
        Hosted group.dashboards target kept after ∧
        ∀ groupId, after.title? groupId = some name → groupId = target := by
  unfold reconcileDashboards
  apply Plan.yields_bind (yields_placements distinct seating)
  intro placements start seating
  apply Plan.yields_bind (yields_settlings seating)
  rintro kept moved ⟨moving, inside⟩
  apply Plan.yields_bind (ensures_removeSources_moving distinct seating moving).yields
  rintro _ sourced ⟨dropped, same, titles⟩
  apply Plan.yields_call
  intro current after answered
  obtain ⟨storedCurrent, rfl⟩ := Store.stored_of_get answered
  obtain ⟨now, stored, -, members⟩ := moving.group
  obtain rfl : current = now := by
    rw [← same] at stored
    exact Option.some.inj (storedCurrent.symm.trans (Store.get?_of_resource? stored))
  show Plan.Yields Store.server answer
    (((DashboardGroup.members current).filter fun member => !kept.contains member).forM
      Dashboard.deleteById >>= fun _ => pure kept) after _
  generalize isUnwanted : (DashboardGroup.members current).filter
    (fun member => !kept.contains member) = unwanted
  have unwanted_iff : ∀ id, id ∈ unwanted ↔ id ∈ DashboardGroup.members current ∧ id ∉ kept := by
    intro id
    rw [← isUnwanted, List.mem_filter]
    simp
  have belong : ∀ id ∈ unwanted, ∃ face, after.face? id = some face ∧
      face.groupId = some target := by
    intro id member
    obtain ⟨listed, notKept⟩ := (unwanted_iff id).mp member
    obtain ⟨face, found, isInside⟩ :=
      seating.exists_face_of_mem ((members id listed).resolve_right notKept)
    refine ⟨face, ?_, isInside⟩
    rw [dropped.face?_of_not_mem (seating.not_mem_originals found isInside)]
    exact moving.stays id face found
  apply Plan.yields_bind (yields_forM_deleteById dropped.sound dropped.consistent belong)
  rintro _ last ⟨deleted, left⟩
  apply Plan.yields_pure
  refine ⟨deleted.sound, left (by rw [same, stored]; rfl), ?_,
    fun groupId titled => titles groupId ?_⟩
  · apply moving.hosted seating (dropped.trans deleted)
    · exact fun placement placed isInside => .inr (inside placement placed isInside)
    · exact fun id isKept isUnwanted => ((unwanted_iff id).mp isUnwanted).2 isKept
  · obtain ⟨new, storedNew, named⟩ := Option.bind_eq_some_iff.mp titled
    exact (deleted.title?_of_stored storedNew).trans named

/-- The stored group that an update of the local one finds as it wants it: it has the name alone,
hosts the local dashboards, and lists no others unless there are none. -/
structure Standing (group : DashboardGroup) (target : String) (kept : List String)
    (store : Store) : Prop where
  sound : store.Sound
  stored : ∃ document, store.resource? .group target = some document ∧
    document.name? = some group.name ∧ (group.dashboards ≠ [] → members document ⊆ kept)
  titles : ∀ groupId, store.title? groupId = some group.name → groupId = target
  hosted : Hosted group.dashboards target kept store

/-- The target group is written last. -/
theorem standing_of_put (sound : store.Sound) {current new : Json}
    (stored : store.resource? .group target = some current) (stamped : new.Stamped target)
    (named : new.name? = some group.name) (lists : group.dashboards ≠ [] → members new ⊆ kept)
    (titles : ∀ groupId, store.title? groupId = some group.name → groupId = target)
    (hosted : Hosted group.dashboards target kept store) :
    Standing group target kept (store.set (Kind.group.path target) new) := by
  have soundAfter : (store.set (Kind.group.path target) new).Sound :=
    (Store.Step.replace store (Store.get?_of_resource? stored)
      (sound.stamped_of_resource? stored stamped)).sound sound
  have agrees : store.AgreesOff [Kind.group.path target]
      (store.set (Kind.group.path target) new) := by
    intro path untouched
    rw [Store.get?_set, if_neg (by simpa using untouched)]
  have faces := agrees.face?_of_group
  constructor
  case sound => exact soundAfter
  case stored =>
    refine ⟨new, ?_, named, lists⟩
    rw [Store.resource?_of_clean (Store.clean_of_resource? stored), Store.get?_set, if_pos rfl]
  case titles =>
    intro groupId titled
    by_contra different
    rw [Store.title?, agrees.resource?_eq fun touched =>
      different (Kind.path_inj (List.mem_singleton.mp touched)).2] at titled
    exact different (titles groupId titled)
  case hosted => exact ⟨faces ▸ hosted.shown, faces ▸ hosted.only⟩

/-- The document that is written for a stored group keeps its name, and lists the dashboards. -/
theorem written_document {fields document : Json} (object : document.isObject = true)
    (record : fields.IsRecord) (foreign : ∀ key ∉ ["description", "teams"], fields.get? key = none)
    (target : String) :
    let new := (document.overlay fields).withField "id" (.str target)
    new.Stamped target ∧ new.name? = document.name? ∧ members new = members document := by
  intro new
  have laid := Json.isObject_overlay record.isObject document
  have kept : ∀ key ∉ ["id", "description", "teams"], new.get? key = document.get? key := by
    intro key other
    rw [List.mem_cons, not_or] at other
    rw [Json.get?_withField laid, if_neg other.1, Json.get?_overlay object record,
      foreign key other.2, Option.none_or]
  refine ⟨.withField_id laid target, ?_, ?_⟩
  · rw [Json.name?, kept "name" (by decide), Json.name?]
  · rw [members, Json.field, kept "dashboards" (by decide), members, Json.field]

/-- A stored group is written once it hosts the dashboards. -/
theorem ensures_write (valid : group.check = .ok ()) (sound : store.Sound) {current document : Json}
    (stored : store.resource? .group target = some current) (object : document.isObject = true)
    (isNamed : document.name? = some group.name)
    (lists : group.dashboards ≠ [] → members document ⊆ kept)
    (titles : ∀ groupId, store.title? groupId = some group.name → groupId = target)
    (hosted : Hosted group.dashboards target kept store) :
    Plan.EnsuresWithin Request.Gentle Store.server answer (do
        let fields ← Plan.checked group.unnamedPayload
        let document ← ({} : Overrides).apply (document.overlay fields)
        Plan.put (Kind.group.path target) document) store
      fun _ after => Standing group target kept after := by
  obtain ⟨fields, passed, record, foreign⟩ := unnamedPayload_eq valid
  have laid := Json.isObject_overlay record.isObject document
  rw [Plan.checked_eq passed, pure_bind, Overrides.apply_eq {} laid, pure_bind]
  have identified := (sound.id_of_resource? stored).1
  obtain ⟨stamped, sameName, sameMembers⟩ := written_document object record foreign target
  rw [← sameMembers] at lists
  have put := Store.server_put (Store.get?_of_resource? stored) identified laid
  refine (Plan.ensures_call put (Plan.ensures_pure ?_)).sending
    (Plan.sends_call (Request.gentle_put _ _) Plan.sends_pure)
  exact standing_of_put sound stored stamped (sameName.trans isNamed) lists titles hosted

/-- A group lists what it was given. -/
theorem members_withField {document : Json} (object : document.isObject = true)
    (ids : List String) : members (document.withField "dashboards" (Json.ofStrings ids)) = ids :=
  (lists_withField object ids).members

/-- A stored group that could be updated stands. -/
theorem yields_update_stored {remote : Json} (valid : group.check = .ok ()) (sound : store.Sound)
    (aligned : store.Aligned) (distinct : (group.dashboards.map (·.name)).Nodup)
    (alone : store.named .group group.name = [remote]) :
    Plan.Yields Store.server answer (do
        let id ← requireId remote
        let document ←
          if group.dashboards.isEmpty then pure remote
          else do
            let kept ← group.reconcileDashboards id
            Plan.assign "dashboards" (Json.ofStrings kept) remote
        let fields ← Plan.checked group.unnamedPayload
        let document ← ({} : Overrides).apply (document.overlay fields)
        Plan.put (Kind.group.path id) document) store
      fun _ after => ∃ target kept, Standing group target kept after := by
  obtain ⟨target, stored, isNamed⟩ := sound.exists_of_named alone
  have object := sound.isObject (Store.get?_of_resource? stored)
  have titles : ∀ groupId, store.title? groupId = some group.name → groupId = target :=
    fun _ => sound.eq_of_title? alone stored
  rw [requireId_eq (sound.id_of_resource? stored).1, pure_bind]
  dsimp only
  split
  case isTrue empty =>
    have none : group.dashboards = [] := List.isEmpty_iff.mp empty
    have hosted : Hosted group.dashboards target [] store := by
      rw [none]
      exact ⟨.nil, by simp⟩
    apply (ensures_write valid sound stored object isNamed (fun filled => (filled none).elim)
      titles hosted).ensures.yields.mono
    exact fun _ _ standing => ⟨target, [], standing⟩
  case isFalse =>
    apply Plan.yields_bind (yields_reconcileDashboards distinct
      (.ofTitles sound aligned stored titles))
    rintro kept after ⟨soundAfter, left, hosted, titlesAfter⟩
    obtain ⟨current, storedAfter⟩ := Option.isSome_iff_exists.mp left
    rw [Plan.assign_eq object, pure_bind]
    apply (ensures_write valid soundAfter storedAfter (by simpa) ?_ ?_ titlesAfter
      hosted).ensures.yields.mono
    · exact fun _ _ standing => ⟨target, kept, standing⟩
    · rw [Json.name?_withField object (by decide), isNamed]
    · intro _
      rw [members_withField object]
      exact List.Subset.refl _

/-- The originals are removed and then the empty dashboard of a new group. What is left hosts the
dashboards. -/
theorem ensures_dropDefault {start moved : Store} {first : String} {created : Json}
    (distinct : (dashboards.map (·.name)).Nodup)
    (seating : Seating name target created dashboards placements start)
    (moving : Moving target created start placements kept moved)
    (fresh : ∀ id ∈ kept, start.face? id = none) (lists : created.Lists [first]) :
    Plan.Ensures Store.server answer (do
        removeSources target placements
        (members created).head?.forM Dashboard.deleteById
        Plan.get (Kind.group.path target)) moved
      fun reply after => after.Sound ∧ after.resource? .group target = some reply ∧
        reply.name? = created.name? ∧ members reply ⊆ kept ∧
        (∀ groupId, after.title? groupId = some name → groupId = target) ∧
        Hosted dashboards target kept after := by
  have firstListed : first ∈ members created := by simp [lists.members]
  obtain ⟨face, found, isInside⟩ := seating.exists_face_of_mem firstListed
  obtain ⟨dashboard, storedFirst, -⟩ := Store.exists_of_face? found
  apply Plan.ensures_bind (ensures_removeSources_moving distinct seating moving)
  rintro _ sourced ⟨dropped, same, titles⟩
  rw [lists.members]
  show Plan.Ensures Store.server answer (Dashboard.deleteById first >>= fun _ => _) sourced _
  have there : sourced.face? first = some face := by
    rw [dropped.face?_of_not_mem (seating.not_mem_originals found isInside)]
    exact moving.stays first face found
  apply Plan.ensures_bind (ensures_deleteById dropped.sound dropped.consistent there isInside)
  rintro _ after ⟨deleted, left⟩
  obtain ⟨now, stored, -⟩ := moving.group
  obtain ⟨reply, storedReply⟩ := Option.isSome_iff_exists.mp (left (by rw [same, stored]; rfl))
  apply Plan.ensures_call (Store.server_get (Store.get?_of_resource? storedReply))
  apply Plan.ensures_pure
  have onlyFirst : ∀ id ∈ members created, id ∈ originals target placements ++ [first] ∧
      ∃ face, moved.face? id = some face ∧ face.groupId = some target := by
    intro id member
    rw [lists.members, List.mem_singleton] at member
    subst member
    exact ⟨by simp, face, moving.stays _ face found, isInside⟩
  obtain ⟨sameName, subset⟩ :=
    moving.members_subset (dropped.trans deleted) storedReply onlyFirst
  refine ⟨deleted.sound, storedReply, sameName, subset, fun groupId titled => ?_, ?_⟩
  · obtain ⟨new, storedNew, namedNew⟩ := Option.bind_eq_some_iff.mp titled
    exact titles groupId ((deleted.title?_of_stored storedNew).trans namedNew)
  · apply moving.hosted seating (dropped.trans deleted)
    · intro placement placed here
      obtain ⟨own, foundOwn, belongs, -⟩ := exists_face_of_seating seating placed
      have listedOwn := (seating.aligned.mem_iff target [first] ?_ _).mpr
        ⟨own, foundOwn, belongs.trans (congrArg some here)⟩
      · exact .inl listedOwn
      · rw [Store.listed?_eq seating.stored lists]
    · intro id isKept isFirst
      rw [List.mem_singleton.mp isFirst] at isKept
      cases (fresh first isKept).symm.trans found

/-- A group that could be created stands. -/
theorem yields_createUnguarded (valid : group.check = .ok ()) (sound : store.Sound)
    (aligned : store.Aligned) (distinct : (group.dashboards.map (·.name)).Nodup)
    (untaken : store.named .group group.name = []) :
    Plan.Yields Store.server answer (group.createUnguarded {}) store
      fun _ after => ∃ target kept, Standing group target kept after := by
  have object : (Json.record group.fields).isObject = true := (Json.isRecord_record _).isObject
  obtain ⟨created, target, first, between, answered, stored, named, founded⟩ :=
    sound.server_post_group aligned.consistent
      ((({} : Overrides).isObject_applied (.record group.fields)).trans object) group.name
  have titles : ∀ groupId, between.title? groupId = some group.name → groupId = target := by
    intro groupId titled
    by_contra different
    rw [Store.title?, founded.groups groupId different] at titled
    obtain ⟨other, stored', isNamed⟩ := Option.bind_eq_some_iff.mp titled
    exact (Store.named_eq_nil_iff sound.ordered ..).mp untaken groupId other stored' isNamed
  unfold createUnguarded
  rw [Plan.checked_eq (payload_eq valid), pure_bind, Overrides.apply_eq {} object, pure_bind]
  dsimp only
  rw [nameOf_applied rfl]
  apply Plan.yields_call
  intro reply after answered'
  obtain ⟨same, rfl⟩ := Prod.mk.inj (answered.symm.trans answered')
  obtain rfl := Except.ok.inj same
  show Plan.Yields Store.server answer (if group.dashboards.isEmpty then _ else _) between _
  split
  case isTrue empty =>
    have none : group.dashboards = [] := List.isEmpty_iff.mp empty
    apply Plan.yields_pure
    refine ⟨target, [], founded.sound, ⟨created, stored, named, fun filled => (filled none).elim⟩,
      titles, ?_⟩
    rw [none]
    exact ⟨.nil, fun _ _ _ _ member => absurd member List.not_mem_nil⟩
  case isFalse =>
    obtain ⟨document, stored', lists⟩ := founded.group
    obtain rfl := Option.some.inj (stored.symm.trans stored')
    rw [requireId_eq (founded.sound.id_of_resource? stored).1, pure_bind]
    apply Plan.yields_bind (yields_placements distinct
      (.ofTitles founded.sound (founded.aligned aligned) stored titles))
    intro placements start seating
    apply Plan.yields_bind (ensures_clones_moving seating).yields
    rintro _ moved ⟨kept, moving, fresh⟩
    apply (ensures_dropDefault distinct seating moving fresh lists).yields.mono
    rintro reply after ⟨soundAfter, storedReply, sameName, subset, titlesAfter, hosted⟩
    exact ⟨target, kept, soundAfter, ⟨reply, storedReply, sameName.trans named, fun _ => subset⟩,
      titlesAfter, hosted⟩

/-- An update of a group that succeeds leaves it standing. -/
theorem yields_update (sound : store.Sound) (aligned : store.Aligned)
    (distinct : (group.dashboards.map (·.name)).Nodup) :
    Plan.Yields Store.server answer (group.update {}) store
      fun _ after => group.check = .ok () ∧ ∃ target kept, Standing group target kept after := by
  unfold update
  apply Plan.yields_checked_bind
  rintro ⟨⟩ valid
  apply Plan.yields_bind (Store.yields_findUnique .group group.name)
  rintro found store ⟨alone, rfl⟩
  cases found with
  | none =>
      apply (yields_createUnguarded valid sound aligned distinct alone).mono
      exact fun _ _ standing => ⟨valid, standing⟩
  | some remote =>
      apply (yields_update_stored valid sound aligned distinct alone).mono
      exact fun _ _ standing => ⟨valid, standing⟩

end DashboardGroup

end SignalBoard
