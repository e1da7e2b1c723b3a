/-
# What becomes of the settings of dashboards in a group

A dashboard is written with its settings when it is put in its place. If that place is in the target
group, it stays there, and nothing writes it again. If it is elsewhere, a clone takes its place in
the group, and a clone has no settings. So after a group was created or updated, a local dashboard
has its settings exactly when a dashboard of its name was in the group before.
-/

import SignalBoard.Proofs.Group.Atomic
import SignalBoard.Proofs.Group.Reach
import SignalBoard.Proofs.Group.Retained
import SignalBoard.Proofs.Integrity.Dashboard

namespace SignalBoard

open Function (update)

/-- The document has every setting of the local dashboard, with the local value. -/
def Dashboard.Carried (dashboard : Dashboard) (document : Json) : Prop :=
  ∀ settings, dashboard.settingsPayload? = some settings → ∀ key value,
    settings.get? key = some value → document.get? key = some value

namespace Dashboard

variable {answer : Question → Bool} {dashboard : Dashboard} {store : Store} {id : String}
  {document : Json}

/-- What is written for a dashboard in the end has its settings. -/
theorem carried_finish (object : document.isObject = true) :
    dashboard.Carried (dashboard.finish {} id document) := by
  intro settings present key value isSetting
  have isRecord : settings = .record dashboard.settings := by
    rw [settingsPayload?] at present
    split at present
    · cases present
    · exact (Option.some.inj present).symm
  have notId : key ≠ "id" := by
    rintro rfl
    rw [isRecord, Json.get?_record (by simp [Dashboard.settings]),
      Table.get?_eq_none (by simp [Dashboard.settings])] at isSetting
    cases isSetting
  have laid := dashboard.isObject_withSettings object
  have record : settings.IsRecord := isRecord ▸ Json.isRecord_record _
  show (Json.withField (dashboard.withSettings document) "id" (.str id)).get? key = some value
  rw [Json.get?_withField laid, if_neg notId, withSettings, present,
    Json.get?_overlay object record, isSetting, Option.some_or]

/-- An update writes one dashboard, with the settings and the name of the local one. -/
structure Written (dashboard : Dashboard) (id : String) (document : Json) (before after : Store) :
    Prop where
  stored : after.resource? .dashboard id = some document
  carried : dashboard.Carried document
  isNamed : document.name? = some dashboard.name
  others : ∀ other, other ≠ id →
    after.resource? .dashboard other = before.resource? .dashboard other

/-- A dashboard whose name identifies at most one is written with its settings. -/
theorem ensures_update_written (sound : store.Sound) (consistent : store.Consistent)
    (valid : dashboard.check = .ok ()) {found : Option Json}
    (named : store.named .dashboard dashboard.name = found.toList) :
    Plan.Ensures Store.server answer (dashboard.update {}) store
      fun reply after => ∃ id, reply.id? = some id ∧ dashboard.Written id reply store after := by
  cases found with
  | none =>
      unfold update
      rw [Plan.checked_eq valid, pure_bind]
      apply Plan.ensures_bind (Store.ensures_findUnique named)
      rintro _ store ⟨rfl, rfl⟩
      apply ((ensures_createUnguarded_created sound valid {}).keeping Store.sound_server sound).mono
      rintro reply after ⟨⟨groupId, id, chartIds, created⟩, soundAfter⟩
      refine ⟨id, (soundAfter.id_of_resource? created.stored).1, created.stored, ?_,
        created.name?_reply, fun other different => ?_⟩
      · rw [created.written]
        exact carried_finish (Store.sorted_dashboardDocument ..).isRecord.isObject
      · exact created.elsewhere.resource?_eq (Store.Extended.dashboards_away other different)
  | some remote =>
      obtain ⟨id, stored, isNamed⟩ := sound.exists_of_named named
      have object := sound.isObject (Store.get?_of_resource? stored)
      have laid : (remote.withField "charts"
          (.arr (dashboard.relaid store (Layout.entries remote)))).isObject = true := by simpa
      apply ((ensures_update_stored valid sound {} named stored
        (consistent.placeable sound stored)).keeping Store.sound_server sound).mono
      rintro reply _ ⟨⟨isReply, between, reconciled, rfl⟩, soundAfter⟩
      have written : (between.set (Kind.dashboard.path id) reply).resource? .dashboard id =
          some reply := by
        rw [Store.resource?_of_clean (Store.clean_of_resource? stored), Store.get?_set, if_pos rfl]
      refine ⟨id, (soundAfter.id_of_resource? written).1, written, ?_, ?_, ?_⟩
      · rw [isReply]
        exact carried_finish laid
      · rw [isReply, name?_updated object, isNamed]
      · intro other different
        apply (reconciled.agreesOff_set reply).resource?_eq
        rw [List.mem_cons, not_or]
        exact ⟨fun same => different (Kind.path_inj same).2,
          Kind.path_not_mem_paths (by decide) _ _⟩

end Dashboard

namespace Store

open DashboardGroup (originals)

variable {before between after start store : Store} {id target name : String} {document : Json}
  {dashboard : Dashboard} {dashboards : List Dashboard} {placement : Placement}
  {placements : List Placement}

/-- Dashboards keep their names and their groups, and none comes into the target group. -/
structure Rooted (target : String) (before after : Store) : Prop where
  stays : ∀ id face, before.face? id = some face → ∃ face', after.face? id = some face' ∧
    face'.name = face.name ∧ face'.groupId = face.groupId
  known : ∀ id face', after.face? id = some face' → face'.groupId = some target →
    ∃ face, before.face? id = some face ∧ face.name = face'.name ∧ face.groupId = some target

namespace Rooted

theorem refl (target : String) (store : Store) : Rooted target store store where
  stays := fun _ face found => ⟨face, found, rfl, rfl⟩
  known := fun _ face found inside => ⟨face, found, rfl, inside⟩

theorem trans (earlier : Rooted target before between) (later : Rooted target between after) :
    Rooted target before after where
  stays := by
    intro id face found
    obtain ⟨face', found', name, group⟩ := earlier.stays id face found
    obtain ⟨face'', found'', name', group'⟩ := later.stays id face' found'
    exact ⟨face'', found'', name'.trans name, group'.trans group⟩
  known := by
    intro id face'' found'' inside
    obtain ⟨face', found', name', inside'⟩ := later.known id face'' found'' inside
    obtain ⟨face, found, name, isInside⟩ := earlier.known id face' found' inside'
    exact ⟨face, found, name.trans name', isInside⟩

end Rooted

/-- A dashboard that is put in its place stays in its group, or founds a new one. -/
theorem Seated.rooted (seated : Seated dashboard placement before after)
    (stored : (before.resource? .group target).isSome) : Rooted target before after := by
  obtain ⟨face, fits, faces⟩ := seated.exists_face
  have own : after.face? placement.dashboardId = some face := by rw [faces, Function.update_self]
  have others : ∀ id, id ≠ placement.dashboardId → after.face? id = before.face? id :=
    fun id other => by rw [faces, Function.update_of_ne other]
  constructor
  case stays =>
    intro id old found
    by_cases here : id = placement.dashboardId
    · subst here
      refine ⟨face, own, ?_, ?_⟩
      · rw [fits.isNamed, seated.name_eq found]
      · cases seated with
        | stays there belonged =>
            obtain rfl := Option.some.inj (there.symm.trans found)
            rw [fits.belongs, belonged]
        | founded _ _ founded => cases founded.fresh.symm.trans found
    · exact ⟨old, (others id here).trans found, rfl, rfl⟩
  case known =>
    intro id new found inside
    by_cases here : id = placement.dashboardId
    · subst here
      obtain rfl := Option.some.inj (own.symm.trans found)
      have isTarget : placement.groupId = target :=
        Option.some.inj (fits.belongs.symm.trans inside)
      cases seated with
      | stays there belonged _ isNamed =>
          exact ⟨_, there, isNamed.trans fits.isNamed.symm, isTarget ▸ belonged⟩
      | founded _ _ founded =>
          rw [← isTarget, founded.freshGroup] at stored
          cases stored
    · exact ⟨new, (others id here).symm.trans found, rfl, inside⟩

/-- Some dashboards were put in their places with their settings. -/
structure Furnished (target : String) (start : Store) (dashboards : List Dashboard)
    (placements : List Placement) (store : Store) : Prop where
  written : List.Forall₂ (fun dashboard placement => ∃ document,
    store.resource? .dashboard placement.dashboardId = some document ∧
      dashboard.Carried document ∧ document.name? = some dashboard.name) dashboards placements
  rooted : Rooted target start store

/-- One more dashboard of another name is put in its place. -/
theorem Furnished.snoc (furnished : Furnished target start dashboards placements before)
    (seated : Seated dashboard placement before after)
    (written : dashboard.Written placement.dashboardId document before after)
    (stored : (before.resource? .group target).isSome)
    (new : ∀ other ∈ dashboards, other.name ≠ dashboard.name) :
    Furnished target start (dashboards ++ [dashboard]) (placements ++ [placement]) after where
  written := by
    apply List.rel_append _
      (.cons ⟨document, written.stored, written.carried, written.isNamed⟩ .nil)
    refine List.forall₂_iff_zip.mpr ⟨furnished.written.length_eq, fun {other earlier} member => ?_⟩
    obtain ⟨old, there, carried, isNamed⟩ := (List.forall₂_iff_zip.mp furnished.written).2 member
    refine ⟨old, ?_, carried, isNamed⟩
    rw [written.others, there]
    intro same
    have named := seated.name_eq (same ▸ face?_eq there)
    exact new other (List.of_mem_zip member).1 (Option.some.inj (isNamed.symm.trans named))
  rooted := furnished.rooted.trans (seated.rooted stored)

/-- The group has a dashboard of the name. -/
def Shelters (store : Store) (target : String) (dashboard : Dashboard) : Prop :=
  ∃ id document, store.resource? .dashboard id = some document ∧
    document.name? = some dashboard.name ∧ document.groupId? = some target

theorem shelters_iff : store.Shelters target dashboard ↔ ∃ id face, store.face? id = some face ∧
    face.name = some dashboard.name ∧ face.groupId = some target := by
  constructor
  · rintro ⟨id, document, stored, isNamed, inside⟩
    exact ⟨id, _, face?_eq stored, isNamed, inside⟩
  · rintro ⟨id, face, found, isNamed, inside⟩
    obtain ⟨document, stored, rfl⟩ := exists_of_face? found
    exact ⟨id, document, stored, isNamed, inside⟩

/-- The one stored dashboard of the name is in the target group. It has the local settings if the
group had a dashboard of the name before, and none if it had not. -/
structure Outfitted (dashboard : Dashboard) (target : String) (before after : Store) (id : String)
    (document : Json) : Prop where
  stored : after.resource? .dashboard id = some document
  isNamed : document.name? = some dashboard.name
  belongs : document.groupId? = some target
  only : ∀ id' other, after.resource? .dashboard id' = some other →
    other.name? = some dashboard.name → id' = id
  stayed : before.Shelters target dashboard → dashboard.Carried document
  cloned : ¬ before.Shelters target dashboard → document.Bare

/-- What leaves the dashboards as they are. -/
theorem Outfitted.congr (outfitted : Outfitted dashboard target before between id document)
    (same : ∀ id, after.resource? .dashboard id = between.resource? .dashboard id) :
    Outfitted dashboard target before after id document where
  stored := (same id).trans outfitted.stored
  isNamed := outfitted.isNamed
  belongs := outfitted.belongs
  only := fun id' other stored => outfitted.only id' other ((same id').symm.trans stored)
  stayed := outfitted.stayed
  cloned := outfitted.cloned

/-- The dashboard of a name that the target group hosts. -/
theorem Hosted.exists_document {kept : List String} (hosted : Hosted dashboards target kept store)
    (distinct : (dashboards.map (·.name)).Nodup) (member : dashboard ∈ dashboards) :
    ∃ id ∈ kept, ∃ document, store.resource? .dashboard id = some document ∧
      document.name? = some dashboard.name ∧ document.groupId? = some target ∧
      ∀ id' other, store.resource? .dashboard id' = some other →
        other.name? = some dashboard.name → id' = id := by
  obtain ⟨id, isKept, face, found, fits, only⟩ := hosted.exists_of_mem distinct member
  obtain ⟨document, stored, rfl⟩ := exists_of_face? found
  exact ⟨id, isKept, document, stored, fits.isNamed, fits.belongs,
    fun id' other stored' => only id' _ (face?_eq stored')⟩

/-- No dashboard is in a group that is not there yet. -/
theorem Founded.not_shelters {face : Face} (founded : Founded target id face before after)
    (aligned : before.Aligned) : ¬ before.Shelters target dashboard := by
  intro shelters
  obtain ⟨other, face, found, -, isInside⟩ := shelters_iff.mp shelters
  obtain ⟨ids, listed, -⟩ := aligned.exists_listed found isInside
  rw [listed?, founded.freshGroup] at listed
  cases listed

/-- In a group that was there, what was in it stays with its settings, and the rest are clones. -/
theorem Furnished.outfitted {kept : List String}
    (furnished : Furnished target before dashboards placements start)
    (seating : Seating name target document dashboards placements start)
    (distinct : (dashboards.map (·.name)).Nodup) (retains : start.Retains after)
    (origin : ∀ id ∈ kept, start.face? id = none ∨
      ∃ face, start.face? id = some face ∧ face.groupId = some target)
    (inside : ∀ placement ∈ placements, placement.groupId = target → placement.dashboardId ∈ kept)
    (hosted : Hosted dashboards target kept after) (member : dashboard ∈ dashboards) :
    ∃ id document, Outfitted dashboard target before after id document := by
  obtain ⟨id, isKept, found, stored, isNamed, belongs, only⟩ :=
    hosted.exists_document distinct member
  have same : ∀ other old new, start.resource? .dashboard other = some old →
      after.resource? .dashboard other = some new → new = old := fun other old new known =>
    retains.resource?_eq seating.sound known
  -- A dashboard of the name that the group has once all are placed is the one that is hosted.
  have isHosted : ∀ other face, start.face? other = some face →
      face.name = some dashboard.name → face.groupId = some target → other = id := by
    intro other face there named isInside
    obtain ⟨placement, placed, rfl⟩ :=
      List.mem_map.mp (seating.only other face there dashboard member named)
    obtain ⟨own, -, face', there', fits⟩ := exists_of_forall₂_right seating.seated placed
    obtain rfl := Option.some.inj (there.symm.trans there')
    have here := inside placement placed (Option.some.inj (fits.belongs.symm.trans isInside))
    obtain ⟨-, -, new, isNew, -⟩ := exists_of_forall₂_right hosted.shown here
    obtain ⟨document, storedNew, -⟩ := exists_of_face? isNew
    obtain ⟨old, storedOld, isOld⟩ := exists_of_face? there
    apply only _ document storedNew
    rw [same _ old document storedOld storedNew, ← named, ← isOld]
    rfl
  refine ⟨id, found, stored, isNamed, belongs, only, fun shelters => ?_, fun shelters => ?_⟩
  · obtain ⟨first, face, there, named, isInside⟩ := shelters_iff.mp shelters
    obtain ⟨face', there', sameName, sameGroup⟩ := furnished.rooted.stays first face there
    obtain rfl := isHosted first face' there' (sameName.trans named) (sameGroup.trans isInside)
    obtain ⟨placement, placed, rfl⟩ := List.mem_map.mp
      (seating.only first face' there' dashboard member (sameName.trans named))
    obtain ⟨own, isOwn, document, storedOwn, carried, ownName⟩ :=
      exists_of_forall₂_right furnished.written placed
    obtain rfl := same _ document found storedOwn stored
    obtain rfl := List.inj_on_of_nodup_map distinct isOwn member
      (Option.some.inj (ownName.symm.trans isNamed))
    exact carried
  · cases unknown : start.resource? .dashboard id with
    | none => exact retains.bare unknown stored
    | some old =>
        obtain rfl := same id old found unknown stored
        have there := face?_eq unknown
        rcases origin id isKept with none | ⟨face, isFace, isInside⟩
        · cases none.symm.trans there
        · obtain rfl := Option.some.inj (isFace.symm.trans there)
          obtain ⟨face', there', sameName, wasInside⟩ := furnished.rooted.known id _ there isInside
          exact (shelters (shelters_iff.mpr
            ⟨id, face', there', sameName.trans isNamed, wasInside⟩)).elim

/-- In a group that was not there, all are clones. -/
theorem Hosted.outfitted {kept : List String} (hosted : Hosted dashboards target kept after)
    (distinct : (dashboards.map (·.name)).Nodup) (retains : start.Retains after)
    (fresh : ∀ id ∈ kept, start.face? id = none) (empty : ¬ before.Shelters target dashboard)
    (member : dashboard ∈ dashboards) :
    ∃ id document, Outfitted dashboard target before after id document := by
  obtain ⟨id, isKept, found, stored, isNamed, belongs, only⟩ :=
    hosted.exists_document distinct member
  have unknown : start.resource? .dashboard id = none := Option.map_eq_none_iff.mp (fresh id isKept)
  exact ⟨id, found, stored, isNamed, belongs, only, fun shelters => (empty shelters).elim,
    fun _ => retains.bare unknown stored⟩

end Store

namespace DashboardGroup

open Store (Furnished Moving Rooted Seating)

variable {answer : Question → Bool} {dashboard : Dashboard} {store : Store}

/-- A dashboard that could be placed was written with its settings. -/
theorem yields_placeDashboard_written (sound : store.Sound) (aligned : store.Aligned) :
    Plan.Yields Store.server answer (placeDashboard dashboard) store
      fun placement after => ∃ document,
        dashboard.Written placement.dashboardId document store after := by
  apply yields_placeDashboard_found.assuming
  rintro ⟨valid, found, named⟩
  unfold placeDashboard
  apply Plan.yields_bind
    (Dashboard.ensures_update_written sound aligned.consistent valid named).yields
  rintro reply after ⟨id, identified, written⟩
  rw [requireId_eq identified, pure_bind]
  exact Plan.yields_pure ⟨reply, written⟩

variable {name target : String} {document : Json} {dashboards : List Dashboard}
  {group : DashboardGroup}

/-- All dashboards that could be placed are in their places with their settings. -/
theorem yields_placements_furnished (distinct : (dashboards.map (·.name)).Nodup)
    (seating : Seating name target document [] [] store) :
    Plan.Yields Store.server answer (dashboards.mapM placeDashboard) store
      fun placements after => Seating name target document dashboards placements after ∧
        Furnished target store dashboards placements after := by
  apply Plan.yields_mapM (fun past placements after =>
      Seating name target document past placements after ∧
        Furnished target store past placements after) ?_
    (List.nil_append dashboards) ⟨seating, .nil, .refl target store⟩
  rintro past dashboard rest found between split ⟨seating, furnished⟩
  apply ((yields_placeDashboard seating.sound seating.aligned).and
    (yields_placeDashboard_written seating.sound seating.aligned)).mono
  rintro placement after ⟨⟨sound, seated⟩, document, written⟩
  have new : ∀ other ∈ past, other.name ≠ dashboard.name := by
    intro other earlier same
    rw [← split, List.map_append, List.map_cons, List.nodup_append] at distinct
    exact distinct.2.2 _ (List.mem_map_of_mem earlier) _ List.mem_cons_self same
  exact ⟨seating.snoc seated sound new,
    furnished.snoc seated written (by rw [seating.stored]; rfl) new⟩

/-- If the dashboards of a stored group can be reconciled, those that were in it have their
settings. -/
theorem yields_reconcileDashboards_outfitted (distinct : (group.dashboards.map (·.name)).Nodup)
    (seating : Seating name target document [] [] store) :
    Plan.Yields Store.server answer (group.reconcileDashboards target) store
      fun _ after => after.Sound ∧ (after.resource? .group target).isSome ∧
        ∀ dashboard ∈ group.dashboards, ∃ id document,
          Store.Outfitted dashboard target store after id document := by
  have moves : Plan.Yields Store.server answer (group.reconcileDashboards target) store
      fun kept after => ∃ placements start,
        Seating name target document group.dashboards placements start ∧
        Furnished target store group.dashboards placements start ∧ start.Retains after ∧
        (∀ id ∈ kept, start.face? id = none ∨
          ∃ face, start.face? id = some face ∧ face.groupId = some target) ∧
        ∀ placement ∈ placements, placement.groupId = target → placement.dashboardId ∈ kept := by
    apply Plan.yields_bind (yields_placements_furnished distinct seating)
    rintro placements start ⟨seating, furnished⟩
    have retains : Plan.Yields Store.server answer (regroup target placements) start
        fun _ after => start.Retains after :=
      ⟨fun _ _ => (sends_regroup target placements).retains answer start⟩
    have settles : Plan.Yields Store.server answer (regroup target placements) start
        fun kept _ => (∀ id ∈ kept, start.face? id = none ∨
            ∃ face, start.face? id = some face ∧ face.groupId = some target) ∧
          ∀ placement ∈ placements, placement.groupId = target →
            placement.dashboardId ∈ kept := by
      apply Plan.yields_bind (yields_settlings seating)
      rintro kept moved ⟨moving, inside⟩
      -- What follows gives the identifiers back as they are.
      apply Plan.yields_bind (Plan.yields_true _ _)
      intro _ _ _
      apply Plan.yields_bind (Plan.yields_true _ _)
      intro current _ _
      apply Plan.yields_bind (Plan.yields_true _ _)
      exact fun _ _ _ => Plan.yields_pure ⟨moving.origin, inside⟩
    apply (retains.and settles).mono
    rintro kept after ⟨retained, origin, inside⟩
    exact ⟨placements, start, seating, furnished, retained, origin, inside⟩
  apply ((yields_reconcileDashboards distinct seating).and moves).mono
  rintro kept after ⟨⟨sound, left, hosted, -⟩, placements, start, seating, furnished, retains,
    origin, inside⟩
  exact ⟨sound, left, fun dashboard member =>
    furnished.outfitted seating distinct retains origin inside hosted member⟩

/-- A group is written last, and no dashboard with it. -/
theorem ensures_write_group (valid : group.check = .ok ()) (sound : store.Sound) {current : Json}
    (stored : store.resource? .group target = some current) (overrides : Overrides) :
    Plan.Ensures Store.server answer (do
        let fields ← Plan.checked group.unnamedPayload
        let document ← overrides.apply (document.overlay fields)
        Plan.put (Kind.group.path target) document) store
      fun reply after => reply.id? = some target ∧ ∀ id,
        after.resource? .dashboard id = store.resource? .dashboard id := by
  obtain ⟨fields, passed, record, -⟩ := unnamedPayload_eq valid
  have laid := Json.isObject_overlay record.isObject document
  have written := (overrides.isObject_applied _).trans laid
  rw [Plan.checked_eq passed, pure_bind, overrides.apply_eq laid, pure_bind]
  have identified := (sound.id_of_resource? stored).1
  apply Plan.ensures_call (Store.server_put (Store.get?_of_resource? stored) identified written)
  refine Plan.ensures_pure ⟨(Json.Stamped.withField_id written target).id?_eq, fun id => ?_⟩
  exact Store.resource?_congr (by rw [Store.get?_set, if_neg (Kind.path_ne (by decide) _ _)])

/-- A stored group that could be updated has its dashboards as they can be. -/
theorem yields_update_stored_outfitted {remote : Json} (valid : group.check = .ok ())
    (sound : store.Sound) (aligned : store.Aligned)
    (distinct : (group.dashboards.map (·.name)).Nodup) (overrides : Overrides)
    (alone : store.named .group group.name = [remote]) :
    Plan.Yields Store.server answer (do
        let id ← requireId remote
        let document ←
          if group.dashboards.isEmpty then pure remote
          else do
            let kept ← group.reconcileDashboards id
            Plan.assign "dashboards" (Json.ofStrings kept) remote
        let fields ← Plan.checked group.unnamedPayload
        let document ← overrides.apply (document.overlay fields)
        Plan.put (Kind.group.path id) document) store
      fun reply after => ∃ target, reply.id? = some target ∧ ∀ dashboard ∈ group.dashboards,
        ∃ id document, Store.Outfitted dashboard target store after id document := by
  obtain ⟨target, stored, isNamed⟩ := sound.exists_of_named alone
  have object := sound.isObject (Store.get?_of_resource? stored)
  have titles : ∀ groupId, store.title? groupId = some group.name → groupId = target :=
    fun _ => sound.eq_of_title? alone stored
  rw [requireId_eq (sound.id_of_resource? stored).1, pure_bind]
  dsimp only
  split
  case isTrue empty =>
    have none : group.dashboards = [] := List.isEmpty_iff.mp empty
    apply (ensures_write_group valid sound stored overrides).yields.mono
    rintro reply after ⟨identified, -⟩
    exact ⟨target, identified, by simp [none]⟩
  case isFalse =>
    apply Plan.yields_bind (yields_reconcileDashboards_outfitted distinct
      (.ofTitles sound aligned stored titles))
    rintro kept between ⟨soundBetween, left, outfitted⟩
    obtain ⟨current, storedBetween⟩ := Option.isSome_iff_exists.mp left
    rw [Plan.assign_eq object, pure_bind]
    apply (ensures_write_group valid soundBetween storedBetween overrides).yields.mono
    rintro reply after ⟨identified, same⟩
    refine ⟨target, identified, fun dashboard member => ?_⟩
    obtain ⟨id, document, isOutfitted⟩ := outfitted dashboard member
    exact ⟨id, document, isOutfitted.congr same⟩

/-- A group that could be created has clones of its dashboards, without their settings. -/
theorem yields_createUnguarded_outfitted (valid : group.check = .ok ()) (sound : store.Sound)
    (aligned : store.Aligned) (distinct : (group.dashboards.map (·.name)).Nodup)
    (overrides : Overrides) :
    Plan.Yields Store.server answer (group.createUnguarded overrides) store
      fun reply after => ∃ target, reply.id? = some target ∧ ∀ dashboard ∈ group.dashboards,
        ∃ id document, Store.Outfitted dashboard target store after id document := by
  have object : (Json.record group.fields).isObject = true := (Json.isRecord_record _).isObject
  have applied := (overrides.isObject_applied (.record group.fields)).trans object
  unfold createUnguarded
  rw [Plan.checked_eq (payload_eq valid), pure_bind, overrides.apply_eq object, pure_bind]
  dsimp only
  obtain ⟨created, target, first, between, answered, stored, -, founded⟩ :=
    sound.server_post_group aligned.consistent applied
      (((overrides.applied (.record group.fields)).field "name").string?.getD group.name)
  apply Plan.yields_call
  intro reply after answered'
  obtain ⟨same, rfl⟩ := Prod.mk.inj (answered.symm.trans answered')
  obtain rfl := Except.ok.inj same
  have identified := (founded.sound.id_of_resource? stored).1
  show Plan.Yields Store.server answer (if group.dashboards.isEmpty then _ else _) between _
  split
  case isTrue empty =>
    have none : group.dashboards = [] := List.isEmpty_iff.mp empty
    exact Plan.yields_pure ⟨target, identified, by simp [none]⟩
  case isFalse =>
    obtain ⟨document, stored', lists⟩ := founded.group
    obtain rfl := Option.some.inj (stored.symm.trans stored')
    rw [requireId_eq identified, pure_bind]
    obtain ⟨name, unused⟩ := between.exists_untitled
    apply Plan.yields_bind (yields_placements distinct (.ofTitles founded.sound
      (founded.aligned aligned) stored fun groupId titled => (unused groupId titled).elim))
    intro placements start seating
    have retains : Plan.Yields Store.server answer (populate target created placements) start
        fun _ after => start.Retains after :=
      ⟨fun _ _ => (sends_populate target created placements).retains answer start⟩
    have hosts : Plan.Yields Store.server answer (populate target created placements) start
        fun reply after => reply.id? = some target ∧ ∃ kept, (∀ id ∈ kept, start.face? id = none) ∧
          Store.Hosted group.dashboards target kept after := by
      apply Plan.yields_bind (ensures_clones_moving seating).yields
      rintro _ moved ⟨kept, moving, fresh⟩
      apply (ensures_dropDefault distinct seating moving fresh lists).yields.mono
      rintro reply after ⟨soundAfter, storedReply, -, -, -, hosted⟩
      exact ⟨(soundAfter.id_of_resource? storedReply).1, kept, fresh, hosted⟩
    apply (retains.and hosts).mono
    rintro reply after ⟨retained, identified, kept, fresh, hosted⟩
    exact ⟨target, identified, fun dashboard =>
      hosted.outfitted distinct retained fresh (founded.not_shelters aligned)⟩

/-- A group that could be updated has its dashboards as they can be, also if it was created. -/
theorem yields_update_outfitted (sound : store.Sound) (aligned : store.Aligned)
    (distinct : (group.dashboards.map (·.name)).Nodup) (overrides : Overrides) :
    Plan.Yields Store.server answer (group.update overrides) store
      fun reply after => ∃ target, reply.id? = some target ∧ ∀ dashboard ∈ group.dashboards,
        ∃ id document, Store.Outfitted dashboard target store after id document := by
  apply Plan.yields_checked_bind
  rintro ⟨⟩ valid
  apply Plan.yields_bind (Store.yields_findUnique .group group.name)
  rintro found store ⟨alone, rfl⟩
  cases found with
  | none => exact yields_createUnguarded_outfitted valid sound aligned distinct overrides
  | some remote =>
      exact yields_update_stored_outfitted valid sound aligned distinct overrides alone

/-- A group that could be created has clones of its dashboards, whatever its name was taken by. -/
theorem yields_create_outfitted (sound : store.Sound) (aligned : store.Aligned)
    (distinct : (group.dashboards.map (·.name)).Nodup) (options : CreateOptions) :
    Plan.Yields Store.server answer (group.create options) store
      fun reply after => ∃ target, reply.id? = some target ∧ ∀ dashboard ∈ group.dashboards,
        ∃ id document, Store.Outfitted dashboard target store after id document := by
  apply Plan.yields_checked_bind
  rintro ⟨⟩ valid
  apply Plan.yields_bind (Store.yields_guardCreate_same .group group.name options)
  rintro _ store rfl
  exact yields_createUnguarded_outfitted valid sound aligned distinct {}

/-- After a group was created or updated, each local dashboard is the one stored dashboard of its
name and is in the group. It has its settings if a dashboard of its name was in the group before. If
not, it is a clone, which has none. -/
theorem settings_of_members (reachable : store.Reachable) (aligned : store.Aligned)
    (distinct : (group.dashboards.map (·.name)).Nodup) {plan : Plan Json}
    (isPlan : (∃ options, plan = group.create options) ∨ ∃ overrides, plan = group.update overrides)
    {reply : Json} (ended : (plan.run Store.server answer store).result = .ok reply) :
    ∃ target, reply.id? = some target ∧ ∀ dashboard ∈ group.dashboards, ∃ id document,
      Store.Outfitted dashboard target store (plan.run Store.server answer store).state id
        document := by
  have sound := reachable.sound
  rcases isPlan with ⟨options, rfl⟩ | ⟨overrides, rfl⟩
  · exact (yields_create_outfitted sound aligned distinct options).promised reply ended
  · exact (yields_update_outfitted sound aligned distinct overrides).promised reply ended

/-- A group with settings for a dashboard that is in it and for one that is nowhere. -/
def described : DashboardGroup where
  name := "team"
  dashboards := [{ name := "team", description := some "old" },
    { name := "new", description := some "new" }]

/-- The dashboard that was in the group has its description after an update. -/
theorem settings_of_members_described :
    ∃ id document, (((described.update {}).run Store.server (fun _ => false)
        teamStore).state).resource? .dashboard id = some document ∧
      document.name? = some "team" ∧ document.get? "description" = some (.str "old") := by
  have succeeds : ((described.update {}).run Store.server (fun _ => false)
      teamStore).result.toOption.bind Json.id? = some "id-1" := by decide +kernel
  obtain ⟨reply, isReply, identified⟩ := Option.bind_eq_some_iff.mp succeeds
  have ended : ((described.update {}).run Store.server (fun _ => false) teamStore).result =
      .ok reply := by
    cases outcome : ((described.update {}).run Store.server (fun _ => false) teamStore).result with
    | error fault => rw [outcome] at isReply; cases isReply
    | ok value => rw [outcome] at isReply; exact congrArg _ (Option.some.inj isReply)
  have inside : (teamStore.resource? .dashboard "id-3").map
      (fun document => (document.name?, document.groupId?)) = some (some "team", some "id-1") := by
    decide +kernel
  obtain ⟨old, storedOld, isOld⟩ := Option.map_eq_some_iff.mp inside
  obtain ⟨target, isTarget, each⟩ := settings_of_members reachable_teamStore
    grouped_teamStore.aligned (by decide) (.inr ⟨{}, rfl⟩) ended
  obtain rfl := Option.some.inj (identified.symm.trans isTarget)
  obtain ⟨id, document, isOutfitted⟩ := each _ List.mem_cons_self
  have carried := isOutfitted.stayed
    ⟨"id-3", old, storedOld, (Prod.mk.inj isOld).1, (Prod.mk.inj isOld).2⟩
  exact ⟨id, document, isOutfitted.stored, isOutfitted.isNamed,
    carried _ (by rfl) "description" (.str "old") (by rfl)⟩

/-- The dashboard that was nowhere is in the group without its description. -/
theorem settings_lost_described :
    teamStore.Reachable ∧ teamStore.Grouped ∧ (described.dashboards.map (·.name)).Nodup ∧
      let run := (described.update {}).run Store.server (fun _ => false) teamStore
      run.result.toOption.isSome = true ∧
        ∃ document ∈ run.state.under Kind.dashboard.endpoint, document.name? = some "new" ∧
          document.groupId? = some "id-1" ∧ document.get? "description" = none :=
  ⟨reachable_teamStore, grouped_teamStore, by decide, by decide +kernel, by decide +kernel⟩

end DashboardGroup

end SignalBoard
