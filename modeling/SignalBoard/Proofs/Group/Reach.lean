/-
# Groups reach their dashboards

Wherever the dashboards of a group were before, in no group, in groups of their own, in groups
with others or in the group itself, creating or updating the group leaves it with exactly the
local dashboards in the local order, and no other dashboard has one of their names. A group that
is created goes through a dashboard of the service that is removed again; one that is updated
loses the dashboards it had under other names.
-/

import SignalBoard.Proofs.Group.Loops

namespace SignalBoard

namespace Store

open Function (update)

variable {before after : Store} {id groupId : String} {face : Face} {ids gone : List String}
  {dashboards : List Dashboard}

/-- No dashboard is gathered twice. -/
theorem Gathered.nodup (gathered : before.Gathered dashboards groupId ids)
    (distinct : (dashboards.map (·.name)).Nodup) : ids.Nodup :=
  nodup_of_shown (gathered.shown.imp fun _ _ ⟨face, found, isMatch⟩ =>
    ⟨face, found, isMatch.isNamed⟩) distinct

/-- Removing other dashboards leaves gathered ones gathered. -/
theorem Gathered.drop (gathered : before.Gathered dashboards groupId ids)
    (dropped : Dropped gone before after) (kept : ∀ id ∈ ids, id ∉ gone) :
    after.Gathered dashboards groupId ids where
  shown := by
    refine List.forall₂_iff_zip.mpr ⟨gathered.shown.length_eq, fun {dashboard id} member => ?_⟩
    obtain ⟨face, found, isMatch⟩ := (List.forall₂_iff_zip.mp gathered.shown).2 member
    refine ⟨face, ?_, isMatch⟩
    rw [dropped.face?_of_not_mem (kept id (List.of_mem_zip member).2), found]
  only := fun id face found named => gathered.only id face (dropped.face?_eq_some found).2 named

/-- A new dashboard of a foreign name leaves the local ones to be found. -/
theorem Ready.add (ready : before.Ready dashboards) (tidy : after.Tidy)
    (faces : after.face? = update before.face? id (some face))
    (foreign : ∀ dashboard ∈ dashboards, face.name ≠ some dashboard.name) :
    after.Ready dashboards where
  tidy := tidy
  findable := by
    intro dashboard member
    have findable := ready.findable dashboard member
    have known : ∀ other found, after.face? other = some found →
        found.name = some dashboard.name → before.face? other = some found := by
      intro other found there named
      rw [faces] at there
      obtain ⟨-, rfl⟩ | ⟨-, there⟩ := eq_or_of_update there
      · exact (foreign dashboard member named).elim
      · exact there
    constructor
    case only =>
      intro id id' face face' found found' named named'
      exact findable.only id id' face face' (known id face found named)
        (known id' face' found' named') named named'
    case distinct =>
      exact fun id face found named => findable.distinct id face (known id face found named) named

end Store

namespace DashboardGroup

open Plan (Turns)
open Store (Gathered Ready)

variable {answer : Question → Bool} {store : Store} {group : DashboardGroup} {groupId : String}

/-- The group is stored with the local dashboards, in the local order, each under an identifier
of its own that nothing else of one of their names has. A group that had the name before is this
one. -/
structure Reached (group : DashboardGroup) (before : Store) (groupId : String)
    (ids : List String) (reply : Json) (after : Store) : Prop where
  stored : after.resource? .group groupId = some reply
  isNamed : reply.name? = some group.name
  lists : reply.Lists ids
  gathered : after.Gathered group.dashboards groupId ids
  same : ∀ id document, before.resource? .group id = some document →
    document.name? = some group.name → id = groupId
  grouped : after.Grouped

/-- A local group that can reach its dashboards: it passes its check, and the dashboards it has are
told apart by their names, none of which is that of the empty dashboard of a new group. -/
structure Distinct (group : DashboardGroup) : Prop where
  valid : group.check = .ok ()
  filled : group.dashboards ≠ []
  dashboards : Dashboard.Distinct group.dashboards
  notDefault : "Default Dashboard" ∉ group.dashboards.map (·.name)

/-- A group that lists a dashboard of a foreign name only has none of those that were placed. -/
theorem outside_of_placements {before placed : Store} {dashboards : List Dashboard}
    {placements : List Placement} {id : String} {face : Face}
    (turns : Turns Store.Placed dashboards placements before placed)
    (distinct : (dashboards.map (·.name)).Nodup) (tidy : placed.Tidy)
    (listed : placed.listed? groupId = some [id]) (found : placed.face? id = some face)
    (foreign : ∀ dashboard ∈ dashboards, face.name ≠ some dashboard.name) :
    ∀ placement ∈ placements, placement.groupId ≠ groupId := by
  rintro placement member rfl
  obtain ⟨dashboard, isOne, face', found', isMatch⟩ :=
    Store.exists_of_forall₂_right (Store.shown_of_placements turns distinct) member
  have inGroup := (tidy.grouped.filed.mem_iff _ _ listed _).mpr ⟨face', found', isMatch.belongs⟩
  rw [List.mem_singleton.mp inGroup, found] at found'
  obtain rfl := Option.some.inj found'
  exact foreign dashboard isOne isMatch.isNamed

/-- The first dashboard of a group is deleted, and the group is left with the others. -/
theorem ensures_dropFirst {dashboards : List Dashboard} {ids : List String} {id : String}
    (tidy : store.Tidy) (gathered : store.Gathered dashboards groupId ids)
    (listed : store.listed? groupId = some (id :: ids)) :
    Plan.Ensures Store.server answer (do
        Dashboard.deleteById id
        Plan.get (Kind.group.path groupId)) store
      fun reply after => after.resource? .group groupId = some reply ∧ reply.Lists ids ∧
        reply.name? = store.title? groupId ∧ after.Gathered dashboards groupId ids ∧
        after.Grouped := by
  have filed := tidy.grouped.filed
  obtain ⟨face, found, belongs⟩ := (filed.mem_iff groupId _ listed id).mp List.mem_cons_self
  have once := List.nodup_cons.mp (filed.once groupId _ listed)
  have others : (id :: ids).filter (· ∉ [id]) = ids := by
    rw [List.filter_cons_of_neg (by simp), List.filter_eq_self]
    intro other member
    rw [decide_eq_true_iff, List.mem_singleton]
    exact fun same => once.1 (same ▸ member)
  refine Plan.ensures_bind
    (ensures_deleteById tidy.sound tidy.grouped.consistent found belongs) ?_
  rintro _ after ⟨dropped, stays⟩
  obtain ⟨old, storedOld, -⟩ := Option.map_eq_some_iff.mp listed
  obtain ⟨reply, stored⟩ := Option.isSome_iff_exists.mp (stays (by rw [storedOld]; rfl))
  obtain ⟨list, listed', lists⟩ := dropped.exists_lists tidy stored
  obtain rfl := Option.some.inj (listed.symm.trans listed')
  rw [others] at lists
  refine Plan.ensures_call (Store.server_get (Store.get?_of_resource? stored)) ?_
  refine Plan.ensures_pure ⟨stored, lists, ?_, ?_, (dropped.tidy tidy).grouped⟩
  · exact (dropped.title?_of_stored stored).symm
  · refine gathered.drop dropped fun other member same => once.1 ?_
    rwa [List.mem_singleton.mp same] at member

/-- A group whose name is not taken is created with its dashboards. -/
theorem ensures_createUnguarded (isLocal : group.Distinct) (ready : store.Ready group.dashboards)
    (untaken : ∀ id document, store.resource? .group id = some document →
      document.name? ≠ some group.name)
    {overrides : Overrides} (noName : overrides.name = none) :
    Plan.Ensures Store.server answer (group.createUnguarded overrides) store
      fun reply after => ∃ groupId ids, group.Reached store groupId ids reply after := by
  have object : (Json.record group.fields).isObject = true := (Json.isRecord_record _).isObject
  have foreign : ∀ dashboard ∈ group.dashboards,
      some "Default Dashboard" ≠ some dashboard.name := fun dashboard member same =>
    isLocal.notDefault (Option.some.inj same ▸ List.mem_map_of_mem member)
  have written := (overrides.isObject_applied (.record group.fields)).trans object
  obtain ⟨created, groupId, first, between, answered, tidy, stored, identified, named, lists,
    faces⟩ := ready.tidy.server_post_group written group.name
  have firstFace : between.face? first = some ⟨"Default Dashboard", groupId, []⟩ := by
    rw [faces, Function.update_self]
  unfold createUnguarded
  rw [Plan.checked_eq (payload_eq isLocal.valid), pure_bind, Overrides.apply_eq overrides object,
    pure_bind]
  dsimp only
  rw [nameOf_applied noName]
  refine Plan.ensures_call answered ?_
  change Plan.Ensures _ _ (if group.dashboards.isEmpty then _ else _) _ _
  rw [if_neg (by simpa using isLocal.filled), requireId_eq identified, pure_bind]
  refine Plan.ensures_bind (ensures_placements isLocal.dashboards (ready.add tidy faces foreign)) ?_
  rintro placements placed ⟨turns, readyPlaced⟩
  have storedPlaced := (Store.group_of_placements turns
    (Store.listed?_eq stored lists ▸ rfl)).trans stored
  have listedPlaced := Store.listed?_eq storedPlaced lists
  have outside := outside_of_placements turns isLocal.dashboards.names readyPlaced.tidy
    listedPlaced (Store.face_of_placements turns firstFace foreign) foreign
  refine Plan.ensures_bind (ensures_clones (clonable_of_placements turns isLocal.dashboards
    readyPlaced (listedPlaced ▸ rfl)) outside) ?_
  rintro _ settled ⟨ids, settlings, clonable⟩
  obtain ⟨listedSettled, titles⟩ := Store.listed_of_settlings settlings outside listedPlaced
  refine Plan.ensures_bind (ensures_removeSources_gathered isLocal.dashboards turns readyPlaced
    settlings clonable.tidy) ?_
  rintro _ sourced ⟨tidySourced, gathered, same⟩
  have listedSourced : sourced.listed? groupId = some (first :: ids) := by
    rw [Store.listed?, same]
    exact listedSettled
  rw [lists.members]
  change Plan.Ensures _ _ (Dashboard.deleteById first >>= fun _ => _) _ _
  refine (ensures_dropFirst tidySourced gathered listedSourced).mono ?_
  rintro reply after ⟨storedAfter, listsAfter, title, gatheredAfter, grouped⟩
  refine ⟨groupId, ids, storedAfter, ?_, listsAfter, gatheredAfter, ?_, grouped⟩
  · rw [title, Store.title?, same, ← Store.title?, titles, Store.title?_eq storedPlaced, named]
  · exact fun id document there isNamed => (untaken id document there isNamed).elim

/-- The dashboards of a stored group become the local ones; only their order in its list is
open. -/
theorem ensures_reconcileDashboards (isLocal : group.Distinct)
    (ready : store.Ready group.dashboards) {remote : Json}
    (stored : store.resource? .group groupId = some remote) :
    Plan.Ensures Store.server answer (group.reconcileDashboards groupId) store
      fun ids after => after.Tidy ∧ after.Gathered group.dashboards groupId ids ∧
        ∃ list, after.listed? groupId = some list ∧ ids.Perm list := by
  unfold reconcileDashboards
  obtain ⟨_, lists⟩ := ready.tidy.grouped.lists groupId remote stored
  refine Plan.ensures_bind (ensures_placements isLocal.dashboards ready) ?_
  rintro placements placed ⟨turns, readyPlaced⟩
  have storedPlaced := (Store.group_of_placements turns
    (Store.listed?_eq stored lists ▸ rfl)).trans stored
  have listedPlaced := Store.listed?_eq storedPlaced lists
  refine Plan.ensures_bind (ensures_settlings (clonable_of_placements turns isLocal.dashboards
    readyPlaced (listedPlaced ▸ rfl))) ?_
  rintro ids settled ⟨settlings, clonable⟩
  obtain ⟨whole, listedSettled⟩ := Option.isSome_iff_exists.mp clonable.listed
  refine Plan.ensures_bind (ensures_removeSources_gathered isLocal.dashboards turns readyPlaced
    settlings clonable.tidy) ?_
  rintro _ sourced ⟨tidy, gathered, same⟩
  have listed : sourced.listed? groupId = some whole := by
    rw [Store.listed?, same]
    exact listedSettled
  have filed := tidy.grouped.filed
  obtain ⟨current, storedCurrent, listsCurrent⟩ := tidy.grouped.exists_of_listed? listed
  refine Plan.ensures_call (Store.server_get (Store.get?_of_resource? storedCurrent)) ?_
  change Plan.Ensures _ _ (((members current).filter _).forM Dashboard.deleteById >>= fun _ => _)
    _ _
  rw [listsCurrent.members]
  generalize isUnwanted : whole.filter (fun member => !ids.contains member) = unwanted
  have unwanted_iff : ∀ id, id ∈ unwanted ↔ id ∈ whole ∧ id ∉ ids := by
    intro id
    rw [← isUnwanted, List.mem_filter]
    simp
  have once : unwanted.Nodup := isUnwanted ▸ (filed.once groupId whole listed).filter _
  refine Plan.ensures_bind (ensures_forM_deleteById tidy.sound tidy.grouped.consistent once
    fun id member => (filed.mem_iff groupId whole listed id).mp ((unwanted_iff id).mp member).1) ?_
  rintro _ after ⟨dropped, stays⟩
  obtain ⟨last, storedLast⟩ := Option.isSome_iff_exists.mp (stays (by rw [storedCurrent]; rfl))
  obtain ⟨list, listed', lists⟩ := dropped.exists_lists tidy storedLast
  obtain rfl := Option.some.inj (listed.symm.trans listed')
  refine Plan.ensures_pure ⟨dropped.tidy tidy, gathered.drop dropped fun id member gone =>
    ((unwanted_iff id).mp gone).2 member, _, Store.listed?_eq storedLast lists, ?_⟩
  refine (List.perm_ext_iff_of_nodup (gathered.nodup isLocal.dashboards.names)
    ((filed.once groupId whole listed).filter _)).mpr ?_
  intro id
  rw [List.mem_filter, decide_eq_true_iff, unwanted_iff]
  constructor
  · intro member
    obtain ⟨dashboard, -, face, found, isMatch⟩ :=
      Store.exists_of_forall₂_right gathered.shown member
    have inGroup := (filed.mem_iff groupId whole listed id).mpr ⟨face, found, isMatch.belongs⟩
    exact ⟨inGroup, fun gone => gone.2 member⟩
  · rintro ⟨inGroup, kept⟩
    exact not_not.mp fun other => kept ⟨inGroup, other⟩

/-- Writing the settings of a group over its document leaves its list as it was. -/
theorem lists_written {fields : Json} (record : fields.IsRecord)
    (foreign : ∀ key ∉ ["description", "teams"], fields.get? key = none) (overrides : Overrides)
    (groupId : String) {ids : List String} {document : Json} (object : document.isObject = true)
    (lists : document.Lists ids) :
    ((overrides.applied (document.overlay fields)).withField "id" (.str groupId)).Lists ids := by
  have laid := Json.isObject_overlay record.isObject document
  rw [Json.Lists, Json.get?_withField ((overrides.isObject_applied _).trans laid),
    if_neg (by decide), Overrides.get?_applied overrides laid (by decide) (by decide),
    Json.get?_overlay object record, foreign _ (by decide), Option.none_or, lists]

theorem lists_withField {remote : Json} (object : remote.isObject = true) (ids : List String) :
    (remote.withField "dashboards" (Json.ofStrings ids)).Lists ids := by
  rw [Json.Lists, Json.get?_withField object, if_pos rfl]
  rfl

/-- The document of a stored group after an update. -/
def updated (overrides : Overrides) (fields : Json) (groupId : String) (ids : List String)
    (remote : Json) : Json :=
  (overrides.applied ((remote.withField "dashboards" (Json.ofStrings ids)).overlay
    fields)).withField "id" (.str groupId)

/-- An updated group lists its dashboards and keeps its name. -/
theorem lists_updated {overrides : Overrides} (noName : overrides.name = none) {fields : Json}
    (record : fields.IsRecord) (foreign : ∀ key ∉ ["description", "teams"], fields.get? key = none)
    (groupId : String) (ids : List String) {remote : Json} (object : remote.isObject = true) :
    (updated overrides fields groupId ids remote).Lists ids ∧
      (updated overrides fields groupId ids remote).name? = remote.name? := by
  have relisted : (remote.withField "dashboards" (Json.ofStrings ids)).isObject = true := by simpa
  have laid := Json.isObject_overlay record.isObject
    (remote.withField "dashboards" (Json.ofStrings ids))
  refine ⟨lists_written record foreign overrides groupId relisted (lists_withField object ids), ?_⟩
  rw [updated, Json.name?_withField ((overrides.isObject_applied _).trans laid) (by decide),
    Overrides.name?_applied noName laid, Json.name?, Json.get?_overlay relisted record,
    foreign _ (by decide), Option.none_or, ← Json.name?, Json.name?_withField object (by decide)]

/-- A stored group is updated and has its dashboards. -/
theorem ensures_update_stored (isLocal : group.Distinct) (ready : store.Ready group.dashboards)
    {remote : Json} (stored : store.resource? .group groupId = some remote)
    (isNamed : remote.name? = some group.name)
    (only : ∀ id document, store.resource? .group id = some document →
      document.name? = some group.name → id = groupId)
    {overrides : Overrides} (noName : overrides.name = none) :
    Plan.Ensures Store.server answer (group.update overrides) store
      fun reply after => ∃ groupId ids, group.Reached store groupId ids reply after := by
  have sound := ready.tidy.sound
  have object := sound.isObject (Store.get?_of_resource? stored)
  have unique : store.named .group group.name = (some remote).toList :=
    Store.named_eq_singleton sound.ordered stored isNamed only
  obtain ⟨fields, passed, record, foreign⟩ := unnamedPayload_eq isLocal.valid
  unfold update
  rw [Plan.checked_eq isLocal.valid, pure_bind]
  refine Plan.ensures_bind (Store.ensures_findUnique unique) ?_
  rintro _ store ⟨rfl, rfl⟩
  dsimp only
  rw [requireId_eq (sound.id_of_resource? stored).1, pure_bind,
    if_neg (by simpa using isLocal.filled)]
  refine Plan.ensures_bind (ensures_reconcileDashboards isLocal ready stored) ?_
  rintro ids between ⟨tidy, gathered, list, listed, perm⟩
  have laid := Json.isObject_overlay record.isObject
    (remote.withField "dashboards" (Json.ofStrings ids))
  have applied := (overrides.isObject_applied _).trans laid
  rw [Plan.assign_eq object, pure_bind, Plan.checked_eq passed, pure_bind,
    Overrides.apply_eq overrides laid, pure_bind]
  obtain ⟨current, storedCurrent, -⟩ := tidy.grouped.exists_of_listed? listed
  refine Plan.ensures_call (Store.server_put (Store.get?_of_resource? storedCurrent)
    (tidy.sound.id_of_resource? storedCurrent).1 applied) ?_
  obtain ⟨lists, sameName⟩ := lists_updated noName record foreign groupId ids object
  obtain ⟨tidyAfter, faces, -⟩ := tidy.relist storedCurrent
    (.withField_id applied groupId) lists listed perm
  refine Plan.ensures_pure ⟨groupId, ids, ?_, sameName.trans isNamed, lists, ?_, only,
    tidyAfter.grouped⟩
  · rw [Store.resource?_of_clean (Store.clean_of_resource? stored), Store.get?_set, if_pos rfl]
  · exact ⟨faces ▸ gathered.shown, faces ▸ gathered.only⟩

/-- A group whose name is not taken and that is created, and one whose name is taken at most once
and that is updated without another name, have their dashboards, wherever these were before. -/
theorem ensures_reached (reachable : store.Reachable) (grouped : store.Grouped)
    (valid : group.check = .ok ()) (filled : group.dashboards ≠ [])
    (distinct : (group.dashboards.map (·.name)).Nodup)
    (notDefault : "Default Dashboard" ∉ group.dashboards.map (·.name))
    (distinctCharts : ∀ dashboard ∈ group.dashboards, (dashboard.charts.map (·.name)).Nodup)
    (findable : ∀ dashboard ∈ group.dashboards, dashboard.Findable store.face?) :
    ((∀ id document, store.resource? .group id = some document →
        document.name? ≠ some group.name) →
      ∀ options, Plan.Ensures Store.server answer (group.create options) store
        fun reply after => ∃ groupId ids, group.Reached store groupId ids reply after) ∧
    ((∀ id id' document document', store.resource? .group id = some document →
        store.resource? .group id' = some document' → document.name? = some group.name →
        document'.name? = some group.name → id = id') →
      ∀ overrides : Overrides, overrides.name = none →
        Plan.Ensures Store.server answer (group.update overrides) store
          fun reply after => ∃ groupId ids, group.Reached store groupId ids reply after) := by
  have sound := reachable.sound
  have isLocal : group.Distinct :=
    ⟨valid, filled, ⟨check_dashboards valid, distinct, distinctCharts⟩, notDefault⟩
  have ready : store.Ready group.dashboards := ⟨⟨sound, grouped⟩, findable⟩
  have nothing (untaken : ∀ id document, store.resource? .group id = some document →
      document.name? ≠ some group.name) :
      store.named .group group.name = (Option.none : Option Json).toList :=
    (Store.named_eq_nil_iff sound.ordered ..).mpr untaken
  refine ⟨fun untaken options => ?_, fun only overrides noName => ?_⟩
  · have guards : Plan.Ensures Store.server answer (guardCreate .group group.name options) store
        fun _ after => after = store := Store.ensures_guardCreate (nothing untaken) options
    unfold create
    rw [Plan.checked_eq valid, pure_bind]
    refine Plan.ensures_bind guards ?_
    rintro _ store rfl
    exact ensures_createUnguarded isLocal ready untaken rfl
  · by_cases taken : ∃ id document, store.resource? .group id = some document ∧
        document.name? = some group.name
    case pos =>
      obtain ⟨groupId, remote, stored, isNamed⟩ := taken
      exact ensures_update_stored isLocal ready stored isNamed (fun id document there named =>
        only id groupId document remote there stored named isNamed) noName
    case neg =>
      have untaken : ∀ id document, store.resource? .group id = some document →
          document.name? ≠ some group.name :=
        fun id document stored named => taken ⟨id, document, stored, named⟩
      unfold update
      rw [Plan.checked_eq valid, pure_bind]
      refine Plan.ensures_bind (Store.ensures_findUnique (nothing untaken)) ?_
      rintro _ store ⟨rfl, rfl⟩
      exact ensures_createUnguarded isLocal ready untaken noName

/-- A store with two groups, each with a dashboard of its own name. -/
def teamStore : Store :=
  let chart : Chart := { name := "load", options := .text "x" }
  let first := (Store.server (.post "/dashboard/simple" [("name", "team")]
    (.arr [chart.document])) {}).2
  (Store.server (.post "/dashboard/simple" [("name", "alone")] (.arr [])) first).2

/-- A dashboard that is nowhere, one that is in another group and one that is in the group. -/
def teamDashboards : List Dashboard :=
  [{ name := "new", charts := [{ name := "load", options := .text "y" }] }, { name := "alone" },
    { name := "team", charts := [{ name := "load", options := .text "y" }] }]

/-- A group of these dashboards. -/
def team (name : String) : DashboardGroup where
  name := name
  dashboards := teamDashboards

theorem reachable_teamStore : teamStore.Reachable := .request _ (.request _ .empty)

theorem grouped_teamStore : teamStore.Grouped := by
  have sound := reachable_teamStore.sound
  exact sound.grouped (sound.consistent (by decide +kernel) (by decide +kernel)) (by decide +kernel)
    (by decide +kernel)

/-- One of the two stored groups is found by its name. -/
theorem named_teamStore (id : String) (document : Json)
    (stored : teamStore.resource? .group id = some document) :
    document.name? ≠ some "other" ∧ (document.name? = some "team" → id = "id-1") := by
  have sound := reachable_teamStore.sound
  have names : ∀ group ∈ teamStore.under Kind.group.endpoint,
      group.name? ≠ some "other" ∧ (group.name? = some "team" → group.id? = some "id-1") := by
    decide +kernel
  have known := names document ((Store.mem_under_iff sound.ordered ..).mpr ⟨id, stored⟩)
  rw [(sound.id_of_resource? stored).1] at known
  exact ⟨known.1, fun isTeam => Option.some.inj (known.2 isTeam)⟩

theorem findable_teamDashboards :
    ∀ dashboard ∈ teamDashboards, dashboard.Findable teamStore.face? :=
  fun dashboard member => reachable_teamStore.sound.findable
    (by revert dashboard; decide +kernel) (by revert dashboard; decide +kernel)

/-- A group is created beside the stored one, or the stored one is updated. -/
theorem ensures_reached_team :
    (Plan.Ensures Store.server (fun _ => false) ((team "other").create {}) teamStore
      fun reply after => ∃ groupId ids, (team "other").Reached teamStore groupId ids reply after) ∧
    Plan.Ensures Store.server (fun _ => false) ((team "team").update {}) teamStore
      fun reply after => ∃ groupId ids,
        (team "team").Reached teamStore groupId ids reply after := by
  constructor
  · have valid : (team "other").check = .ok () := rfl
    exact (ensures_reached reachable_teamStore grouped_teamStore valid (by decide) (by decide)
      (by decide) (by decide) findable_teamDashboards).1
      (fun id document stored => (named_teamStore id document stored).1) {}
  · have valid : (team "team").check = .ok () := rfl
    refine (ensures_reached reachable_teamStore grouped_teamStore valid (by decide) (by decide)
      (by decide) (by decide) findable_teamDashboards).2 ?_ {} rfl
    intro id id' document document' stored stored' isTeam isTeam'
    rw [(named_teamStore id document stored).2 isTeam,
      (named_teamStore id' document' stored').2 isTeam']

end DashboardGroup

end SignalBoard
