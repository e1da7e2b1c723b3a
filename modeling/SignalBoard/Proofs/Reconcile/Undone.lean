/-
# Deleting undoes creating

A resource whose name was not taken is found alone by it once it was created, so that a deletion
meets it and nothing else. It takes away a chart or a detector, or a dashboard with all the charts
on its layout, however many they are and whatever names they share. All that was added has fresh
identifiers, so the paths that are empty again were empty before. What is left of a dashboard is the
group that the service made for it, which by then lists nothing.
-/

import SignalBoard.Proofs.Group.Removal
import SignalBoard.Proofs.Integrity.Single
import SignalBoard.Proofs.Reconcile.Definitions
import SignalBoard.Proofs.Reconcile.Shape

namespace SignalBoard

variable {answer answer' : Question → Bool} {store after : Store} {resource : Resource}

namespace Store.Sound

variable {kind : Kind} {name id path : String} {document : Json}

/-- A resource that was added under a name that was not taken is found alone by it. -/
theorem named_eq_of_untaken (sound : store.Sound) (sound' : after.Sound)
    (untaken : store.named kind name = []) (own : after.resource? kind id = some document)
    (isNamed : document.name? = some name)
    (others : ∀ other, other ≠ id → after.resource? kind other = store.resource? kind other) :
    after.named kind name = [document] := by
  apply named_eq_singleton sound'.ordered own isNamed
  intro other document' stored isNamed'
  by_contra different
  rw [others other different] at stored
  exact (named_eq_nil_iff sound.ordered kind name).mp untaken other document' stored isNamed'

/-- What is put at an empty path and removed again leaves no trace. -/
theorem documents_remove_set (sound : store.Sound) (empty : store.documents.get? path = none)
    (document : Json) : ((store.allocate.set path document).remove path).documents =
      store.documents := by
  apply Table.Ordered.ext ((sound.ordered.insert path document).erase path) sound.ordered
  intro other
  show ((store.allocate.set path document).remove path).documents.get? other = _
  rw [get?_remove, get?_set, documents_allocate]
  split
  case isTrue here => rw [here, empty]
  case isFalse => rfl

end Store.Sound

namespace Resource

/-- A resource that stands alone is created by its request and deleted by one. -/
theorem exists_establish_eq_post (plain : resource.kind ∈ Kind.plain) :
    ∃ document : Json, document.isObject = true ∧ document.name? = some resource.name ∧
      resource.establish {} = Plan.post resource.kind.endpoint [] document ∧
      ∀ id, resource.removeById id = Plan.delete (resource.kind.path id) := by
  cases resource with
  | chart chart =>
      exact ⟨chart.document, chart.isObject_document, chart.name?_document, rfl, fun _ => rfl⟩
  | detector detector =>
      exact ⟨detector.document, detector.isObject_document, detector.name?_document, rfl,
        fun _ => rfl⟩
  | dashboard => exact absurd rfl (Kind.ne_of_plain plain).1
  | group => exact absurd rfl (Kind.ne_of_plain plain).2

/-- A deletion of the one resource of a name is that of its identifier. -/
theorem ensures_delete (sound : store.Sound) (byName : resource.ByName) {id : String}
    {remote : Json} (alone : store.named resource.kind resource.name = [remote])
    (identified : remote.id? = some id) {promise : Unit → Store → Prop}
    (removes : Plan.Ensures Store.server answer (resource.removeById id) store promise) :
    Plan.Ensures Store.server answer resource.delete store promise := by
  rw [delete_eq byName]
  apply Plan.ensures_bind (Store.ensures_requireUnique alone)
  rintro _ store ⟨rfl, rfl⟩
  rwa [requireId_eq identified, pure_bind]

/-- A chart or a detector that is created and then deleted leaves no trace. -/
theorem ensures_undone_of_plain (sound : store.Sound) (valid : resource.check = .ok ())
    (byName : resource.ByName) (plain : resource.kind ∈ Kind.plain)
    (untaken : store.named resource.kind resource.name = []) (options : CreateOptions) :
    Plan.Ensures Store.server answer (resource.create options) store fun _ created =>
      Plan.Ensures Store.server answer' resource.delete created fun _ after =>
        after.documents = store.documents := by
  obtain ⟨document, object, isNamed, establishes, removes⟩ := exists_establish_eq_post plain
  obtain ⟨notDashboard, notGroup⟩ := Kind.ne_of_plain plain
  let id := Store.ident (store.allocated + 1)
  let path := resource.kind.path id
  have empty : store.documents.get? path = none :=
    sound.get?_fresh (Nat.lt_succ_self _) resource.kind.endpoint
  have clean : '/' ∉ id.toList := Store.slash_not_mem_ident _
  have answered : Store.server (.post resource.kind.endpoint [] document) store =
      (.ok (document.withField "id" (.str id)),
        store.allocate.set path (document.withField "id" (.str id))) :=
    Store.server_post (List.mem_pair.mpr (Kind.endpoint_of_plain plain)) object []
  rw [create_eq valid, establishes]
  apply Plan.ensures_bind (Store.ensures_guardCreate untaken options)
  rintro _ store rfl
  apply Plan.ensures_call answered
  apply Plan.ensures_pure
  let stored := document.withField "id" (.str id)
  let created := store.allocate.set path stored
  have own : created.documents.get? path = some stored :=
    (Store.get?_set ..).trans (if_pos rfl)
  have alone : created.named resource.kind resource.name = [stored] := by
    refine sound.named_eq_of_untaken (sound.of_server answered) untaken
      ((Store.resource?_of_clean clean ..).trans own)
      ((Json.name?_withField object (by decide) _).trans isNamed) fun other different => ?_
    refine Store.resource?_congr ((Store.get?_set ..).trans (if_neg fun same => ?_))
    exact different (Kind.path_inj same).2
  apply ensures_delete (sound.of_server answered) byName alone
    (Json.Stamped.withField_id object id).id?_eq
  rw [removes]
  apply Plan.ensures_call (Store.server_delete_single notDashboard notGroup own)
  exact Plan.ensures_pure (sound.documents_remove_set empty stored)

end Resource

namespace Dashboard.Added

variable {dashboard : Dashboard} {overrides : Overrides} {groupId id : String}
  {chartIds : List String} {before created between : Store} {reply group : Json}

/-- The group of a new dashboard has the name of the dashboard. -/
theorem name?_group (added : dashboard.Added overrides groupId chartIds id before created)
    (stored : created.documents.get? (Kind.group.path groupId) = some group) :
    group.name? = some (overrides.name.getD dashboard.name) := by
  obtain rfl := Option.some.inj (stored.symm.trans added.group)
  have object : (Json.record [("name", some (.str (overrides.name.getD
      dashboard.name)))]).isObject = true := (Json.isRecord_record _).isObject
  rw [Json.name?_withField (by simpa [Store.groupDocument]) (by decide), Json.name?,
    Store.get?_groupDocument object, if_neg (by decide), if_neg (by decide),
    Json.get?_record (by simp)]
  rfl

/-- Once the charts and then the dashboard are gone, only the group is there that was not there
before. -/
theorem documents_eq (added : dashboard.Added overrides groupId chartIds id before created)
    (sound : before.Sound) (sound' : after.Sound) (deleted : ChartsDeleted chartIds created between)
    (agrees : between.AgreesOff [Kind.dashboard.path id, Kind.group.path groupId] after)
    (gone : after.documents.get? (Kind.dashboard.path id) = none)
    (stored : after.documents.get? (Kind.group.path groupId) = some group) :
    after.documents = before.documents.insert (Kind.group.path groupId) group := by
  have fresh : ∀ own ∈ groupId :: (chartIds ++ [id]), ∀ kind : Kind,
      before.documents.get? (kind.path own) = none := fun own member kind =>
    sound.get?_of_mem_freshIds (added.ids.symm ▸ member) kind
  apply Table.Ordered.ext sound'.ordered (sound.ordered.insert _ _)
  intro path
  rw [Table.get?_insert]
  split
  case isTrue here => rw [here, stored]
  case isFalse notGroup =>
    by_cases isOwn : path = Kind.dashboard.path id
    case pos => rw [isOwn, gone, fresh id (by simp)]
    case neg =>
      rw [agrees path (by simp [isOwn, notGroup])]
      by_cases isChart : path ∈ Kind.chart.paths chartIds
      case pos =>
        obtain ⟨chartId, member, rfl⟩ := List.mem_map.mp isChart
        rw [deleted.gone chartId member, fresh chartId (by simp [member])]
      case neg =>
        rw [deleted.elsewhere path isChart,
          added.elsewhere path (by simp [isOwn, notGroup, isChart])]

/-- A dashboard that was added is deleted with its charts. Its group stays, and lists nothing. -/
theorem ensures_deleteById (added : dashboard.Added overrides groupId chartIds id before created)
    (sound : before.Sound) (sound' : created.Sound)
    (own : created.documents.get? (Kind.dashboard.path id) = some reply) :
    Plan.Ensures Store.server answer (deleteById id) created fun _ after => ∃ group : Json,
      group.name? = some (overrides.name.getD dashboard.name) ∧
      group.get? "dashboards" = some (.arr []) ∧
      after.documents = before.documents.insert (Kind.group.path groupId) group := by
  have whole := added.created sound own
  -- The charts go first.
  have hasCharts : ∀ chartId ∈ Layout.chartIds reply, created.HasChart chartId := by
    intro chartId member
    rw [whole.layout] at member
    obtain ⟨chart, -, shown⟩ := Store.exists_of_forall₂_right whole.shown member
    exact ⟨_, Store.get?_of_resource? shown, chart.id?_storedAs chartId⟩
  apply Plan.ensures_bind ((ensures_deleteChartsOf own (whole.layout ▸ whole.once)
    hasCharts).keeping Store.sound_server sound')
  rintro _ between ⟨deleted, soundBetween⟩
  rw [whole.layout] at deleted
  have stillOwn : between.documents.get? (Kind.dashboard.path id) = some reply :=
    (deleted.elsewhere _ (Kind.path_not_mem_paths (by decide) _ _)).trans own
  -- Then the dashboard goes, and its group stays without it.
  obtain ⟨after, answered, agrees, gone, left, stays⟩ := Store.exists_delete_dashboard soundBetween
    stillOwn (sound'.id_of_resource? whole.stored).1
    (by rw [whole.groupId?_reply, Option.getD_some])
  obtain ⟨old, storedOld, lists⟩ := whole.group
  have still : between.resource? .group groupId = some old :=
    (Store.resource?_congr
      (deleted.elsewhere _ (Kind.path_not_mem_paths (by decide) _ _))).trans storedOld
  obtain ⟨group, stored⟩ := Option.isSome_iff_exists.mp (stays (by rw [still]; rfl))
  obtain ⟨_, still', relisted⟩ := left group stored
  obtain rfl := Option.some.inj (still.symm.trans still')
  apply Plan.ensures_call answered
  apply Plan.ensures_pure
  refine ⟨group, ?_, ?_, ?_⟩
  · rw [relisted.isNamed, added.name?_group (Store.get?_of_resource? storedOld)]
  · simpa [Json.Lists] using relisted.lists_leaving lists
  · exact added.documents_eq sound (soundBetween.of_server answered) deleted agrees gone
      (Store.get?_of_resource? stored)

end Dashboard.Added

/-- What is left of a resource once it was created and deleted: the documents from before, and for a
dashboard one group, of the same name, that lists nothing. -/
def Resource.Undone (resource : Resource) (before after : Store) : Prop :=
  match resource with
  | dashboard d => ∃ (groupId : String) (group : Json),
      '/' ∉ groupId.toList ∧ before.documents.get? (Kind.group.path groupId) = none ∧
      group.name? = some d.name ∧ group.get? "dashboards" = some (.arr []) ∧
      after.documents = before.documents.insert (Kind.group.path groupId) group
  | _ => after.documents = before.documents

/-- A chart that names no identifier, a dashboard or a detector is created if its name is not taken,
and deleted again. No document from before is touched by this, and nothing is left but an empty
group of a dashboard. -/
theorem Resource.ensures_undone (reachable : store.Reachable) (valid : resource.check = .ok ())
    (byName : resource.ByName) (notGroup : resource.kind ≠ .group)
    (untaken : store.named resource.kind resource.name = []) (options : CreateOptions) :
    Plan.Ensures Store.server answer (resource.create options) store fun _ created =>
      Plan.Ensures Store.server answer' resource.delete created fun _ after =>
        resource.Undone store after := by
  have sound := reachable.sound
  cases resource with
  | chart chart => exact ensures_undone_of_plain sound valid byName (.head _) untaken options
  | detector detector =>
      exact ensures_undone_of_plain sound valid byName (.tail _ (.head _)) untaken options
  | group group => exact absurd rfl notGroup
  | dashboard dashboard =>
      rw [create_eq valid]
      apply Plan.ensures_bind (Store.ensures_guardCreate untaken options)
      rintro _ store rfl
      apply ((dashboard.ensures_createUnguarded_added valid {}).keeping
        Store.sound_server sound).mono
      rintro reply created ⟨⟨groupId, chartIds, id, added, own⟩, sound'⟩
      have whole := added.created sound own
      have alone : created.named .dashboard dashboard.name = [reply] := by
        apply sound.named_eq_of_untaken sound' untaken whole.stored whole.name?_reply
        intro other different
        exact Store.resource?_congr
          (added.elsewhere _ (Store.Extended.dashboards_away other different))
      have identified := (sound'.id_of_resource? whole.stored).1
      apply ensures_delete sound' byName alone identified
      apply (added.ensures_deleteById sound sound' own).mono
      rintro _ after ⟨group, isNamed, lists, same⟩
      have isFresh : groupId ∈ store.freshIds (dashboard.charts.length + 2) :=
        added.ids ▸ List.mem_cons_self
      exact ⟨groupId, group, Store.clean_of_mem_freshIds isFresh,
        sound.get?_of_mem_freshIds isFresh _, isNamed, lists, same⟩

/-- A dashboard with settings and two charts of one name, beside another dashboard that has a chart
of that name. -/
theorem Resource.ensures_undone_twins :
    let twins : Resource :=
      .dashboard { Dashboard.twinBoard "kept" with name := "twins", description := some "both" }
    Dashboard.oldStore.Reachable ∧ twins.check = .ok () ∧
      Dashboard.oldStore.named .dashboard "twins" = [] ∧
      Plan.Ensures Store.server (fun _ => false) (twins.create {}) Dashboard.oldStore
        fun _ created => Plan.Ensures Store.server (fun _ => false) twins.delete created
          fun _ after => twins.Undone Dashboard.oldStore after := by
  intro twins
  have reachable : Dashboard.oldStore.Reachable := .request _ .empty
  have valid : twins.check = .ok () := rfl
  have untaken : Dashboard.oldStore.named .dashboard "twins" = [] := by decide +kernel
  exact ⟨reachable, valid, untaken, ensures_undone reachable valid trivial (by decide) untaken {}⟩

end SignalBoard
