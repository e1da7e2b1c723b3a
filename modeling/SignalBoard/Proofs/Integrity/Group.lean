/-
# Operations on groups keep a store intact

The dashboards of a group are put in their places, cloned into the group, and their originals are
removed. What is known of a placement all the while is that its dashboard is in its group; that is
enough for each step to keep the store intact, whatever the dashboards are called and however often
one of them is placed. Only the deletion of a group leaves charts behind: those on the dashboards
that it takes along.
-/

import SignalBoard.Proofs.Group.Reach
import SignalBoard.Proofs.Integrity.Removal

namespace SignalBoard

open Store (Intact KeepsHomes)

variable {answer : Question → Bool} {store before after : Store} {target : String}
  {loose : String → Prop} {placements : List Placement}

namespace Store

/-- The dashboard of a placement is in its group. -/
def Houses (store : Store) (placement : Placement) : Prop :=
  store.home? placement.dashboardId = some placement.groupId

/-- The entries of the layout of a dashboard in an intact store place charts. -/
theorem Intact.exists_places (intact : Intact loose store) {id : String} {dashboard : Json}
    (stored : store.resource? .dashboard id = some dashboard) :
    ∃ charts, List.Forall₂ store.Places (dashboard.field "charts").items charts := by
  obtain ⟨entries, isArray, proper⟩ := intact.laid id dashboard stored
  rw [isArray]
  refine exists_forall₂ fun entry (member : entry ∈ entries) => ?_
  obtain ⟨chartId, names⟩ := Option.isSome_iff_exists.mp (proper entry member)
  have onLayout : chartId ∈ Layout.chartIds dashboard := by
    rw [Layout.chartIds, isArray]
    exact List.mem_filterMap.mpr ⟨entry, member, names⟩
  obtain ⟨chart, found⟩ := Option.isSome_iff_exists.mp
    (intact.consistent.placed id dashboard stored chartId onLayout)
  exact ⟨chart, chartId, names, get?_of_resource? found⟩

/-- Only into a stored group is anything cloned. -/
theorem exists_of_clone {id : String} {source reply : Json}
    (stored : store.documents.get? (Kind.dashboard.path id) = some source)
    (cloned : perform (clone target id) store = (.ok reply, after)) :
    ∃ group, store.documents.get? (Kind.group.path target) = some group := by
  cases storedGroup : store.documents.get? (Kind.group.path target) with
  | none =>
      simp only [clone, perform_bind, perform_fetch, stored, storedGroup] at cloned
      cases cloned
  | some group => exact ⟨group, rfl⟩

end Store

namespace DashboardGroup

variable {group : DashboardGroup}

/-- A local dashboard is put in its place. -/
theorem yields_placeDashboard_housed (intact : Intact loose store) (dashboard : Dashboard) :
    Plan.Yields Store.server answer (placeDashboard dashboard) store
      fun placement after => Intact loose after ∧ store.KeepsHomes after ∧
        after.Houses placement := by
  apply Plan.yields_bind (dashboard.yields_update_lodged intact {})
  rintro remote after ⟨intactAfter, keeps, id, groupId, identified, names, home⟩
  rw [requireId_eq identified, pure_bind]
  refine Plan.yields_pure ⟨intactAfter, keeps, ?_⟩
  change after.home? id = some (remote.groupId?.getD "")
  rw [home, names, Option.getD_some]

/-- Local dashboards are put in their places. -/
theorem yields_placements_housed (intact : Intact loose store) (dashboards : List Dashboard) :
    Plan.Yields Store.server answer (dashboards.mapM placeDashboard) store
      fun placements after => Intact loose after ∧ store.KeepsHomes after ∧
        ∀ placement ∈ placements, after.Houses placement := by
  have each : ∀ dashboard ∈ dashboards, ∀ state, Intact loose state ∧ store.KeepsHomes state →
      Plan.Yields Store.server answer (placeDashboard dashboard) state fun placement after =>
        (Intact loose after ∧ store.KeepsHomes after) ∧ after.Houses placement ∧
          ∀ other, state.Houses other → after.Houses other := by
    rintro dashboard - state ⟨intactState, keeps⟩
    apply (yields_placeDashboard_housed intactState dashboard).mono
    rintro placement after ⟨intactAfter, keepsToo, housed⟩
    exact ⟨⟨intactAfter, keeps.trans keepsToo⟩, housed, fun other => keepsToo _ _⟩
  exact (Plan.yields_mapM_lasting each ⟨intact, .refl store⟩).mono
    fun _ _ ⟨⟨intactAfter, keeps⟩, housed⟩ => ⟨intactAfter, keeps, housed⟩

/-- A dashboard is cloned into a group, and is in it from then on. -/
theorem yields_cloneInto_housed (intact : Intact loose store) (clean : '/' ∉ target.toList)
    {id groupId : String} (home : store.home? id = some groupId) :
    Plan.Yields Store.server answer (cloneInto target id) store
      fun reply after => Intact loose after ∧ store.KeepsHomes after ∧
        ∃ new, reply.id? = some new ∧ after.home? new = some target := by
  apply Plan.yields_call
  intro reply after answered
  obtain ⟨source, stored, -⟩ := Store.exists_of_home? home
  obtain ⟨group, atPath⟩ := Store.exists_of_clone (Store.get?_of_resource? stored)
    ((Store.server_post_clone store target id).symm.trans answered)
  have storedGroup : store.resource? .group target = some group := by
    rw [Store.resource?_of_clean clean, atPath]
  obtain ⟨charts, places⟩ := intact.exists_places stored
  obtain ⟨new, chartIds, relisted, after', cloned, now, isRelisted, extended, copied⟩ :=
    intact.sound.exists_cloned stored places storedGroup
  obtain ⟨replied, rfl⟩ := Prod.mk.inj (answered.symm.trans cloned)
  obtain rfl := Except.ok.inj replied
  have soundAfter := intact.sound.of_server answered
  obtain ⟨ids, lists, mem_iff⟩ := intact.lists target group storedGroup
  have proper : Layout.Proper (Store.dashboardDocument ((source.field "name").string?.getD "")
      target (Store.copiedEntries (source.field "charts").items chartIds) new) := by
    refine ⟨_, rfl, fun entry member => ?_⟩
    obtain ⟨_, -, names⟩ := Store.exists_of_forall₂_left
      (Store.forall₂_copiedEntries places copied.length_eq) member
    rw [names]
    rfl
  obtain ⟨intactAfter, homes⟩ := intact.extend extended soundAfter proper
    (Store.groupId?_dashboardDocument ..) now (isRelisted.lists_add lists) fun other => by
      rw [List.mem_append, List.mem_singleton, mem_iff, or_comm]
  refine Plan.yields_pure ⟨intactAfter,
    Store.keepsHomes_of_update extended.home?_eq_none homes, new,
    (soundAfter.id_of_resource? extended.stored).1, ?_⟩
  rw [homes, Function.update_self]

/-- A dashboard that is in its place is brought into a group. -/
theorem yields_settle_housed (intact : Intact loose store) (clean : '/' ∉ target.toList)
    {placement : Placement} (housed : store.Houses placement) :
    Plan.Yields Store.server answer (settle target placement) store
      fun id after => Intact loose after ∧ store.KeepsHomes after ∧
        after.home? id = some target := by
  unfold settle
  split
  case isTrue inside => exact Plan.yields_pure ⟨intact, .refl store, inside ▸ housed⟩
  case isFalse =>
    apply Plan.yields_bind (yields_cloneInto_housed intact clean housed)
    rintro clone after ⟨intactAfter, keeps, new, identified, home⟩
    rw [requireId_eq identified]
    exact Plan.yields_pure ⟨intactAfter, keeps, home⟩

/-- All dashboards that are in their places are brought into a group. -/
theorem yields_settlings_housed (intact : Intact loose store) (clean : '/' ∉ target.toList)
    (housed : ∀ placement ∈ placements, store.Houses placement) :
    Plan.Yields Store.server answer (placements.mapM (settle target)) store
      fun ids after => Intact loose after ∧ store.KeepsHomes after ∧
        ∀ id ∈ ids, after.home? id = some target := by
  have each : ∀ placement ∈ placements, ∀ state, Intact loose state ∧ store.KeepsHomes state →
      Plan.Yields Store.server answer (settle target placement) state fun id after =>
        (Intact loose after ∧ store.KeepsHomes after) ∧ after.home? id = some target ∧
          ∀ other, state.home? other = some target → after.home? other = some target := by
    rintro placement member state ⟨intactState, keeps⟩
    apply (yields_settle_housed intactState clean (keeps _ _ (housed placement member))).mono
    rintro id after ⟨intactAfter, keepsToo, home⟩
    exact ⟨⟨intactAfter, keeps.trans keepsToo⟩, home, fun other => keepsToo other target⟩
  exact (Plan.yields_mapM_lasting each ⟨intact, .refl store⟩).mono
    fun _ _ ⟨⟨intactAfter, keeps⟩, homes⟩ => ⟨intactAfter, keeps, homes⟩

/-- All dashboards that are in their places are cloned into a group. -/
theorem yields_clones_housed (intact : Intact loose store) (clean : '/' ∉ target.toList)
    (housed : ∀ placement ∈ placements, store.Houses placement) :
    Plan.Yields Store.server answer (placements.forM fun placement => do
        let _ ← cloneInto target placement.dashboardId
        return ()) store
      fun _ after => Intact loose after ∧ store.KeepsHomes after := by
  apply Plan.yields_forM (fun _ after => Intact loose after ∧ store.KeepsHomes after) ?_
    (List.nil_append placements) ⟨intact, .refl store⟩
  rintro past placement rest between split ⟨intactBetween, keeps⟩
  have member : placement ∈ placements := by simp [← split]
  apply Plan.yields_bind
    (yields_cloneInto_housed intactBetween clean (keeps _ _ (housed placement member)))
  rintro _ after ⟨intactAfter, keepsToo, -⟩
  exact Plan.yields_pure ⟨intactAfter, keeps.trans keepsToo⟩

/-- The dashboards of a stored group become the local ones: they are the ones that are in it. -/
theorem yields_reconcileDashboards_housed (intact : Intact loose store)
    (clean : '/' ∉ target.toList) :
    Plan.Yields Store.server answer (group.reconcileDashboards target) store
      fun kept after => Intact loose after ∧
        ∀ id, id ∈ kept ↔ after.home? id = some target := by
  apply Plan.yields_bind (yields_placements_housed intact group.dashboards)
  rintro placements placed ⟨intactPlaced, -, housed⟩
  apply Plan.yields_bind (yields_settlings_housed intactPlaced clean housed)
  rintro kept settled ⟨intactSettled, keeps, homes⟩
  apply Plan.yields_bind (yields_removeSources intactSettled fun placement member =>
    keeps _ _ (housed placement member))
  rintro _ sourced ⟨intactSourced, stays⟩
  apply Plan.yields_call
  intro current sourced answered
  obtain ⟨atPath, rfl⟩ := Store.stored_of_get answered
  have stored : sourced.resource? .group target = some current := by
    rw [Store.resource?_of_clean clean, atPath]
  have mem_iff : ∀ id, id ∈ members current ↔ sourced.home? id = some target :=
    fun id => intactSourced.mem_members_iff stored
  change Plan.Yields _ _ (((members current).filter _).forM Dashboard.deleteById >>= fun _ => _) _ _
  apply Plan.yields_bind (intactSourced.yields_forM_deleteById fun id member =>
    Store.clean_of_home? ((mem_iff id).mp (List.mem_filter.mp member).1))
  rintro _ after ⟨intactAfter, homesAfter⟩
  refine Plan.yields_pure ⟨intactAfter, fun id => ?_⟩
  rw [homesAfter]
  by_cases isKept : id ∈ kept
  · simp [isKept, stays id (homes id isKept)]
  · simp [isKept, mem_iff]

/-- A stored group is written with a list of exactly the dashboards that are in it. -/
theorem yields_put_intact (intact : Intact loose store) (clean : '/' ∉ target.toList)
    (valid : group.check = .ok ()) (overrides : Overrides) {document : Json} {ids : List String}
    (object : document.isObject = true) (lists : document.Lists ids)
    (mem_iff : ∀ id, id ∈ ids ↔ store.home? id = some target) :
    Plan.Yields Store.server answer (do
        let fields ← Plan.checked group.unnamedPayload
        let document ← overrides.apply (document.overlay fields)
        Plan.put (Kind.group.path target) document) store
      fun _ after => Intact loose after := by
  obtain ⟨fields, passed, record, foreign⟩ := unnamedPayload_eq valid
  have laid := Json.isObject_overlay record.isObject document
  have written : (overrides.applied (document.overlay fields)).isObject = true := by simpa
  rw [Plan.checked_eq passed, pure_bind, overrides.apply_eq laid, pure_bind]
  apply Plan.yields_call
  intro reply after answered
  obtain ⟨current, atPath⟩ := Store.exists_of_put answered
  have stored : store.resource? .group target = some current := by
    rw [Store.resource?_of_clean clean, atPath]
  have put := Store.server_put atPath (intact.sound.id_of_resource? stored).1 written
  obtain ⟨-, rfl⟩ := Prod.mk.inj (answered.symm.trans put)
  have agrees : store.AgreesOff [Kind.group.path target] (store.set (Kind.group.path target)
      ((overrides.applied (document.overlay fields)).withField "id" (.str target))) := by
    intro path away
    rw [Store.get?_set, if_neg (by simpa using away)]
  refine Plan.yields_pure (intact.regroup (intact.sound.of_server answered) agrees
    (by rw [stored]; rfl) ?_ (lists_written record foreign overrides target object lists) mem_iff)
  rw [Store.resource?_of_clean clean, Store.get?_set, if_pos rfl]

/-- A group is created with its dashboards. The empty one that the service puts into it is removed
again. -/
theorem yields_createUnguarded_intact (intact : Intact loose store) (valid : group.check = .ok ())
    (overrides : Overrides) :
    Plan.Yields Store.server answer (group.createUnguarded overrides) store
      fun _ after => Intact loose after := by
  have object : (Json.record group.fields).isObject = true := (Json.isRecord_record _).isObject
  have applied := (overrides.isObject_applied (.record group.fields)).trans object
  unfold createUnguarded
  rw [Plan.checked_eq (payload_eq valid), pure_bind, overrides.apply_eq object, pure_bind]
  apply Plan.yields_call
  intro reply after answered
  obtain ⟨created, target, first, between, answered', stored, -, lists, freshGroup, extended⟩ :=
    intact.sound.exists_groupAdded applied _
  obtain ⟨same, rfl⟩ := Prod.mk.inj (answered'.symm.trans answered)
  obtain rfl := Except.ok.inj same
  have soundBetween := intact.sound.of_server answered
  have clean := Store.clean_of_resource? stored
  have unnamed : ∀ other, store.home? other ≠ some target := by
    intro other home
    have isSome := intact.group_of_home? home
    rw [freshGroup] at isSome
    cases isSome
  obtain ⟨intactBetween, homes⟩ := intact.extend extended soundBetween ⟨[], rfl, by simp⟩
    (Store.groupId?_dashboardDocument ..) stored lists fun other => by simp [unnamed]
  have cleanFirst : '/' ∉ first.toList := Store.clean_of_resource? extended.stored
  change Plan.Yields Store.server answer (if group.dashboards.isEmpty then _ else _) between _
  split
  case isTrue => exact Plan.yields_pure intactBetween
  case isFalse =>
    rw [requireId_eq (soundBetween.id_of_resource? stored).1, pure_bind]
    apply Plan.yields_bind (yields_placements_housed intactBetween group.dashboards)
    rintro placements placed ⟨intactPlaced, -, housed⟩
    apply Plan.yields_bind (yields_clones_housed intactPlaced clean housed)
    rintro _ cloned ⟨intactCloned, keeps⟩
    apply Plan.yields_bind (yields_removeSources intactCloned fun placement member =>
      keeps _ _ (housed placement member))
    rintro _ sourced ⟨intactSourced, -⟩
    rw [lists.members]
    apply Plan.yields_bind (intactSourced.yields_deleteById cleanFirst)
    rintro _ dropped ⟨intactDropped, -⟩
    apply Plan.yields_call
    intro reply after answered
    obtain ⟨-, rfl⟩ := Store.stored_of_get answered
    exact Plan.yields_pure intactDropped

theorem yields_create_intact (intact : Intact loose store) (options : CreateOptions) :
    Plan.Yields Store.server answer (group.create options) store
      fun _ after => Intact loose after := by
  apply Plan.yields_checked_bind
  rintro ⟨⟩ valid
  apply Plan.yields_bind (Store.yields_guardCreate_same _ _ options)
  rintro _ store rfl
  exact yields_createUnguarded_intact intact valid {}

/-- An update makes a stored group list the dashboards that are in it, or creates the group. -/
theorem yields_update_intact (intact : Intact loose store) (overrides : Overrides) :
    Plan.Yields Store.server answer (group.update overrides) store
      fun _ after => Intact loose after := by
  apply Plan.yields_checked_bind
  rintro ⟨⟩ valid
  apply Plan.yields_bind (Store.yields_findUnique .group group.name)
  rintro found store ⟨alone, rfl⟩
  cases found with
  | none => exact yields_createUnguarded_intact intact valid overrides
  | some remote =>
      obtain ⟨target, stored, -⟩ := intact.sound.exists_of_named alone
      have object := intact.sound.isObject (Store.get?_of_resource? stored)
      have clean := Store.clean_of_resource? stored
      dsimp only
      rw [requireId_eq (intact.sound.id_of_resource? stored).1, pure_bind]
      split
      case isTrue =>
        obtain ⟨ids, lists, mem_iff⟩ := intact.lists target remote stored
        exact yields_put_intact intact clean valid overrides object lists mem_iff
      case isFalse =>
        apply Plan.yields_bind (yields_reconcileDashboards_housed intact clean)
        rintro kept after ⟨intactAfter, mem_iff⟩
        rw [Plan.assign_eq object, pure_bind]
        exact yields_put_intact intactAfter clean valid overrides (by simpa)
          (lists_withField object kept) mem_iff

/-- Deleting a group by its name takes its dashboards along. Their charts are then loose. -/
theorem yields_delete_intact (intact : Intact loose store) (group : DashboardGroup) :
    Plan.Yields Store.server answer group.delete store
      fun _ after => ∃ remote, store.named .group group.name = [remote] ∧
        Intact (fun chartId => loose chartId ∨
          chartId ∈ (members remote).flatMap store.layoutOf) after := by
  apply Plan.yields_bind (intact.sound.yields_requireUnique .group group.name)
  rintro remote store ⟨rfl, alone, id, identified, stored⟩
  rw [requireId_eq identified, pure_bind]
  obtain ⟨after, answered, intactAfter, -⟩ := intact.delete_group stored (List.nil_subset _)
  refine (Plan.ensures_call answered ?_).yields
  exact Plan.ensures_pure ⟨remote, alone, intactAfter.congr fun chartId => by simp⟩

end DashboardGroup

end SignalBoard
