/-
# No dashboard is deleted before its copy exists

For every API and every way it can answer or fail: creating or updating a group deletes a group only
if it is not the target and all that it listed was cloned into the target, and a dashboard only if
it was cloned there from another group, came with the new group, or is left over in the target when
all cloning is done. An operation goes through phases, and what one phase knows of its exchanges the
next one starts from: dashboards are placed, then cloned, then their originals are removed, and last
what is surplus.
-/

import SignalBoard.Proofs.Group.Conduct
import SignalBoard.Proofs.Group.Sources

namespace SignalBoard.DashboardGroup

variable {group : DashboardGroup} {created : Option Json} {target : String}
  {placements past : List Placement} {kept : List String} {history after : History}

/-- What neither clones nor deletes dashboards or groups may be sent at any time. -/
theorem permits_of_ne {request : Request}
    (noClone : ∀ other query body, request ≠ .post (Request.clonePath other) query body)
    (noDeletion : ∀ kind id, kind ≠ Kind.chart → request ≠ .delete (kind.path id)) :
    group.Permits history request where
  clones other query body same := (noClone other query body same).elim
  groups groupId same := (noDeletion .group groupId (by decide) same).elim
  dashboards id same := (noDeletion .dashboard id (by decide) same).elim

theorem permits_ofUpdate {request : Request} (ofUpdate : request.OfUpdate) :
    group.Permits history request :=
  permits_of_ne ofUpdate.not_clone fun _ id notChart => ofUpdate.not_delete notChart id

theorem permits_search (kind : Kind) (name : String) :
    group.Permits history (.search kind name) := permits_of_ne (by simp) (by simp)

theorem permits_read (path : String) : group.Permits history (.get path) :=
  permits_of_ne (by simp) (by simp)

theorem permits_write (path : String) (body : Json) : group.Permits history (.put path body) :=
  permits_of_ne (by simp) (by simp)

theorem permits_createGroup (query : List (String × String)) (body : Json) :
    group.Permits history (.post Kind.group.endpoint query body) := by
  apply permits_of_ne
  · intro other query body same
    injection same with samePath
    exact Request.clonePath_ne_group other samePath.symm
  · simp

/-- No group was read so far. -/
def Unread (history : History) : Prop :=
  ∀ groupId reply, (.get (Kind.group.path groupId), reply) ∉ history

/-- Nothing was cloned so far. -/
def Uncloned (history : History) : Prop :=
  ∀ other query body reply, (.post (Request.clonePath other) query body, reply) ∉ history

theorem permits_clone (unread : Unread history) (other id : String) :
    group.Permits history (.clone other id) where
  clones _ _ _ _ := unread
  groups _ same := nomatch same
  dashboards _ same := nomatch same

theorem Unread.append (unread : Unread history) {own : History}
    (none : ∀ exchange ∈ own, ∀ groupId, exchange.1 ≠ .get (Kind.group.path groupId)) :
    Unread (history ++ own) := by
  intro groupId reply member
  cases List.mem_append.mp member with
  | inl earlier => exact unread groupId reply earlier
  | inr later => exact none _ later groupId rfl

theorem Uncloned.append (uncloned : Uncloned history) {own : History}
    (none : ∀ exchange ∈ own, ∀ other query body,
      exchange.1 ≠ .post (Request.clonePath other) query body) :
    Uncloned (history ++ own) := by
  intro other query body reply member
  cases List.mem_append.mp member with
  | inl earlier => exact uncloned other query body reply earlier
  | inr later => exact none _ later other query body rfl

/-- What the exchanges so far tell: the group that was created, if one was, the target, and where
dashboards were placed. -/
structure Known (group : DashboardGroup) (created : Option Json) (target : String)
    (placements : List Placement) (history : History) : Prop where
  creation : history.created? = created
  aimed : group.target? history = some target
  placed : ∀ placement, history.Placed placement ↔ placement ∈ placements

/-- The target stays known. -/
theorem target?_append (known : group.target? history = some target) {own : History}
    (quiet : own.created? = none) : group.target? (history ++ own) = some target := by
  unfold target? at known ⊢
  rw [History.created?_append quiet]
  cases isCreated : history.created? with
  | some created => rwa [isCreated] at known
  | none =>
      rw [isCreated] at known
      obtain ⟨found, searched, known⟩ := Option.bind_eq_some_iff.mp known
      apply Option.bind_eq_some_iff.mpr
      refine ⟨found, ?_, known⟩
      rw [List.findSome?_append, searched, Option.some_or]

theorem Known.grown (known : group.Known created target placements history)
    (grown : history.Grown Request.Moves after) : group.Known created target placements after := by
  obtain ⟨own, rfl, moves⟩ := grown
  have quiet : own.created? = none :=
    History.created?_eq_none fun exchange member => (moves exchange member).not_group
  constructor
  · rw [History.created?_append quiet, known.creation]
  · exact target?_append known.aimed quiet
  · intro placement
    rw [History.placed_append_iff moves, known.placed]

/-- Nothing was moved yet. -/
structure Placing (group : DashboardGroup) (created : Option Json) (target : String)
    (placements : List Placement) (history : History) : Prop
    extends group.Known created target placements history where
  unread : Unread history
  uncloned : Uncloned history

/-- An update of a dashboard adds the place that its reply tells. -/
theorem placed_append_update {searched reply : Json} {name : String} {own : History}
    (completed : Dashboard.Completed own reply) {placement : Placement} :
    (history ++ (.search .dashboard name, searched) :: own).Placed placement ↔
      history.Placed placement ∨ (reply.id? = some placement.dashboardId ∧
        (reply.field "groupId").string?.getD "" = placement.groupId) := by
  constructor
  · rintro ⟨other, concluded, places⟩
    cases concluded.of_append with
    | inl earlier => exact .inl ⟨other, earlier, places⟩
    | inr later =>
        cases later with
        | later _ concluded =>
            obtain rfl := completed.concluded_iff.mp concluded
            exact .inr places
  · rintro (⟨other, concluded, places⟩ | places)
    · exact ⟨other, concluded.append (by simp), places⟩
    · have concluded := completed.concluded_iff.mpr rfl
      exact ⟨reply, .prepend (.later _ concluded) history, places⟩

/-- An update of a dashboard keeps to what its group permits. -/
theorem guarded_update_dashboard (dashboard : Dashboard) (history : History) :
    (dashboard.update {}).Guarded group.Permits (fun reply after =>
      history.Grown Request.OfUpdate after ∧ ∃ searched own, Dashboard.Completed own reply ∧
        after = history ++ (.search .dashboard dashboard.name, searched) :: own) history := by
  have update := (dashboard.guarded_update {}).grown fun _ _ => Dashboard.Admits.ofUpdate
  have promised : (dashboard.update {}).Guarded group.Permits (fun reply after =>
      history.Grown Request.OfUpdate after ∧ ∃ searched own, Dashboard.Completed own reply ∧
        after = history ++ (.search .dashboard dashboard.name, searched) :: own)
      (history ++ []) := by
    apply Plan.Guarded.after
    apply (update.mono _).weaken
    · exact fun own request admitted => permits_ofUpdate admitted.ofUpdate
    · rintro reply _ ⟨⟨searched, rest, rfl, completed⟩, own, same, ofUpdate⟩
      rw [List.nil_append] at same
      exact ⟨⟨own, congrArg (history ++ ·) same, ofUpdate⟩, searched, rest, completed, rfl⟩
  rwa [List.append_nil] at promised

/-- Placing a dashboard tells its place. -/
theorem guarded_placeDashboard (dashboard : Dashboard)
    (placing : group.Placing created target placements history) :
    (placeDashboard dashboard).Guarded group.Permits (fun placement after =>
      group.Placing created target (placements ++ [placement]) after) history := by
  unfold placeDashboard
  apply Plan.guarded_bind (guarded_update_dashboard dashboard history)
  rintro reply after ⟨⟨own, grown, ofUpdate⟩, searched, rest, completed, same⟩
  apply Plan.guarded_requireId
  intro id identified
  have quiet : own.created? = none :=
    History.created?_eq_none fun exchange member => (ofUpdate exchange member).not_group
  apply Plan.guarded_pure
  constructor
  · constructor
    · rw [grown, History.created?_append quiet, placing.creation]
    · rw [grown]
      exact target?_append placing.aimed quiet
    · intro placement
      rw [same, placed_append_update completed, placing.placed, List.mem_append, identified,
        Option.some.injEq, List.mem_singleton]
      apply or_congr_right
      constructor
      · rintro ⟨rfl, inGroup⟩
        rw [inGroup]
      · rintro rfl
        exact ⟨rfl, rfl⟩
  · rw [grown]
    exact placing.unread.append fun exchange member => (ofUpdate exchange member).not_read
  · rw [grown]
    exact placing.uncloned.append fun exchange member => (ofUpdate exchange member).not_clone

/-- Placing all dashboards tells where each of them is. -/
theorem guarded_placeAll (placing : group.Placing created target [] history) :
    (group.dashboards.mapM placeDashboard).Guarded group.Permits (fun placements after =>
      group.Placing created target placements after) history := by
  apply Plan.guarded_mapM (fun _ placements after => group.Placing created target placements after)
    [] [] ?_ placing
  exact fun dashboard _ _ placements history placing => guarded_placeDashboard dashboard placing

/-- Every dashboard that is placed in another group has been cloned into the target. -/
structure Copied (group : DashboardGroup) (created : Option Json) (target : String)
    (placements : List Placement) (history : History) : Prop
    extends group.Known created target placements history where
  cloned : ∀ placement ∈ placements, placement.groupId ≠ target →
    history.Cloned target placement.dashboardId

theorem Copied.grown (copied : group.Copied created target placements history)
    (grown : history.Grown Request.Removes after) :
    group.Copied created target placements after where
  toKnown := copied.toKnown.grown (grown.mono fun _ => Request.Removes.moves)
  cloned placement member elsewhere := by
    obtain ⟨own, rfl, -⟩ := grown
    exact (copied.cloned placement member elsewhere).append own

/-- The clones that a group is to keep: every dashboard that is there, and every clone. -/
structure Kept (target : String) (placements : List Placement) (kept : List String)
    (history : History) : Prop where
  placed : ∀ placement ∈ placements, placement.groupId = target → placement.dashboardId ∈ kept
  clones : ∀ other query body reply,
    (.post (Request.clonePath other) query body, reply) ∈ history → ∃ id ∈ kept, reply.id? = some id
  sources : ∀ id, history.Cloned target id →
    ∃ placement ∈ placements, placement.dashboardId = id ∧ placement.groupId ≠ target

theorem Kept.grown (kept' : Kept target placements kept history)
    (grown : history.Grown Request.Removes after) : Kept target placements kept after := by
  obtain ⟨own, rfl, removes⟩ := grown
  have earlier : ∀ other query body reply,
      (.post (Request.clonePath other) query body, reply) ∈ history ++ own →
      (.post (Request.clonePath other) query body, reply) ∈ history := by
    intro other query body reply member
    apply (List.mem_append.mp member).resolve_right
    intro later
    cases removes _ later
  constructor
  · exact kept'.placed
  · exact fun other query body reply member =>
      kept'.clones other query body reply (earlier _ _ _ _ member)
  · rintro id ⟨reply, member⟩
    exact kept'.sources id ⟨reply, earlier _ _ _ _ member⟩

/-- A group that is not the target may be deleted once all it lists was cloned. -/
theorem Copied.permits_group (copied : group.Copied created target placements history)
    {groupId : String} {document : Json} (other : groupId ≠ target)
    (read : history.lastRead? (Kind.group.path groupId) = some document)
    (moved : ∀ id ∈ members document, ∃ placement ∈ placements,
      placement.dashboardId = id ∧ placement.groupId ≠ target) :
    group.Permits history (.delete (Kind.group.path groupId)) where
  clones _ _ _ same := nomatch same
  groups id same := by
    injection same with samePath
    obtain ⟨-, rfl⟩ := Kind.path_inj samePath
    refine ⟨target, copied.aimed, other, document, read, fun id listed => ?_⟩
    obtain ⟨placement, member, rfl, elsewhere⟩ := moved id listed
    exact copied.cloned placement member elsewhere
  dashboards id same := by
    injection same with samePath
    exact (Kind.path_ne (by decide) _ _ samePath).elim

/-- A dashboard may be deleted for one of three reasons. -/
theorem Known.permits_dashboard (known : group.Known created target placements history)
    {id : String}
    (reason : history.Moved target id ∨ history.Seeded id ∨ history.Surplus target id) :
    group.Permits history (.delete (Kind.dashboard.path id)) where
  clones _ _ _ same := nomatch same
  groups groupId same := by
    injection same with samePath
    exact (Kind.path_ne (by decide) _ _ samePath).elim
  dashboards other same := by
    injection same with samePath
    obtain ⟨-, rfl⟩ := Kind.path_inj samePath
    exact ⟨target, known.aimed, reason⟩

/-- The original of a clone was moved. -/
theorem Copied.moved (copied : group.Copied created target placements history)
    {placement : Placement} (member : placement ∈ placements)
    (elsewhere : placement.groupId ≠ target) : history.Moved target placement.dashboardId :=
  ⟨⟨placement, (copied.placed placement).mpr member, rfl, elsewhere⟩,
    copied.cloned placement member elsewhere⟩

/-- Deleting the charts of a dashboard is permitted at any time. -/
theorem guarded_deleteChartsOf (id : String) (grown : history.Grown Request.Clears after) :
    (Dashboard.deleteChartsOf id).Guarded group.Permits
      (fun _ after => history.Grown Request.Clears after) after := by
  refine ⟨permits_read _, fun remote => ?_⟩
  apply Plan.guarded_forM (fun _ after => history.Grown Request.Clears after) [] ?_
    (grown.append (.read id) remote)
  intro chart _ _ after grown
  exact ⟨permits_ofUpdate (.deleteChart chart),
    fun reply => grown.append (.deleteChart chart) reply⟩

/-- Dashboards are deleted one after the other if that is permitted throughout. -/
theorem guarded_deleteAll {ids : List String} (permitted : ∀ id ∈ ids, ∀ after,
      history.Grown Request.Clears after → group.Permits after (.delete (Kind.dashboard.path id))) :
    (ids.forM Dashboard.deleteById).Guarded group.Permits
      (fun _ after => history.Grown Request.Clears after) history := by
  apply Plan.guarded_forM (fun _ after => history.Grown Request.Clears after) [] ?_ (.refl _ _)
  intro id member _ after grown
  apply Plan.guarded_bind (guarded_deleteChartsOf id grown)
  intro _ between grown
  exact ⟨permitted id member between grown, fun reply => grown.append (.delete id) reply⟩

/-- What was read last of a group is still that when dashboards were removed. -/
theorem lastRead?_of_grown (grown : history.Grown Request.Clears after) (groupId : String) :
    after.lastRead? (Kind.group.path groupId) = history.lastRead? (Kind.group.path groupId) := by
  obtain ⟨own, rfl, clears⟩ := grown
  exact History.lastRead?_append fun exchange member => (clears exchange member).not_read groupId

/-- Removing originals from a group is permitted: they, and all that a group has that is deleted
with them, were cloned. -/
theorem guarded_removeFrom (copied : group.Copied created target placements history)
    {groupId : String} {ids : List String} (other : groupId ≠ target)
    (moved : ∀ id ∈ ids, ∃ placement ∈ placements,
      placement.dashboardId = id ∧ placement.groupId ≠ target) :
    (removeFrom groupId ids).Guarded group.Permits
      (fun _ after => history.Grown Request.Removes after) history := by
  refine ⟨permits_read _, fun document => ?_⟩
  have read := (History.Grown.refl Request.Removes history).append
    (.read (Kind.group.path groupId)) document
  generalize isNow : history ++ [(.get (Kind.group.path groupId), document)] = now at read ⊢
  have last : now.lastRead? (Kind.group.path groupId) = some document :=
    isNow ▸ History.lastRead?_append_read document
  have goesOn : ∀ {after}, now.Grown Request.Clears after →
      history.Grown Request.Removes after :=
    fun grown => read.trans (grown.mono fun _ => Request.Clears.removes)
  show Plan.Guarded _ _ (if (members document).all ids.contains then _ else _) _
  split
  case isTrue all =>
    have charts : (ids.forM Dashboard.deleteChartsOf).Guarded group.Permits
        (fun _ after => now.Grown Request.Clears after) now :=
      Plan.guarded_forM (fun _ after => now.Grown Request.Clears after) []
        (fun id _ _ _ grown => guarded_deleteChartsOf id grown) (.refl _ _)
    apply Plan.guarded_bind charts
    intro _ after grown
    have permitted : group.Permits after (.delete (Kind.group.path groupId)) := by
      apply (copied.grown (goesOn grown)).permits_group other
      · rw [lastRead?_of_grown grown, last]
      · intro id listed
        exact moved id (List.contains_iff_mem.mp (List.all_eq_true.mp all id listed))
    exact ⟨permitted, fun reply => (goesOn grown).append (.delete _) reply⟩
  case isFalse =>
    apply (guarded_deleteAll _).mono fun _ _ => goesOn
    intro id member after grown
    have copied := copied.grown (goesOn grown)
    obtain ⟨placement, placed, rfl, elsewhere⟩ := moved id member
    exact copied.permits_dashboard (.inl (copied.moved placed elsewhere))

/-- Removing all originals is permitted once everything was cloned. -/
theorem guarded_removeSources (copied : group.Copied created target placements history) :
    (removeSources target placements).Guarded group.Permits
      (fun _ after => history.Grown Request.Removes after) history := by
  apply Plan.guarded_forM (fun _ after => history.Grown Request.Removes after) [] ?_ (.refl _ _)
  rintro ⟨groupId, ids⟩ member _ between grown
  obtain ⟨among, same⟩ := mem_byGroup member
  obtain ⟨placement, elsewhere, rfl⟩ := List.mem_map.mp among
  have other : placement.groupId ≠ target := by simpa using (List.mem_filter.mp elsewhere).2
  apply (guarded_removeFrom (copied.grown grown) other _).mono fun _ _ => grown.trans
  change ids = _ at same
  rw [same]
  intro id isOne
  obtain ⟨source, filtered, rfl⟩ := List.mem_map.mp isOne
  obtain ⟨placed, elsewhere⟩ := List.mem_filter.mp (List.mem_filter.mp filtered).1
  exact ⟨source, placed, rfl, by simpa using elsewhere⟩

/-- Dashboards are being cloned: those that are over and were placed elsewhere have been, and no
group was read. -/
structure Cloning (group : DashboardGroup) (created : Option Json) (target : String)
    (placements past : List Placement) (history : History) : Prop
    extends group.Known created target placements history where
  unread : Unread history
  cloned : ∀ placement ∈ past, placement.groupId ≠ target →
    history.Cloned target placement.dashboardId

/-- A dashboard that is in the target need not be cloned. -/
theorem Cloning.stay (cloning : group.Cloning created target placements past history)
    {placement : Placement} (stays : placement.groupId = target) :
    group.Cloning created target placements (past ++ [placement]) history := by
  refine ⟨cloning.toKnown, cloning.unread, fun other member elsewhere => ?_⟩
  cases List.mem_append.mp member with
  | inl earlier => exact cloning.cloned other earlier elsewhere
  | inr last => exact absurd (List.mem_singleton.mp last ▸ stays) elsewhere

/-- A dashboard was cloned. -/
theorem Cloning.clone (cloning : group.Cloning created target placements past history)
    (placement : Placement) (reply : Json) :
    group.Cloning created target placements (past ++ [placement])
      (history ++ [(.clone target placement.dashboardId, reply)]) := by
  constructor
  · exact cloning.toKnown.grown ((History.Grown.refl _ _).append (.clone ..) reply)
  · exact cloning.unread.append (by simp [Request.clone])
  · intro other member elsewhere
    cases List.mem_append.mp member with
    | inl earlier => exact (cloning.cloned other earlier elsewhere).append _
    | inr last =>
        obtain rfl := List.mem_singleton.mp last
        exact ⟨reply, by simp⟩

theorem Cloning.copied (cloning : group.Cloning created target placements placements history) :
    group.Copied created target placements history :=
  ⟨cloning.toKnown, cloning.cloned⟩

/-- Cloning dashboards into a new group is permitted. -/
theorem guarded_cloneAll (placing : group.Placing created target placements history) :
    (placements.forM fun placement => do
      let _ ← cloneInto target placement.dashboardId
      return ()).Guarded group.Permits
        (fun _ after => group.Copied created target placements after) history := by
  have start : group.Cloning created target placements [] history :=
    ⟨placing.toKnown, placing.unread, by simp⟩
  have clones : (placements.forM fun placement => do
      let _ ← cloneInto target placement.dashboardId
      return ()).Guarded group.Permits
        (fun _ after => group.Cloning created target placements placements after) history := by
    apply Plan.guarded_forM (group.Cloning created target placements) [] ?_ start
    intro placement _ past history cloning
    exact ⟨permits_clone cloning.unread .., fun reply => cloning.clone placement reply⟩
  exact clones.mono fun _ _ => Cloning.copied

/-- What is kept so far when another dashboard is. -/
theorem Kept.stay (kept' : Kept target past kept history) (placement : Placement) :
    Kept target (past ++ [placement]) (kept ++ [placement.dashboardId]) history := by
  constructor
  · intro other member inTarget
    rw [List.mem_append, List.mem_singleton] at member ⊢
    exact member.imp (kept'.placed other · inTarget) (congrArg Placement.dashboardId)
  · intro other query body reply member
    obtain ⟨id, isKept, identified⟩ := kept'.clones other query body reply member
    exact ⟨id, List.mem_append_left _ isKept, identified⟩
  · intro id cloned
    obtain ⟨source, isOver, isSource⟩ := kept'.sources id cloned
    exact ⟨source, List.mem_append_left _ isOver, isSource⟩

/-- What is kept so far when a clone is. -/
theorem Kept.clone (kept' : Kept target past kept history) {placement : Placement}
    (elsewhere : placement.groupId ≠ target) {reply : Json} {id : String}
    (identified : reply.id? = some id) :
    Kept target (past ++ [placement]) (kept ++ [id])
      (history ++ [(.clone target placement.dashboardId, reply)]) := by
  constructor
  · intro other member inTarget
    rw [List.mem_append, List.mem_singleton] at member
    cases member with
    | inl earlier => exact List.mem_append_left _ (kept'.placed other earlier inTarget)
    | inr last => exact absurd (last ▸ inTarget) elsewhere
  · intro other query body reply' member
    rw [List.mem_append, List.mem_singleton] at member
    cases member with
    | inl earlier =>
        obtain ⟨id', isKept, identified'⟩ := kept'.clones other query body reply' earlier
        exact ⟨id', List.mem_append_left _ isKept, identified'⟩
    | inr last =>
        obtain ⟨-, rfl⟩ := Prod.mk.inj last
        exact ⟨id, by simp, identified⟩
  · rintro id' ⟨reply', member⟩
    rw [List.mem_append, List.mem_singleton] at member
    cases member with
    | inl earlier =>
        obtain ⟨source, isOver, isSource⟩ := kept'.sources id' ⟨reply', earlier⟩
        exact ⟨source, List.mem_append_left _ isOver, isSource⟩
    | inr last =>
        obtain ⟨-, rfl⟩ := Request.clone_inj (Prod.mk.inj last).1
        exact ⟨placement, by simp, rfl, elsewhere⟩

/-- Bringing dashboards into a stored group is permitted, and tells what it is to keep. -/
theorem guarded_settleAll (placing : group.Placing created target placements history) :
    (placements.mapM (settle target)).Guarded group.Permits (fun kept after =>
      group.Copied created target placements after ∧ Kept target placements kept after)
      history := by
  have start : group.Cloning created target placements [] history ∧ Kept target [] [] history := by
    refine ⟨⟨placing.toKnown, placing.unread, by simp⟩, by simp, ?_, ?_⟩
    · exact fun other query body reply member => (placing.uncloned _ _ _ _ member).elim
    · exact fun id ⟨reply, member⟩ => (placing.uncloned _ _ _ _ member).elim
  have settles : (placements.mapM (settle target)).Guarded group.Permits (fun kept after =>
      group.Cloning created target placements placements after ∧ Kept target placements kept after)
      history := by
    apply Plan.guarded_mapM (fun past kept after =>
      group.Cloning created target placements past after ∧ Kept target past kept after)
      [] [] ?_ start
    rintro placement _ past kept history ⟨cloning, kept'⟩
    unfold settle
    split
    case isTrue stays => exact ⟨cloning.stay stays, kept'.stay placement⟩
    case isFalse elsewhere =>
      refine ⟨permits_clone cloning.unread .., fun reply => ?_⟩
      show (requireId reply).Guarded _ _ _
      rw [← bind_pure (requireId reply)]
      apply Plan.guarded_requireId
      intro id identified
      exact ⟨cloning.clone placement reply, kept'.clone elsewhere identified⟩
  exact settles.mono fun _ _ promised => ⟨promised.1.copied, promised.2⟩

/-- What the target lists in the end may be deleted if it is not kept. -/
theorem Copied.permits_unkept (copied : group.Copied created target placements history)
    (kept' : Kept target placements kept history) {document : Json}
    (read : history.lastRead? (Kind.group.path target) = some document) {id : String}
    (listed : id ∈ members document) (unkept : id ∉ kept) :
    group.Permits history (.delete (Kind.dashboard.path id)) := by
  apply copied.permits_dashboard
  by_cases cloned : history.Cloned target id
  · obtain ⟨placement, member, rfl, elsewhere⟩ := kept'.sources id cloned
    exact .inl (copied.moved member elsewhere)
  · refine .inr (.inr ⟨⟨document, read, listed⟩, ?_, ?_, cloned⟩)
    · rintro placement placed inTarget rfl
      exact unkept (kept'.placed placement ((copied.placed placement).mp placed) inTarget)
    · intro other query body reply member identified
      obtain ⟨id', isKept, identified'⟩ := kept'.clones other query body reply member
      rw [identified, Option.some.injEq] at identified'
      exact unkept (identified' ▸ isKept)

/-- Reconciling the dashboards of a stored group is permitted. -/
theorem guarded_reconcileDashboards (placing : group.Placing created target [] history) :
    (group.reconcileDashboards target).Guarded group.Permits (fun _ _ => True) history := by
  unfold reconcileDashboards
  apply Plan.guarded_bind (guarded_placeAll placing)
  intro placements history placing
  apply Plan.guarded_bind (guarded_settleAll placing)
  rintro kept history ⟨copied, kept'⟩
  apply Plan.guarded_bind (guarded_removeSources copied)
  intro _ history' removed
  refine ⟨permits_read _, fun current => ?_⟩
  have read := removed.append (.read (Kind.group.path target)) current
  generalize isNow : history' ++ [(.get (Kind.group.path target), current)] = now at read ⊢
  have last : now.lastRead? (Kind.group.path target) = some current :=
    isNow ▸ History.lastRead?_append_read current
  show Plan.Guarded _ _ (List.forM _ _ >>= fun _ => _) _
  apply Plan.guarded_bind (guarded_deleteAll _) fun _ _ _ => Plan.guarded_pure trivial
  intro id member after grown
  obtain ⟨listed, unkept⟩ := List.mem_filter.mp member
  have goesOn := read.trans (grown.mono fun _ => Request.Clears.removes)
  apply (copied.grown goesOn).permits_unkept (kept'.grown goesOn) _ listed (by simpa using unkept)
  rw [lastRead?_of_grown grown, last]

/-- So far the group was only searched for. -/
def Searched (group : DashboardGroup) (history : History) : Prop :=
  ∀ exchange ∈ history, exchange.1 = .search .group group.name

/-- A group that was just created is the target; no dashboard was placed yet. -/
theorem Searched.placing (searched : group.Searched history) (query : List (String × String))
    (body : Json) {reply : Json} {id : String} (identified : reply.id? = some id) :
    group.Placing (some reply) id []
      (history ++ [(.post Kind.group.endpoint query body, reply)]) := by
  have uncreated : history.created? = none :=
    History.created?_eq_none fun exchange member => by simp [searched exchange member]
  have creation : History.created?
      (history ++ [(.post Kind.group.endpoint query body, reply)]) = some reply := by
    rw [History.created?, List.findSome?_append, ← History.created?, uncreated, Option.none_or]
    simp [List.findSome?]
  have requests : ∀ exchange ∈ history ++ [(.post Kind.group.endpoint query body, reply)],
      exchange.1 = .search .group group.name ∨
        exchange.1 = .post Kind.group.endpoint query body := by
    intro exchange member
    cases List.mem_append.mp member with
    | inl earlier => exact .inl (searched exchange earlier)
    | inr last => exact .inr (List.mem_singleton.mp last ▸ rfl)
  constructor
  · constructor
    · exact creation
    · rw [target?, creation]
      exact identified
    · intro placement
      constructor
      · rintro ⟨other, concluded, -⟩
        obtain ⟨request, member, isLast⟩ := concluded.exists_mem
        obtain ⟨_, _, rfl⟩ | ⟨_, _, rfl⟩ := isLast
        · simpa using requests _ member
        · obtain same | same := requests _ member
          · cases same
          · injection same with samePath
            exact absurd samePath (by decide)
      · exact fun nothing => absurd nothing List.not_mem_nil
  · intro groupId other member
    simpa using requests _ member
  · intro other query' body' reply' member
    obtain same | same := requests _ member
    · cases same
    · injection same with samePath
      exact Request.clonePath_ne_group other samePath

/-- Creating a group keeps to what is permitted, whatever is answered. -/
theorem guarded_createUnguarded (searched : group.Searched history) (overrides : Overrides) :
    (group.createUnguarded overrides).Guarded group.Permits (fun _ _ => True) history := by
  unfold createUnguarded
  apply Plan.guarded_checked
  intro payload _
  apply Plan.guarded_apply
  intro payload
  refine ⟨permits_createGroup .., fun created => ?_⟩
  show Plan.Guarded _ _ (if _ then _ else _) _
  split
  case isTrue => trivial
  case isFalse =>
    apply Plan.guarded_requireId
    intro id identified
    apply Plan.guarded_bind (guarded_placeAll (searched.placing _ _ identified))
    intro placements history placing
    apply Plan.guarded_bind (guarded_cloneAll placing)
    intro _ history copied
    apply Plan.guarded_bind (guarded_removeSources copied)
    intro _ after removed
    have copied := copied.grown removed
    have seed : ((members created).head?.forM Dashboard.deleteById).Guarded group.Permits
        (fun _ _ => True) after := by
      cases isFirst : (members created).head? with
      | none => trivial
      | some first =>
          apply Plan.guarded_bind (guarded_deleteChartsOf first (.refl _ _))
          intro _ later grown
          have known := copied.toKnown.grown
            (grown.mono fun _ clears => clears.removes.moves)
          refine ⟨known.permits_dashboard (.inr (.inl ⟨created, known.creation, isFirst⟩)), ?_⟩
          exact fun _ => trivial
    apply Plan.guarded_bind seed
    exact fun _ _ _ => ⟨permits_read _, fun _ => trivial⟩

/-- Creating a group unless its name is taken keeps to what is permitted. -/
theorem guarded_create (group : DashboardGroup) (options : CreateOptions) :
    (group.create options).Guarded group.Permits (fun _ _ => True) [] := by
  unfold create
  apply Plan.guarded_checked
  intro _ _
  have looks : (guardCreate .group group.name options).Guarded group.Permits
      (fun _ after => group.Searched after) [] := by
    unfold guardCreate
    split
    case isTrue => exact Plan.guarded_pure (by simp [Searched])
    case isFalse =>
      refine ⟨permits_search .., fun reply => ?_⟩
      have searched : group.Searched [(.search .group group.name, reply)] := by simp [Searched]
      show Plan.Guarded _ _ (if (matching group.name reply.items).isEmpty then _ else _) _
      split
      case isTrue => exact searched
      case isFalse =>
        split
        case isTrue =>
          intro answer
          cases answer with
          | true => exact searched
          | false => trivial
        case isFalse => split <;> trivial
  apply Plan.guarded_bind looks
  exact fun _ history searched => guarded_createUnguarded searched {}

/-- The group that the search found is the target; no dashboard was placed yet. -/
theorem placing_of_found {reply remote : Json} {id : String}
    (found : matching group.name reply.items = [remote]) (identified : remote.id? = some id) :
    group.Placing none id [] [(.search .group group.name, reply)] := by
  constructor
  · constructor
    · rfl
    · simp [target?, History.created?, found, identified]
    · intro placement
      constructor
      · rintro ⟨other, concluded, -⟩
        obtain ⟨request, member, isLast⟩ := concluded.exists_mem
        obtain ⟨_, _, rfl⟩ | ⟨_, _, rfl⟩ := isLast <;> simp at member
      · exact fun nothing => absurd nothing List.not_mem_nil
  · exact fun groupId other member => by simp at member
  · exact fun other query body reply member => by simp at member

/-- Updating a group keeps to what is permitted, whatever is answered. -/
theorem guarded_update (group : DashboardGroup) (overrides : Overrides) :
    (group.update overrides).Guarded group.Permits (fun _ _ => True) [] := by
  unfold update
  apply Plan.guarded_checked
  intro _ _
  apply Plan.guarded_bind (Plan.guarded_findUnique (permits_search ..))
  rintro found _ ⟨reply, rfl, matched⟩
  cases found with
  | none => exact guarded_createUnguarded (by simp [Searched]) overrides
  | some remote =>
      apply Plan.guarded_requireId
      intro id identified
      have placing := placing_of_found matched identified
      have writes : ∀ document history, (do
          let fields ← Plan.checked group.unnamedPayload
          let document ← overrides.apply (Json.overlay document fields)
          Plan.put (Kind.group.path id) document).Guarded group.Permits
          (fun _ _ => True) history := by
        intro document history
        apply Plan.guarded_checked
        intro fields _
        apply Plan.guarded_apply
        exact fun document => ⟨permits_write .., fun _ => trivial⟩
      show Plan.Guarded _ _ (if group.dashboards.isEmpty then _ else _) _
      split
      case isTrue => exact writes remote _
      case isFalse =>
        apply Plan.guarded_bind (guarded_reconcileDashboards placing)
        intro kept history _
        apply Plan.guarded_assign
        exact fun document => writes document history

/-- Every request is permitted after the exchanges before it, which have all succeeded. -/
def Cautious (group : DashboardGroup) (trace : Trace) : Prop :=
  ∀ before request outcome after, trace = before ++ (request, outcome) :: after →
    ∃ history : History, before = history.trace ∧ group.Permits history request

/-- Creating or updating a group never destroys a dashboard before its copy exists, whatever the API
answers and wherever it fails. -/
theorem cautious {σ : Type} (server : Server σ) (answer : Question → Bool)
    (group : DashboardGroup) (state : σ) :
    (∀ options, group.Cautious ((group.create options).trace server answer state)) ∧
      ∀ overrides, group.Cautious ((group.update overrides).trace server answer state) := by
  constructor
  · intro options before request outcome after split
    exact (guarded_create group options).admits split
  · intro overrides before request outcome after split
    exact (guarded_update group overrides).admits split

end SignalBoard.DashboardGroup
