/-
# Creating a group or nothing

The creation of a group starts by creating the group and goes on with many requests, none of which
is taken back if a later one fails. So it is all or nothing only if nothing fails after the first:
either what stands in the way is found before, or nothing does. What can stand in the way later on
is a local dashboard whose name identifies no single stored one, for the names are looked up once
the group is there, together with the empty dashboard that the service puts into it, or a name that
two local dashboards share, for then one stored dashboard is to be removed twice.
-/

import Mathlib.Data.Fintype.EquivFin
import SignalBoard.Proofs.Group.Hosted
import SignalBoard.Proofs.Plan.Interrupted

namespace SignalBoard

open Function (update)

namespace Store

variable {before after store : Store} {id : String} {face : Face} {own : String}
  {names : List String}

/-- No two dashboards of the store share one of the names. -/
def Identifies (store : Store) (names : List String) : Prop :=
  ∀ name ∈ names, ∀ id id' face face', store.face? id = some face → store.face? id' = some face' →
    face.name = some name → face'.name = some name → id = id'

/-- A name that is shared by no two dashboards identifies at most one. -/
theorem Identifies.exists_named_eq (identifies : store.Identifies names) (sound : store.Sound)
    {name : String} (member : name ∈ names) :
    ∃ found : Option Json, store.named .dashboard name = found.toList := by
  by_cases there : ∃ id document, store.resource? .dashboard id = some document ∧
      document.name? = some name
  case pos =>
    obtain ⟨id, document, stored, isNamed⟩ := there
    refine ⟨some document, named_eq_singleton sound.ordered stored isNamed ?_⟩
    exact fun id' other stored' isNamed' => identifies name member id' id _ _ (face?_eq stored')
      (face?_eq stored) isNamed' isNamed
  case neg =>
    refine ⟨none, (named_eq_nil_iff sound.ordered ..).mpr fun id document stored isNamed => ?_⟩
    exact there ⟨id, document, stored, isNamed⟩

/-- A dashboard whose name nothing else has may get a new face. -/
theorem Identifies.update (identifies : before.Identifies names)
    (faces : after.face? = update before.face? id (some face)) (isNamed : face.name = some own)
    (only : own ∈ names → ∀ other face', before.face? other = some face' →
      face'.name = some own → other = id) : after.Identifies names := by
  intro name member first second face₁ face₂ found₁ found₂ named₁ named₂
  have alone : face.name = some name → ∀ other face', before.face? other = some face' →
      face'.name = some name → other = id := by
    intro isNamed'
    obtain rfl := Option.some.inj (isNamed.symm.trans isNamed')
    exact only member
  rw [faces] at found₁ found₂
  obtain ⟨isFirst, rfl⟩ | ⟨-, known₁⟩ := eq_or_of_update found₁
  · obtain ⟨isSecond, -⟩ | ⟨-, known₂⟩ := eq_or_of_update found₂
    · exact isFirst.trans isSecond.symm
    · exact isFirst.trans (alone named₁ second face₂ known₂ named₂).symm
  · obtain ⟨isSecond, rfl⟩ | ⟨-, known₂⟩ := eq_or_of_update found₂
    · exact (alone named₂ first face₁ known₁ named₁).trans isSecond.symm
    · exact identifies name member first second face₁ face₂ known₁ known₂ named₁ named₂

/-- Putting a dashboard in its place gives no other one its name. -/
theorem Seated.identifies {dashboard : Dashboard} {placement : Placement}
    (seated : Seated dashboard placement before after) (identifies : before.Identifies names) :
    after.Identifies names := by
  obtain ⟨face, fits, faces⟩ := seated.exists_face
  exact identifies.update faces fits.isNamed fun _ _ _ found named => seated.eq_of_name found named

/-- Some name is the name of no group. -/
theorem exists_untitled (store : Store) : ∃ name, ∀ groupId, store.title? groupId ≠ some name := by
  obtain ⟨name, foreign⟩ := Infinite.exists_notMem_finset
    (store.documents.filterMap fun entry => entry.2.name?).toFinset
  refine ⟨name, fun groupId titled => foreign ?_⟩
  obtain ⟨document, stored, isNamed⟩ := Option.bind_eq_some_iff.mp titled
  rw [List.mem_toFinset, List.mem_filterMap]
  exact ⟨_, Table.mem_of_get? (get?_of_resource? stored), isNamed⟩

end Store

namespace DashboardGroup

open Store (Hosted Identifies Moving Seating)

variable {answer : Question → Bool} {store : Store} {target name : String} {document : Json}
  {group : DashboardGroup} {dashboards : List Dashboard}

/-- The names of the local dashboards are distinct, and each is the name of at most one stored
dashboard; of none, if it is also the name of the dashboard that comes with a new group. -/
structure Unambiguous (group : DashboardGroup) (store : Store) : Prop where
  distinct : (group.dashboards.map (·.name)).Nodup
  single : ∀ dashboard ∈ group.dashboards, ∀ id id' document document',
    store.resource? .dashboard id = some document →
    store.resource? .dashboard id' = some document' → document.name? = some dashboard.name →
    document'.name? = some dashboard.name → id = id'
  default : "Default Dashboard" ∈ group.dashboards.map (·.name) → ∀ id document,
    store.resource? .dashboard id = some document → document.name? ≠ some "Default Dashboard"

theorem Unambiguous.identifies (clear : group.Unambiguous store) :
    store.Identifies (group.dashboards.map (·.name)) := by
  intro _ member id id' face face' found found' named named'
  obtain ⟨dashboard, isLocal, rfl⟩ := List.mem_map.mp member
  obtain ⟨document, stored, rfl⟩ := Store.exists_of_face? found
  obtain ⟨document', stored', rfl⟩ := Store.exists_of_face? found'
  exact clear.single dashboard isLocal id id' document document' stored stored' named named'

/-- Dashboards of distinct names, each of which identifies at most one, are put in their places. -/
theorem ensures_placements_seated (valid : ∀ dashboard ∈ dashboards, dashboard.check = .ok ())
    (distinct : (dashboards.map (·.name)).Nodup)
    (identifies : store.Identifies (dashboards.map (·.name)))
    (seating : Seating name target document [] [] store) :
    Plan.Ensures Store.server answer (dashboards.mapM placeDashboard) store
      fun placements after => Seating name target document dashboards placements after := by
  have places : Plan.Ensures Store.server answer (dashboards.mapM placeDashboard) store
      fun placements after => Seating name target document dashboards placements after ∧
        after.Identifies (dashboards.map (·.name)) := by
    apply Plan.ensures_mapM_past (fun past placements after =>
      Seating name target document past placements after ∧
        after.Identifies (dashboards.map (·.name))) ?_ (List.nil_append dashboards)
      ⟨seating, identifies⟩
    rintro past dashboard rest found between split ⟨seating, identifies⟩
    have member : dashboard ∈ dashboards := by simp [← split]
    obtain ⟨known, named⟩ :=
      identifies.exists_named_eq seating.sound (List.mem_map_of_mem member)
    apply (ensures_placeDashboard_seated seating.sound seating.aligned (valid dashboard member)
      named).mono
    rintro placement after ⟨sound, seated⟩
    refine ⟨seating.snoc seated sound fun other earlier same => ?_, seated.identifies identifies⟩
    rw [← split, List.map_append, List.map_cons, List.nodup_append] at distinct
    exact distinct.2.2 _ (List.mem_map_of_mem earlier) _ List.mem_cons_self same
  exact places.mono fun _ _ holds => holds.1

/-- Past its guard, the creation of a group whose dashboards are named unambiguously cannot fail,
whether or not the name of the group is taken. -/
theorem ensures_createUnguarded_of_unambiguous (valid : group.check = .ok ()) (sound : store.Sound)
    (aligned : store.Aligned) (clear : group.Unambiguous store) :
    Plan.Ensures Store.server answer (group.createUnguarded {}) store
      fun _ after => ∃ target kept, (after.resource? .group target).isSome ∧
        Hosted group.dashboards target kept after := by
  have object : (Json.record group.fields).isObject = true := (Json.isRecord_record _).isObject
  obtain ⟨created, target, first, between, answered, stored, -, founded⟩ :=
    sound.server_post_group aligned.consistent
      ((({} : Overrides).isObject_applied (.record group.fields)).trans object) group.name
  unfold createUnguarded
  rw [Plan.checked_eq (payload_eq valid), pure_bind, Overrides.apply_eq {} object, pure_bind]
  dsimp only
  rw [nameOf_applied rfl]
  apply Plan.ensures_call answered
  show Plan.Ensures Store.server answer (if group.dashboards.isEmpty then _ else _) between _
  split
  case isTrue empty =>
    have none : group.dashboards = [] := List.isEmpty_iff.mp empty
    apply Plan.ensures_pure
    refine ⟨target, [], by rw [stored]; rfl, ?_⟩
    rw [none]
    exact ⟨.nil, fun _ _ _ _ member => nomatch member⟩
  case isFalse =>
    -- Which group has which name does not matter here, so the one that is followed is nobody's.
    obtain ⟨nobody, untitled⟩ := between.exists_untitled
    have identifies : between.Identifies (group.dashboards.map (·.name)) := by
      apply clear.identifies.update founded.faces rfl
      intro isDefault other face found named
      obtain ⟨document, stored, rfl⟩ := Store.exists_of_face? found
      exact (clear.default isDefault other document stored named).elim
    obtain ⟨document, stored', lists⟩ := founded.group
    obtain rfl := Option.some.inj (stored.symm.trans stored')
    rw [requireId_eq (founded.sound.id_of_resource? stored).1, pure_bind]
    have seating : Seating nobody target created [] [] between :=
      .ofTitles founded.sound (founded.aligned aligned) stored
        fun groupId titled => (untitled groupId titled).elim
    apply Plan.ensures_bind (ensures_placements_seated (check_dashboards valid) clear.distinct
      identifies seating)
    intro placements start seating
    apply Plan.ensures_bind (ensures_clones_moving seating)
    rintro _ moved ⟨kept, moving, fresh⟩
    apply (ensures_dropDefault clear.distinct seating moving fresh lists).mono
    rintro reply after ⟨-, storedReply, -, -, -, hosted⟩
    exact ⟨target, kept, by rw [storedReply]; rfl, hosted⟩

/-- The creation of a valid group starts with a POST. -/
theorem exists_requests_createUnguarded (valid : group.check = .ok ()) (answer : Question → Bool)
    (store : Store) : ∃ path query body rest,
      ((group.createUnguarded {}).run Store.server answer store).requests =
        .post path query body :: rest := by
  have object : (Json.record group.fields).isObject = true := (Json.isRecord_record _).isObject
  unfold createUnguarded
  rw [Plan.checked_eq (payload_eq valid), pure_bind, Overrides.apply_eq {} object, pure_bind]
  dsimp only
  exact ⟨_, _, _, Plan.exists_requests_call _ _⟩

/-- If the creation of a group fails, the store is as it was, unless the group was created already
and its dashboards are not named unambiguously. -/
theorem create_atomic (reachable : store.Reachable) (aligned : store.Aligned)
    (options : CreateOptions) {fault : Fault} :
    let run := (group.create options).run Store.server answer store
    group.Unambiguous store ∨ (∀ request ∈ run.requests, request.method ≠ "POST") →
      run.result = .error fault → run.state = store := by
  unfold create
  cases checks : group.check with
  | error cause => exact fun _ _ => rfl
  | ok _ =>
      have valid : group.check = .ok () := checks
      show let run := ((guardCreate .group group.name options).andThen
          fun _ => group.createUnguarded {}).run Store.server answer store
        _ ∨ (∀ request ∈ run.requests, _) → run.result = .error fault → run.state = store
      have still : ((guardCreate .group group.name options).run Store.server answer store).state =
          store := by
        have reads : ∀ request (state : Store), request.mutates = false → state = store →
            (Store.server request state).2 = store :=
          fun request state reads same => (Store.server_of_reads reads state).trans same
        have sends : Plan.Sends (fun request => request.mutates = false)
            (guardCreate .group group.name options) := Plan.sends_guardCreate rfl
        exact Plan.run_keeps_of_requests reads _ (sends.requests store) rfl
      have whole := Plan.run_andThen Store.server answer (guardCreate .group group.name options)
        (fun _ => group.createUnguarded {}) store
      dsimp only at whole ⊢
      cases guarded : ((guardCreate .group group.name options).run Store.server answer
        store).result with
      | error refusal =>
          simp only [guarded] at whole
          rw [whole]
          exact fun _ _ => still
      | ok _ =>
          simp only [guarded, still] at whole
          rw [whole]
          rintro (clear | noPost) failed
          · have creates : Plan.Ensures Store.server answer (group.createUnguarded {}) store _ :=
              ensures_createUnguarded_of_unambiguous valid reachable.sound aligned clear
            obtain ⟨_, ended, -⟩ := creates
            cases ended.symm.trans failed
          · obtain ⟨path, query, body, rest, requests⟩ :=
              exists_requests_createUnguarded valid answer store
            exact absurd rfl (noPost (.post path query body) (by simp [requests]))

/-- The dashboards of `team` are named unambiguously, but the name of the group is taken. -/
theorem create_atomic_team :
    (team "team").Unambiguous teamStore ∧
      let run := ((team "team").create {}).run Store.server (fun _ => false) teamStore
      run.result = .error (.alreadyExists "team") ∧ run.state = teamStore := by
  have unnamed : ∀ document ∈ teamStore.under Kind.dashboard.endpoint,
      document.name? ≠ some "Default Dashboard" := by decide +kernel
  have clear : (team "team").Unambiguous teamStore := by
    refine ⟨by decide, fun dashboard isLocal id id' document document' stored stored' => ?_,
      fun _ id document stored => unnamed document
        ((Store.mem_under_iff reachable_teamStore.sound.ordered ..).mpr ⟨id, stored⟩)⟩
    exact (findable_teamDashboards dashboard isLocal).only id id' _ _ (Store.face?_eq stored)
      (Store.face?_eq stored')
  have failed : (((team "team").create {}).run Store.server (fun _ => false) teamStore).result =
      .error (.alreadyExists "team") := by decide +kernel
  exact ⟨clear, failed,
    create_atomic reachable_teamStore grouped_teamStore.aligned {} (.inl clear) failed⟩

/-- A store with two dashboards of one name, and one with the name that new groups come with. -/
def twinStore : Store :=
  let create (name : String) (store : Store) : Store :=
    (Store.server (.post "/dashboard/simple" [("name", name)] (.arr [])) store).2
  create "Default Dashboard" (create "twin" (create "twin" {}))

/-- A group of some dashboards. -/
def pair (dashboards : List Dashboard) : DashboardGroup where
  name := "pair"
  dashboards := dashboards

/-- Names that are ambiguous in one of the three ways: the creation fails, and leaves documents
behind. -/
theorem not_atomic_pair :
    twinStore.Reachable ∧ twinStore.Aligned ∧
      let shown : Dashboard :=
        { name := "shown", charts := [{ name := "load", options := .text "x" }] }
      ∀ dashboards ∈ [[{ name := "twin" }], [shown, shown], [{ name := "Default Dashboard" }]],
        let run := ((pair dashboards).create {}).run Store.server (fun _ => false) twinStore
        run.result.isOk = false ∧ run.state.documents ≠ twinStore.documents := by
  have reachable : twinStore.Reachable := .request _ (.request _ (.request _ .empty))
  have sound := reachable.sound
  have grouped : twinStore.Grouped :=
    sound.grouped (sound.consistent (by decide +kernel) (by decide +kernel)) (by decide +kernel)
      (by decide +kernel)
  exact ⟨reachable, grouped.aligned, by decide +kernel⟩

end DashboardGroup

end SignalBoard
