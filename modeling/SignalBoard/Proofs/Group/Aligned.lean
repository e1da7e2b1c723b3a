/-
# Aligned stores

Here a group may list its dashboards in any order and more than once, and a dashboard may show two
charts of one name. A store is aligned when every group lists exactly the dashboards that name it,
and a dashboard fits a local one when it shows exactly the local names. A dashboard that is put in
its place fits, is the only one of its name, and leaves the store aligned; its group is the one it
was in, or a new one that lists nothing else.
-/

import SignalBoard.Proofs.Group.Place
import SignalBoard.Proofs.Plan.Partial
import SignalBoard.Proofs.Reconcile.Again

namespace SignalBoard

open Function (update)

/-- The face of a dashboard in a group that shows exactly the names of the local charts, in any
order and any number. -/
structure Face.Fits (face : Face) (dashboard : Dashboard) (groupId : String) : Prop where
  isNamed : face.name = some dashboard.name
  belongs : face.groupId = some groupId
  charts : ∀ name, name ∈ face.charts ↔ name ∈ dashboard.charts.map fun chart => some chart.name

/-- A fitting dashboard shows stored charts with names only. -/
theorem Face.Fits.none_not_mem {face : Face} {dashboard : Dashboard} {groupId : String}
    (fits : face.Fits dashboard groupId) : none ∉ face.charts := by
  intro member
  obtain ⟨chart, -, same⟩ := List.mem_map.mp ((fits.charts none).mp member)
  cases same

theorem Dashboard.fits_createdFace (dashboard : Dashboard) (groupId : String) :
    (dashboard.createdFace groupId).Fits dashboard groupId :=
  ⟨rfl, rfl, fun _ => .rfl⟩

namespace Store

/-- A consistent store in which every dashboard names a stored group and every group lists exactly
the dashboards that name it. -/
structure Aligned (store : Store) : Prop where
  consistent : store.Consistent
  belongs : ∀ id face, store.face? id = some face →
    ∃ groupId, face.groupId = some groupId ∧ (store.listed? groupId).isSome
  mem_iff : ∀ groupId ids, store.listed? groupId = some ids → ∀ id,
    id ∈ ids ↔ ∃ face, store.face? id = some face ∧ face.groupId = some groupId

theorem Grouped.aligned {store : Store} (grouped : store.Grouped) : store.Aligned :=
  ⟨grouped.consistent, grouped.filed.belongs, grouped.filed.mem_iff⟩

variable {before after : Store} {id groupId : String} {face : Face}

namespace Aligned

/-- Every dashboard is listed by the group that it names. -/
theorem exists_listed (aligned : before.Aligned) (found : before.face? id = some face)
    (names : face.groupId = some groupId) :
    ∃ ids, before.listed? groupId = some ids ∧ id ∈ ids := by
  obtain ⟨own, names', listed⟩ := aligned.belongs id face found
  obtain rfl := Option.some.inj (names.symm.trans names')
  obtain ⟨ids, listed⟩ := Option.isSome_iff_exists.mp listed
  exact ⟨ids, listed, (aligned.mem_iff groupId ids listed id).mpr ⟨face, found, names⟩⟩

/-- A dashboard that stays in its group. -/
theorem revise (aligned : before.Aligned) (consistent : after.Consistent) {old : Face}
    (there : before.face? id = some old) (same : face.groupId = old.groupId)
    (faces : after.face? = update before.face? id (some face))
    (groups : ∀ other, after.resource? .group other = before.resource? .group other) :
    after.Aligned := by
  have listed : after.listed? = before.listed? := by
    funext other
    rw [listed?, listed?, groups]
  constructor
  case consistent => exact consistent
  case belongs =>
    intro other face' found
    rw [listed]
    rw [faces] at found
    obtain ⟨-, rfl⟩ | ⟨-, found⟩ := eq_or_of_update found
    · rw [same]
      exact aligned.belongs id old there
    · exact aligned.belongs other face' found
  case mem_iff =>
    intro own ids isListed other
    rw [listed] at isListed
    rw [aligned.mem_iff own ids isListed, faces]
    by_cases here : other = id
    · simp [here, there, same]
    · rw [Function.update_of_ne here]

end Aligned

/-- A new group with a new dashboard in it keeps a store aligned. -/
theorem Founded.aligned (founded : Founded groupId id face before after)
    (aligned : before.Aligned) : after.Aligned := by
  have elsewhere : ∀ other found own, before.face? other = some found →
      found.groupId = some own → own ≠ groupId := by
    rintro other found own there names rfl
    obtain ⟨ids, listed, -⟩ := aligned.exists_listed there names
    rw [listed?, founded.freshGroup] at listed
    cases listed
  have faces : ∀ {other found}, after.face? other = some found →
      other = id ∧ found = face ∨ other ≠ id ∧ before.face? other = some found :=
    fun there => eq_or_of_update (founded.faces ▸ there)
  have own : after.face? id = some face := by rw [founded.faces, Function.update_self]
  constructor
  case consistent => exact founded.consistent
  case belongs =>
    intro other found there
    rw [founded.listed]
    rcases faces there with ⟨rfl, rfl⟩ | ⟨-, there⟩
    · exact ⟨groupId, founded.belongs, by rw [Function.update_self]; rfl⟩
    · obtain ⟨own, names, listed⟩ := aligned.belongs other found there
      refine ⟨own, names, ?_⟩
      rwa [Function.update_of_ne (elsewhere other found own there names)]
  case mem_iff =>
    intro group ids listed other
    rw [founded.listed] at listed
    obtain ⟨rfl, rfl⟩ | ⟨here, listed⟩ := eq_or_of_update listed
    · rw [List.mem_singleton]
      constructor
      · rintro rfl
        exact ⟨face, own, founded.belongs⟩
      · rintro ⟨found, there, names⟩
        rcases faces there with ⟨same, -⟩ | ⟨-, there⟩
        · exact same
        · exact (elsewhere other found group there names rfl).elim
    · rw [aligned.mem_iff group ids listed]
      constructor
      · rintro ⟨found, there, names⟩
        refine ⟨found, ?_, names⟩
        rw [founded.faces, Function.update_of_ne, there]
        rintro rfl
        rw [founded.fresh] at there
        cases there
      · rintro ⟨found, there, names⟩
        rcases faces there with ⟨-, rfl⟩ | ⟨-, there⟩
        · exact (here (Option.some.inj (names.symm.trans founded.belongs))).elim
        · exact ⟨found, there, names⟩

/-- How a store has changed once a local dashboard is in its place, whatever its charts are called:
it was stored and stays in its group, or it was not and is the only one of a new group. -/
inductive Seated (dashboard : Dashboard) (placement : Placement) (before after : Store) : Prop
  | stays {old face : Face} (there : before.face? placement.dashboardId = some old)
      (belonged : old.groupId = some placement.groupId)
      (only : ∀ id face, before.face? id = some face → face.name = some dashboard.name →
        id = placement.dashboardId)
      (isNamed : old.name = some dashboard.name)
      (fits : face.Fits dashboard placement.groupId)
      (faces : after.face? = update before.face? placement.dashboardId (some face))
      (groups : ∀ groupId, after.resource? .group groupId = before.resource? .group groupId)
      (consistent : after.Consistent)
  | founded {face : Face}
      (new : ∀ id face, before.face? id = some face → face.name ≠ some dashboard.name)
      (fits : face.Fits dashboard placement.groupId)
      (founded : Founded placement.groupId placement.dashboardId face before after)

namespace Seated

variable {dashboard : Dashboard} {placement : Placement}

theorem aligned (seated : Seated dashboard placement before after) (aligned : before.Aligned) :
    after.Aligned := by
  cases seated with
  | stays there belonged only isNamed fits faces groups consistent =>
      exact aligned.revise consistent there (fits.belongs.trans belonged.symm) faces groups
  | founded new fits founded => exact founded.aligned aligned

/-- What was put in its place fits, and other dashboards have the faces they had. -/
theorem exists_face (seated : Seated dashboard placement before after) :
    ∃ face, face.Fits dashboard placement.groupId ∧
      after.face? = update before.face? placement.dashboardId (some face) := by
  cases seated with
  | stays _ _ _ _ fits faces => exact ⟨_, fits, faces⟩
  | founded _ fits founded => exact ⟨_, fits, founded.faces⟩

/-- What had the name is what was put in its place. -/
theorem eq_of_name (seated : Seated dashboard placement before after)
    (found : before.face? id = some face) (named : face.name = some dashboard.name) :
    id = placement.dashboardId := by
  cases seated with
  | stays _ _ only => exact only id face found named
  | founded new => exact (new id face found named).elim

/-- What was in the place before had the name. -/
theorem name_eq (seated : Seated dashboard placement before after)
    (found : before.face? placement.dashboardId = some face) :
    face.name = some dashboard.name := by
  cases seated with
  | stays there _ _ isNamed => exact Option.some.inj (there.symm.trans found) ▸ isNamed
  | founded _ _ founded => exact nomatch founded.fresh.symm.trans found

/-- A group that was stored is as it was. -/
theorem group_eq (seated : Seated dashboard placement before after)
    (stored : (before.resource? .group groupId).isSome) :
    after.resource? .group groupId = before.resource? .group groupId := by
  cases seated with
  | stays _ _ _ _ _ _ groups => exact groups groupId
  | founded _ _ founded =>
      apply founded.groups
      rintro rfl
      rw [founded.freshGroup] at stored
      cases stored

end Seated

end Store

namespace Dashboard

open Store (Aligned Seated)

variable {answer : Question → Bool} {dashboard : Dashboard} {store between : Store} {id : String}
  {remote : Json}

/-- An update without another name keeps the name. -/
theorem name?_updated (object : remote.isObject = true) :
    (dashboard.updated {} store id remote).name? = remote.name? := by
  let document := remote.withField "charts" (.arr (dashboard.relaid store (Layout.entries remote)))
  have laid : document.isObject = true := by simpa [document]
  calc (dashboard.updated {} store id remote).name?
      = document.name? := name?_finish laid
    _ = remote.name? := Json.name?_withField object (by decide) _

/-- An update keeps the group that a dashboard names. -/
theorem groupId?_updated {overrides : Overrides} (object : remote.isObject = true) :
    (dashboard.updated overrides store id remote).groupId? = remote.groupId? := by
  rw [Json.groupId?, Json.string?_field, get?_updated overrides id object (by decide),
    if_neg (by decide), ← Json.string?_field, Json.groupId?]

namespace Reconciled

/-- The paths that an update of a stored dashboard touches. -/
theorem agreesOff_set (reconciled : dashboard.Reconciled (Layout.entries remote) store between)
    (document : Json) :
    store.AgreesOff (Kind.dashboard.path id :: Kind.chart.paths (Layout.chartIds remote ++
      store.freshIds (dashboard.absent store (Layout.entries remote)).length))
      (between.set (Kind.dashboard.path id) document) := by
  intro path untouched
  rw [List.mem_cons, not_or] at untouched
  rw [Store.get?_set, if_neg untouched.1, reconciled.elsewhere]
  rw [Layout.filterMap_entries]
  exact untouched.2

/-- The names on the new layout are the local ones. -/
theorem mem_names_relaid (reconciled : dashboard.Reconciled (Layout.entries remote) store between)
    (valid : dashboard.check = .ok ()) (sound : store.Sound) (consistent : store.Consistent)
    (stored : store.resource? .dashboard id = some remote) (document : Json)
    (name : Option String) :
    name ∈ (dashboard.relaid store (Layout.entries remote)).map
        (between.set (Kind.dashboard.path id) document).nameAt? ↔
      name ∈ dashboard.charts.map fun chart => some chart.name := by
  have kept := kept_eq_matched valid consistent stored
  have absent := absent_eq_unmatched valid consistent stored
  have created := Layout.forall₂_stacked (reconciled.created_fresh sound id document)
    (Layout.bottom (dashboard.matched store remote))
  rw [absent] at created
  rw [relaid, kept, absent, map_nameAt?_after (fun entry member =>
    reconciled.revised_matched valid sound consistent stored document member) created]
  exact mem_names_iff

/-- A stored dashboard that was updated stays in its place. -/
theorem seated (reconciled : dashboard.Reconciled (Layout.entries remote) store between)
    (valid : dashboard.check = .ok ()) (sound : store.Sound) (aligned : store.Aligned)
    (stored : store.resource? .dashboard id = some remote)
    (isNamed : remote.name? = some dashboard.name)
    (only : ∀ id' other, store.resource? .dashboard id' = some other →
      other.name? = some dashboard.name → id' = id) {reply : Json} {after : Store}
    (isReply : dashboard.updated {} store id remote = reply)
    (isLast : between.set (Kind.dashboard.path id) reply = after) (soundAfter : after.Sound) :
    ∃ groupId, reply.id? = some id ∧ reply.groupId? = some groupId ∧
      Seated dashboard ⟨id, groupId⟩ store after := by
  have consistent := aligned.consistent
  have object := sound.isObject (Store.get?_of_resource? stored)
  have there := Store.face?_eq stored
  obtain ⟨groupId, names, -⟩ := aligned.belongs id _ there
  have written : after.resource? .dashboard id = some reply := by
    rw [← isLast, Store.resource?_of_clean (Store.clean_of_resource? stored), Store.get?_set,
      if_pos rfl]
  have group : reply.groupId? = some groupId := by
    rw [← isReply, groupId?_updated object]
    exact names
  have name : reply.name? = some dashboard.name := by
    rw [← isReply, name?_updated object, isNamed]
  have agrees : store.AgreesOff _ (between.set (Kind.dashboard.path id) reply) :=
    reconciled.agreesOff_set reply
  rw [isLast] at agrees
  refine ⟨groupId, (soundAfter.id_of_resource? written).1, group, ?_⟩
  have fits : (after.faceOf reply).Fits dashboard groupId := by
    refine ⟨name, group, fun shown => ?_⟩
    rw [Store.faceOf, ← isReply, charts_updated {} id object, isReply, ← isLast]
    exact reconciled.mem_names_relaid valid sound consistent stored reply shown
  let placement : Placement := ⟨id, groupId⟩
  have here : store.face? placement.dashboardId = some (store.faceOf remote) := there
  apply Seated.stays here names ?_ isNamed fits
  case faces =>
    apply agrees.face?_of_charts consistent ?_ (Store.face?_eq written)
    intro chartId touched
    rw [Store.layoutOf_eq stored]
    exact (List.mem_append.mp touched).imp_right fun new =>
      sound.resource?_of_mem_freshIds new _
  case groups =>
    intro other
    apply agrees.resource?_eq
    rw [List.mem_cons, not_or]
    exact ⟨Kind.path_ne (by decide) _ _, Kind.path_not_mem_paths (by decide) _ _⟩
  case consistent =>
    subst isReply isLast
    exact reconciled.consistent_set sound consistent stored {} soundAfter
  intro id' face found named
  obtain ⟨other, stored', rfl⟩ := Store.exists_of_face? found
  exact only id' other stored' named

end Reconciled

/-- An update that succeeds was of a valid dashboard, whose name identified at most one. -/
theorem yields_update_found (overrides : Overrides) :
    Plan.Yields Store.server answer (dashboard.update overrides) store
      fun _ _ => dashboard.check = .ok () ∧
        ∃ found : Option Json, store.named .dashboard dashboard.name = found.toList := by
  unfold update
  apply Plan.yields_checked_bind
  rintro ⟨⟩ valid
  apply Plan.yields_bind (Store.yields_findUnique .dashboard dashboard.name)
  rintro found store ⟨named, rfl⟩
  exact ⟨fun _ _ => ⟨valid, found, named⟩⟩

/-- A dashboard whose name identifies at most one is updated or created, and is in its place. -/
theorem ensures_update_seated (sound : store.Sound) (aligned : store.Aligned)
    (valid : dashboard.check = .ok ()) {found : Option Json}
    (named : store.named .dashboard dashboard.name = found.toList) :
    Plan.Ensures Store.server answer (dashboard.update {}) store
      fun reply after => ∃ id groupId, reply.id? = some id ∧ reply.groupId? = some groupId ∧
        after.Sound ∧ Seated dashboard ⟨id, groupId⟩ store after := by
  have consistent := aligned.consistent
  cases found with
  | none =>
      have new : ∀ id face, store.face? id = some face → face.name ≠ some dashboard.name := by
        intro id face there isNamed
        obtain ⟨document, stored, rfl⟩ := Store.exists_of_face? there
        exact (Store.named_eq_nil_iff sound.ordered ..).mp named id document stored isNamed
      unfold update
      rw [Plan.checked_eq valid, pure_bind]
      apply Plan.ensures_bind (Store.ensures_findUnique named)
      rintro _ store ⟨rfl, rfl⟩
      apply (ensures_createUnguarded_founded sound consistent valid).mono
      rintro reply after ⟨groupId, id, stored, founded⟩
      have own : some (after.faceOf reply) = some (dashboard.createdFace groupId) := by
        rw [← Store.face?_eq stored, founded.faces, Function.update_self]
      refine ⟨id, groupId, (founded.sound.id_of_resource? stored).1, ?_, founded.sound,
        .founded new (dashboard.fits_createdFace groupId) founded⟩
      exact congrArg Face.groupId (Option.some.inj own)
  | some remote =>
      obtain ⟨id, stored, isNamed⟩ := sound.exists_of_named named
      apply ((ensures_update_stored valid sound {} named stored
        (consistent.placeable sound stored)).keeping Store.sound_server sound).mono
      rintro _ after ⟨⟨rfl, between, reconciled, rfl⟩, soundAfter⟩
      obtain ⟨groupId, identified, group, seated⟩ := reconciled.seated valid sound aligned stored
        isNamed (fun id' other => sound.eq_of_named named stored) rfl rfl soundAfter
      exact ⟨id, groupId, identified, group, soundAfter, seated⟩

end Dashboard

namespace DashboardGroup

variable {answer : Question → Bool} {dashboard : Dashboard} {store : Store}

/-- A dashboard whose name identifies at most one is put in its place. -/
theorem ensures_placeDashboard_seated (sound : store.Sound) (aligned : store.Aligned)
    (valid : dashboard.check = .ok ()) {found : Option Json}
    (named : store.named .dashboard dashboard.name = found.toList) :
    Plan.Ensures Store.server answer (placeDashboard dashboard) store
      fun placement after => after.Sound ∧ Store.Seated dashboard placement store after := by
  unfold placeDashboard
  apply Plan.ensures_bind (Dashboard.ensures_update_seated sound aligned valid named)
  rintro reply after ⟨id, groupId, identified, group, soundAfter, seated⟩
  have names : (reply.field "groupId").string? = some groupId := group
  rw [requireId_eq identified, pure_bind, names]
  exact Plan.ensures_pure ⟨soundAfter, seated⟩

/-- A dashboard that could be placed is valid, and its name identified at most one. -/
theorem yields_placeDashboard_found :
    Plan.Yields Store.server answer (placeDashboard dashboard) store
      fun _ _ => dashboard.check = .ok () ∧
        ∃ found : Option Json, store.named .dashboard dashboard.name = found.toList := by
  unfold placeDashboard
  apply Plan.yields_bind (Dashboard.yields_update_found {})
  intro _ _ found
  exact ⟨fun _ _ => found⟩

/-- A dashboard that could be placed is in its place. -/
theorem yields_placeDashboard (sound : store.Sound) (aligned : store.Aligned) :
    Plan.Yields Store.server answer (placeDashboard dashboard) store
      fun placement after => after.Sound ∧ Store.Seated dashboard placement store after := by
  apply yields_placeDashboard_found.assuming
  rintro ⟨valid, found, named⟩
  exact (ensures_placeDashboard_seated sound aligned valid named).yields

end DashboardGroup

end SignalBoard
