/-
# Operations keep names apart

A create that neither forces nor asks takes no name that is taken, and an update without a name to
override keeps the name that it looked up. An update that overrides the name gives it without
looking, so it keeps names apart only where it is the local name or nobody's. That is all: whatever
else an operation does on the way, and wherever it fails, no dashboard and no detector gets a name
that another one has.
-/

import SignalBoard.CommandLine.Run
import SignalBoard.Proofs.Plan.Left
import SignalBoard.Proofs.Reconcile.Created
import SignalBoard.Proofs.Reconcile.Renewal
import SignalBoard.Proofs.Store.Names

namespace SignalBoard

open Store (NamesApart OnlyAt)

variable {answer : Question → Bool} {store : Store} {kind : Kind} {own : String}
  {overrides : Overrides}

/-- The name that an update gives to a resource of a kind, whose local name is given, is the local
name or that of no other. -/
def Overrides.Free (overrides : Overrides) (kind : Kind) (own : String) (store : Store) : Prop :=
  ∀ name, overrides.name = some name → name = own ∨ store.named kind name = []

/-- What only reads, deletes or works on charts keeps names apart. -/
theorem Plan.Sends.leaves_namesApart {α : Type} {plan : Plan α}
    (sends : Sends Request.Nameless plan)
    (apart : store.NamesApart) : Leaves Store.server answer plan store NamesApart :=
  sends.leaves (fun _ state nameless apart =>
    (Store.spares_server nameless state).keepsNames.namesApart apart) apart

/-- If no resource has the local name, none has the name that is given. -/
theorem Overrides.Free.onlyAt_of_untaken (free : overrides.Free kind own store)
    (sound : store.Sound) (untaken : store.named kind own = []) (id : String) :
    store.OnlyAt kind (overrides.name.getD own) id := by
  cases given : overrides.name with
  | none => exact sound.onlyAt_of_untaken untaken id
  | some name =>
      rcases free name given with rfl | free
      · exact sound.onlyAt_of_untaken untaken id
      · exact sound.onlyAt_of_untaken free id

/-- If the local name identifies a resource, no other has the name that is given. -/
theorem Overrides.Free.onlyAt_of_named (free : overrides.Free kind own store) (sound : store.Sound)
    {remote : Json} {id : String} (alone : store.named kind own = [remote])
    (identified : remote.id? = some id) : store.OnlyAt kind (overrides.name.getD own) id := by
  cases given : overrides.name with
  | none => exact sound.onlyAt_of_named alone identified
  | some name =>
      rcases free name given with rfl | free
      · exact sound.onlyAt_of_named alone identified
      · exact sound.onlyAt_of_untaken free id

/-- The name that a document gets by an update. -/
theorem Overrides.name?_applied_getD {document : Json} (object : document.isObject = true)
    (named : document.name? = some own) :
    (overrides.applied document).name? = some (overrides.name.getD own) := by
  rw [overrides.name?_applied_eq object, named]
  cases overrides.name <;> rfl

/-- A resource that a name identifies has its identifier. -/
theorem Store.Sound.exists_id_of_named (sound : store.Sound) {remote : Json}
    (alone : store.named kind own = [remote]) : ∃ id, remote.id? = some id := by
  obtain ⟨id, stored, -⟩ := sound.exists_of_named alone
  exact ⟨id, (sound.id_of_resource? stored).1⟩

/-- Looking a name up keeps names apart. -/
theorem leaves_findUnique (apart : store.NamesApart) (kind : Kind) (name : String) :
    Plan.Leaves Store.server answer (findUnique kind name) store NamesApart :=
  (Plan.sends_findUnique (.search kind name)).leaves_namesApart apart

/-- Looking whether a name is taken keeps names apart. -/
theorem leaves_guardCreate (apart : store.NamesApart) (kind : Kind) (name : String) :
    Plan.Leaves Store.server answer (guardCreate kind name {}) store NamesApart :=
  (Plan.sends_guardCreate (.search kind name)).leaves_namesApart apart

namespace Detector

variable {detector : Detector}

theorem leaves_create (sound : store.Sound) (apart : store.NamesApart) :
    Plan.Leaves Store.server answer (detector.create {}) store NamesApart := by
  apply Plan.leaves_checked apart
  intro payload passed
  obtain rfl := document_of_payload passed
  apply Plan.leaves_bind (leaves_guardCreate apart _ _) (Store.yields_guardCreate _ _)
  rintro _ store ⟨untaken, rfl⟩
  apply Plan.leaves_last
  have retitled := Store.retitled_post_detector detector.isObject_document detector.name?_document
    [] store
  exact retitled.namesApart (sound.onlyAt_of_untaken untaken _) apart

theorem leaves_update (sound : store.Sound) (apart : store.NamesApart)
    (free : overrides.Free .detector detector.name store) :
    Plan.Leaves Store.server answer (detector.update overrides) store NamesApart := by
  apply Plan.leaves_checked apart
  intro payload passed
  obtain rfl := document_of_payload passed
  apply Plan.leaves_bind (leaves_findUnique apart _ _) (Store.yields_findUnique _ _)
  rintro found store ⟨named, rfl⟩
  cases found with
  | none =>
      have object := detector.isObject_document
      dsimp only
      rw [overrides.apply_eq object, pure_bind]
      apply Plan.leaves_last
      have retitled := Store.retitled_post_detector ((overrides.isObject_applied _).trans object)
        (Overrides.name?_applied_getD object detector.name?_document) [] store
      exact retitled.namesApart (free.onlyAt_of_untaken sound named _) apart
  | some remote =>
      obtain ⟨id, identified⟩ := sound.exists_id_of_named named
      have object := Json.isObject_overlay detector.isObject_document remote
      have laid := Json.name?_overlay detector.isRecord_document detector.name?_document remote
      dsimp only
      rw [requireId_eq identified, pure_bind, overrides.apply_eq object, pure_bind]
      apply Plan.leaves_last
      have retitled := Store.retitled_put ((overrides.isObject_applied _).trans object)
        (Overrides.name?_applied_getD object laid) .detector id store
      exact retitled.namesApart (free.onlyAt_of_named sound named identified) apart

/-- The deletion of a detector sends nothing that could give a name. -/
theorem sends_delete (detector : Detector) : Plan.Sends Request.Nameless detector.delete := by
  apply Plan.sends_bind (Plan.sends_requireUnique (.search ..))
  intro remote
  exact Plan.sends_requireId fun id => Plan.sends_call (.delete _) fun _ => Plan.sends_pure _

end Detector

namespace Dashboard

variable {dashboard : Dashboard}

/-- Reconciling charts is about charts. -/
theorem sends_reconcileCharts (dashboard : Dashboard) (layout : List Json) :
    Plan.Sends Request.Nameless (dashboard.reconcileCharts layout) := by
  have adds : ∀ (charts : List Chart) (row : UInt64),
      Plan.Sends Request.Nameless (addCharts charts row) := by
    intro charts
    induction charts with
    | nil => exact fun row => Plan.sends_pure _
    | cons chart rest ih =>
        intro row
        apply Plan.sends_bind
        · apply Plan.sends_bind (Plan.sends_checked _)
          exact fun payload => Plan.sends_call (.createChart _ _) Plan.sends_pure
        · intro created
          apply Plan.sends_requireId
          exact fun id => Plan.sends_bind (ih _) fun _ => Plan.sends_pure _
  apply Plan.sends_bind
  · exact Plan.sends_mapM fun _ => Plan.sends_call (.get _) fun _ => Plan.sends_pure _
  intro placed
  apply Plan.sends_bind
  · exact Plan.sends_forM fun chart _ => sends_updatePlaced .get .putChart chart
  intro _
  apply Plan.sends_bind (adds _ _)
  intro added
  apply Plan.sends_bind
  · exact Plan.sends_forM fun _ _ => Plan.sends_call (.delete _) fun _ => Plan.sends_pure _
  · exact fun _ => Plan.sends_pure _

/-- A dashboard that is created is the only one that gets a name. -/
theorem Created.retitled {before after : Store} {groupId id : String} {chartIds : List String}
    {reply : Json}
    (created : dashboard.Created overrides groupId id chartIds reply before after) :
    Store.Retitled .dashboard id (overrides.name.getD dashboard.name) before after := by
  apply created.elsewhere.retitled
  case only =>
    intro kind singular id' touched
    rcases List.mem_cons.mp touched with isGroup | touched
    · obtain ⟨rfl, -⟩ := Kind.path_inj isGroup
      exact absurd singular (by decide)
    rcases List.mem_cons.mp touched with isDashboard | isChart
    · exact Kind.path_inj isDashboard
    · obtain ⟨other, -, same⟩ := List.mem_map.mp isChart
      obtain ⟨rfl, -⟩ := Kind.path_inj same
      exact absurd singular (by decide)
  case named =>
    intro other given
    rw [Store.nameOf?_eq created.stored, created.name?_reply] at given
    exact (Option.some.inj given).symm

/-- A dashboard is created under a name that is free. -/
theorem leaves_createUnguarded (valid : dashboard.check = .ok ()) (sound : store.Sound)
    (apart : store.NamesApart)
    (free : ∀ id, store.OnlyAt .dashboard (overrides.name.getD dashboard.name) id) :
    Plan.Leaves Store.server answer (dashboard.createUnguarded overrides) store NamesApart := by
  apply (ensures_createUnguarded_created sound valid overrides).leaves
  rintro reply after ⟨groupId, id, chartIds, created⟩
  exact created.retitled.namesApart (free id) apart

theorem leaves_create (sound : store.Sound) (apart : store.NamesApart) :
    Plan.Leaves Store.server answer (dashboard.create {}) store NamesApart := by
  apply Plan.leaves_checked apart
  intro _ valid
  apply Plan.leaves_bind (leaves_guardCreate apart _ _) (Store.yields_guardCreate _ _)
  rintro _ store ⟨untaken, rfl⟩
  exact leaves_createUnguarded valid sound apart fun id => sound.onlyAt_of_untaken untaken id

theorem leaves_update (sound : store.Sound) (apart : store.NamesApart)
    (free : overrides.Free .dashboard dashboard.name store) :
    Plan.Leaves Store.server answer (dashboard.update overrides) store NamesApart := by
  apply Plan.leaves_checked apart
  intro _ valid
  apply Plan.leaves_bind (leaves_findUnique apart _ _) (Store.yields_findUnique _ _)
  rintro found store ⟨named, rfl⟩
  cases found with
  | none =>
      exact leaves_createUnguarded valid sound apart fun id =>
        free.onlyAt_of_untaken sound named id
  | some remote =>
      obtain ⟨id, stored, isNamed⟩ := sound.exists_of_named named
      have identified := (sound.id_of_resource? stored).1
      have object := sound.isObject (Store.get?_of_resource? stored)
      dsimp only
      rw [requireId_eq identified, pure_bind]
      have sends := dashboard.sends_reconcileCharts (Layout.entries remote)
      have keeps : Plan.Leaves Store.server answer
          (dashboard.reconcileCharts (Layout.entries remote)) store store.KeepsNames :=
        sends.leaves (fun _ state nameless kept =>
          kept.trans (Store.spares_server nameless state).keepsNames) (.refl store)
      apply Plan.leaves_bind (sends.leaves_namesApart apart) keeps.yields
      intro charts between keeps
      have charted : (remote.withField "charts" (.arr charts)).isObject = true := by simpa
      have settings := dashboard.isObject_withSettings charted
      have kept : (dashboard.withSettings (remote.withField "charts" (.arr charts))).name? =
          some dashboard.name := by
        rw [Json.name?, dashboard.get?_withSettings charted (by decide), ← Json.name?,
          Json.name?_withField object (by decide), isNamed]
      rw [Plan.assign_eq object, pure_bind, overrides.apply_eq settings, pure_bind]
      apply Plan.leaves_last
      have retitled := Store.retitled_put ((overrides.isObject_applied _).trans settings)
        (Overrides.name?_applied_getD settings kept) .dashboard id between
      exact retitled.namesApart
        (keeps.onlyAt (by decide) (free.onlyAt_of_named sound named identified))
        (keeps.namesApart apart)

/-- Deleting the charts of a dashboard reads and deletes. -/
theorem sends_deleteChartsOf {allowed : Request → Prop} (reads : ∀ path, allowed (.get path))
    (deletes : ∀ path, allowed (.delete path)) (id : String) :
    Plan.Sends allowed (deleteChartsOf id) := by
  apply Plan.sends_call (reads _)
  intro document
  exact Plan.sends_forM fun _ _ => Plan.sends_call (deletes _) fun _ => Plan.sends_pure _

theorem sends_deleteById {allowed : Request → Prop} (reads : ∀ path, allowed (.get path))
    (deletes : ∀ path, allowed (.delete path)) (id : String) :
    Plan.Sends allowed (deleteById id) :=
  Plan.sends_bind (sends_deleteChartsOf reads deletes id)
    fun _ => Plan.sends_call (deletes _) fun _ => Plan.sends_pure _

/-- The deletion of a dashboard sends nothing that could give a name. -/
theorem sends_delete (dashboard : Dashboard) : Plan.Sends Request.Nameless dashboard.delete := by
  apply Plan.sends_bind (Plan.sends_requireUnique (.search ..))
  exact fun remote => Plan.sends_requireId (sends_deleteById .get .delete)

end Dashboard

/-- The command takes no name that another resource may have: it creates neither by force nor with
consent, and overrides the name, if at all, by one that is free. -/
def CommandLine.Command.Courteous (command : CommandLine.Command) (resource : Resource)
    (store : Store) : Prop :=
  match command with
  | .create options => options = {}
  | .update overrides => overrides.Free resource.kind resource.name store
  | .read => True
  | .delete => True

/-- However a courteous command for a dashboard or a detector ends, names stay apart. -/
theorem CommandLine.Command.leaves_plan {command : CommandLine.Command} {resource : Resource}
    (singular : resource.kind ∈ Kind.singular) (courteous : command.Courteous resource store)
    (sound : store.Sound) (apart : store.NamesApart) :
    Plan.Leaves Store.server answer (command.plan resource) store NamesApart := by
  have deletes : ∀ {plan : Plan Unit}, Plan.Sends Request.Nameless plan →
      Plan.Leaves Store.server answer ((fun _ => Json.null) <$> plan) store NamesApart := by
    intro plan sends
    have whole : Plan.Sends Request.Nameless ((fun _ => Json.null) <$> plan) :=
      Plan.sends_bind sends fun _ => Plan.sends_pure _
    exact whole.leaves_namesApart apart
  cases resource with
  | chart chart => exact absurd singular (by simp [Resource.kind, Kind.singular])
  | group group => exact absurd singular (by simp [Resource.kind, Kind.singular])
  | dashboard dashboard =>
      cases command with
      | create options =>
          obtain rfl : options = {} := courteous
          exact dashboard.leaves_create sound apart
      | update overrides => exact dashboard.leaves_update sound apart courteous
      | read => exact (Plan.sends_requireUnique (.search ..)).leaves_namesApart apart
      | delete => exact deletes dashboard.sends_delete
  | detector detector =>
      cases command with
      | create options =>
          obtain rfl : options = {} := courteous
          exact detector.leaves_create sound apart
      | update overrides => exact detector.leaves_update sound apart courteous
      | read => exact (Plan.sends_requireUnique (.search ..)).leaves_namesApart apart
      | delete => exact deletes detector.sends_delete

namespace Store

/-- The stores that courteous commands for dashboards and detectors leave, one after the other,
whether they succeed or not. -/
inductive Managed : Store → Prop
  | empty : Managed {}
  | command {store : Store} (managed : Managed store) (answer : Question → Bool)
      (command : CommandLine.Command) {resource : Resource}
      (singular : resource.kind ∈ Kind.singular) (courteous : command.Courteous resource store) :
      Managed ((command.plan resource).run server answer store).state

theorem Managed.sound (managed : store.Managed) : store.Sound := by
  induction managed with
  | empty => exact sound_empty
  | command _ _ _ _ _ ih => exact Plan.run_keeps sound_server _ ih

theorem Managed.namesApart (managed : store.Managed) : store.NamesApart := by
  induction managed with
  | empty =>
      intro kind _ id _ name named
      obtain ⟨document, stored, -⟩ := Option.bind_eq_some_iff.mp named
      cases get?_of_resource? stored
  | command managed _ _ singular courteous ih =>
      exact CommandLine.Command.leaves_plan singular courteous managed.sound ih

/-- After any courteous commands, no name is the name of two dashboards or of two detectors. -/
theorem Managed.names_unique (managed : store.Managed) (singular : kind ∈ Kind.singular)
    (name : String) : (store.named kind name).length ≤ 1 :=
  managed.sound.length_named_le_one managed.namesApart singular name

/-- A dashboard with one chart. -/
def loadBoard : Dashboard where
  name := "board"
  charts := [{ name := "load", options := .text "x" }]

/-- A dashboard is created under another name, and then one under its own. -/
theorem Managed.names_unique_loadBoard :
    let rename := (CommandLine.Command.update { name := some "other" }).plan (.dashboard loadBoard)
    let create := (CommandLine.Command.create {}).plan (.dashboard loadBoard)
    let first := (rename.run server (fun _ => false) {}).state
    let store := (create.run server (fun _ => false) first).state
    store.documents ≠ first.documents ∧
      ∀ name, (store.named .dashboard name).length ≤ 1 := by
  intro rename create first store
  have managedFirst : first.Managed :=
    have free : (CommandLine.Command.update { name := some "other" }).Courteous
      (.dashboard loadBoard) {} := fun _ _ => .inr rfl
    .command .empty _ _ (by decide) free
  have managed : store.Managed := .command managedFirst _ (.create {}) (by decide) rfl
  exact ⟨by decide +kernel, Managed.names_unique managed (by decide)⟩

/-- An update that overrides the name does not look whether the new name is taken: run twice, it
leaves two dashboards, or two detectors, of that name. -/
theorem length_named_renamed :
    let rename (resource : Resource) (store : Store) : Store :=
      (((CommandLine.Command.update { name := some "other" }).plan resource).run server
        (fun _ => false) store).state
    let detector : Detector := { name := "high", program := { statements := [.raw "load"] } }
    ∀ resource ∈ [Resource.dashboard loadBoard, .detector detector],
      ((rename resource (rename resource {})).named resource.kind "other").length = 2 := by
  decide +kernel

end Store

end SignalBoard
