/-
# Commands for single resources

Charts and detectors stand alone: creating, replacing or deleting one of them concerns no resource
of another kind, unlike what the service does on the side for dashboards and groups. So the commands
for them are told by the requests that they send, whatever these are answered.
-/

import SignalBoard.CommandLine.Run
import SignalBoard.Proofs.Integrity.Basic
import SignalBoard.Proofs.Plan.Left

namespace SignalBoard

open Store (Intact)

/-- The kinds whose resources stand alone. -/
def Kind.plain : List Kind := [.chart, .detector]

/-- Dashboards and groups do not stand alone. -/
theorem Kind.ne_of_plain {kind : Kind} (plain : kind ∈ Kind.plain) :
    Kind.dashboard ≠ kind ∧ Kind.group ≠ kind := by
  constructor <;> (rintro rfl; exact absurd plain (by decide))

theorem Kind.endpoint_of_plain {kind : Kind} (plain : kind ∈ Kind.plain) :
    kind.endpoint = Kind.chart.endpoint ∨ kind.endpoint = Kind.detector.endpoint := by
  rcases List.mem_pair.mp plain with rfl | rfl
  · exact .inl rfl
  · exact .inr rfl

/-- The request reads, or it creates or replaces a resource of the kind. -/
inductive Request.Writes (kind : Kind) : Request → Prop
  | search (other : Kind) (name : String) : Writes kind (.search other name)
  | get (path : String) : Writes kind (.get path)
  | create (query : List (String × String)) (body : Json) :
      Writes kind (.post kind.endpoint query body)
  | put (id : String) (body : Json) : Writes kind (.put (kind.path id) body)

/-- The request reads, or it creates, replaces or deletes a resource of the kind. -/
inductive Request.About (kind : Kind) : Request → Prop
  | writes {request : Request} (writes : request.Writes kind) : About kind request
  | delete (id : String) : About kind (.delete (kind.path id))

namespace Store

variable {kind other : Kind} {request : Request}

/-- Replacing a document changes what is stored at its path, if anything, and gives it the
identifier of what was there. -/
theorem server_put_cases (path : String) (body : Json) (store : Store) :
    (server (.put path body) store).2 = store ∨ ∃ current document,
      store.documents.get? path = some current ∧
      body.assign "id" (current.field "id") = .ok document ∧
      (server (.put path body) store).2 = store.set path document := by
  rw [server_eq_perform, answer, put, perform_bind, perform_fetch]
  cases store.documents.get? path with
  | none => exact .inl rfl
  | some current =>
      simp only [perform_bind, perform_assign]
      cases assigned : body.assign "id" (current.field "id") with
      | error refusal => exact .inl rfl
      | ok updated => exact .inr ⟨current, updated, rfl, assigned, rfl⟩

/-- Replacing a document concerns no other. -/
theorem get?_server_put {path away : String} (different : away ≠ path) (body : Json)
    (store : Store) :
    (server (.put path body) store).2.documents.get? away = store.documents.get? away := by
  rcases server_put_cases path body store with same | ⟨_, document, -, -, written⟩
  · rw [same]
  · rw [written, get?_set, if_neg different]

/-- What writes a single resource leaves all documents but one as they are, and that one is
there. -/
theorem get?_server_of_writes (writes : request.Writes kind) (plain : kind ∈ Kind.plain)
    (store : Store) :
    (server request store).2.documents = store.documents ∨ ∃ id document, ∀ path,
      (server request store).2.documents.get? path =
        if path = kind.path id then some document else store.documents.get? path := by
  cases writes with
  | search => exact .inl rfl
  | get path => exact .inl (congrArg Store.documents (server_of_reads rfl store))
  | create query body =>
      rw [server_eq_perform, answer, post, if_pos (Kind.endpoint_of_plain plain), perform_add]
      cases body.assign "id" (.str (ident (store.allocated + 1))) with
      | error refusal => exact .inl rfl
      | ok added => exact .inr ⟨_, added, fun _ => get?_set ..⟩
  | put id body =>
      rcases server_put_cases (kind.path id) body store with same | ⟨_, document, -, -, written⟩
      · exact .inl (congrArg Store.documents same)
      · rw [written]
        exact .inr ⟨id, document, fun _ => get?_set ..⟩

/-- What writes a single resource leaves everything in place. -/
theorem isSome_server_of_writes (writes : request.Writes kind) (plain : kind ∈ Kind.plain)
    {store : Store} {path : String} (isSome : (store.documents.get? path).isSome) :
    ((server request store).2.documents.get? path).isSome := by
  rcases get?_server_of_writes writes plain store with same | ⟨id, document, written⟩
  · rwa [same]
  · rw [written]
    split
    · rfl
    · exact isSome

/-- What is done to single resources concerns no resource of another kind. -/
theorem resource?_server_of_about (about : request.About kind) (plain : kind ∈ Kind.plain)
    (foreign : other ≠ kind) (id : String) (store : Store) :
    (server request store).2.resource? other id = store.resource? other id := by
  apply resource?_congr
  cases about with
  | writes writes =>
      rcases get?_server_of_writes writes plain store with same | ⟨own, document, written⟩
      · rw [same]
      · rw [written, if_neg (Kind.path_ne foreign id own)]
  | delete own =>
      obtain ⟨notDashboard, notGroup⟩ := Kind.ne_of_plain plain
      cases stored : store.documents.get? (kind.path own) with
      | none =>
          rw [server_eq_perform]
          simp only [answer, delete, perform_bind, perform_fetch, stored]
      | some removed =>
          rw [server_delete_single notDashboard notGroup stored]
          exact (get?_remove ..).trans (if_neg (Kind.path_ne foreign id own))

theorem isSome_resource?_of_writes (writes : request.Writes kind) (plain : kind ∈ Kind.plain)
    {store : Store} {id : String} (isSome : (store.resource? other id).isSome) :
    ((server request store).2.resource? other id).isSome := by
  obtain ⟨document, stored⟩ := Option.isSome_iff_exists.mp isSome
  rw [resource?_of_clean (clean_of_resource? stored)]
  apply isSome_server_of_writes writes plain
  rw [get?_of_resource? stored]
  rfl

/-- A request about single resources keeps a store intact, unless a chart goes. -/
theorem Intact.server_of_about {loose : String → Prop} {store : Store} (intact : Intact loose store)
    (about : request.About kind) (plain : kind ∈ Kind.plain)
    (kept : ∀ id, (store.resource? .chart id).isSome →
      ((server request store).2.resource? .chart id).isSome) :
    ∃ loose', Intact loose' (server request store).2 := by
  obtain ⟨notDashboard, notGroup⟩ := Kind.ne_of_plain plain
  exact intact.quiet (sound_server request store intact.sound)
    (fun id => resource?_server_of_about about plain notDashboard id store)
    (fun id => resource?_server_of_about about plain notGroup id store) kept

end Store

variable {answer : Question → Bool} {store : Store}

namespace Plan

variable {α : Type} {allowed : Request → Prop} {plan : Plan α}

/-- Assigning to a key of a document sends nothing. -/
theorem sends_assign (key : String) (value document : Json) :
    Sends allowed (assign key value document) := by
  unfold assign
  split
  · exact sends_pure _
  · exact fun _ => trivial

/-- Writing overrides into a document sends nothing. -/
theorem sends_apply (overrides : Overrides) (document : Json) :
    Sends allowed (overrides.apply document) := by
  have assigns : ∀ (key : String) (text : Option String) (document : Json),
      Sends allowed (assignText? key text document) := by
    intro key text document
    cases text with
    | none => exact sends_pure document
    | some text => exact sends_assign key (.str text) document
  exact sends_bind (assigns _ _ _) fun _ => assigns _ _ _

variable {kind : Kind}

/-- A resource of the kind is created, with the overrides. -/
theorem sends_apply_post (overrides : Overrides) (payload : Json) :
    Sends (Request.Writes kind) (do
      let payload ← overrides.apply payload
      post kind.endpoint [] payload) := by
  apply sends_bind (sends_apply overrides payload)
  exact fun _ => sends_call (.create ..) sends_pure

/-- A resource of the kind that has an identifier is replaced, with the overrides. -/
theorem sends_apply_put (overrides : Overrides) (remote payload : Json) :
    Sends (Request.Writes kind) (do
      let id ← requireId remote
      let document ← overrides.apply (remote.overlay payload)
      put (kind.path id) document) := by
  apply sends_requireId
  intro id
  apply sends_bind (sends_apply overrides _)
  exact fun _ => sends_call (.put ..) sends_pure

end Plan

namespace Chart

variable {chart : Chart}

theorem sends_create (options : CreateOptions) :
    Plan.Sends (Request.Writes .chart) (chart.create options) := by
  apply Plan.sends_bind (Plan.sends_checked _)
  intro payload
  apply Plan.sends_bind (Plan.sends_guardCreate (.search ..))
  exact fun _ => Plan.sends_call (.create ..) Plan.sends_pure

theorem sends_update (overrides : Overrides) :
    Plan.Sends (Request.Writes .chart) (chart.update overrides) := by
  have finds : Plan.Sends (Request.Writes .chart) chart.find := by
    unfold find
    split
    · exact Plan.sends_call (.get _) fun _ => Plan.sends_pure _
    · exact Plan.sends_findUnique (.search ..)
  apply Plan.sends_bind (Plan.sends_checked _)
  intro payload
  apply Plan.sends_bind finds
  intro found
  cases found with
  | none => exact Plan.sends_apply_post overrides payload
  | some remote => exact Plan.sends_apply_put overrides remote payload

theorem sends_read : Plan.Sends (Request.Writes .chart) chart.read := by
  unfold read
  split
  · exact Plan.sends_call (.get _) Plan.sends_pure
  · exact Plan.sends_requireUnique (.search ..)

theorem sends_delete : Plan.Sends (Request.About .chart) chart.delete := by
  unfold delete
  split
  · exact Plan.sends_call (.delete _) fun _ => Plan.sends_pure _
  · apply Plan.sends_bind (Plan.sends_requireUnique (.writes (.search ..)))
    intro remote
    exact Plan.sends_requireId fun id => Plan.sends_call (.delete _) fun _ => Plan.sends_pure _

end Chart

namespace Detector

variable {detector : Detector}

theorem sends_create (options : CreateOptions) :
    Plan.Sends (Request.Writes .detector) (detector.create options) := by
  apply Plan.sends_bind (Plan.sends_checked _)
  intro payload
  apply Plan.sends_bind (Plan.sends_guardCreate (.search ..))
  exact fun _ => Plan.sends_call (.create ..) Plan.sends_pure

theorem sends_update (overrides : Overrides) :
    Plan.Sends (Request.Writes .detector) (detector.update overrides) := by
  apply Plan.sends_bind (Plan.sends_checked _)
  intro payload
  apply Plan.sends_bind (Plan.sends_findUnique (.search ..))
  intro found
  cases found with
  | none => exact Plan.sends_apply_post overrides payload
  | some remote => exact Plan.sends_apply_put overrides remote payload

theorem sends_delete_about : Plan.Sends (Request.About .detector) detector.delete := by
  apply Plan.sends_bind (Plan.sends_requireUnique (.writes (.search ..)))
  intro remote
  exact Plan.sends_requireId fun id => Plan.sends_call (.delete _) fun _ => Plan.sends_pure _

end Detector

namespace CommandLine.Command

variable {command : Command} {resource : Resource}

/-- A command for a single resource that does not delete it reads and writes resources of its
kind. -/
theorem sends_writes (plain : resource.kind ∈ Kind.plain) (keeps : command ≠ .delete) :
    Plan.Sends (Request.Writes resource.kind) (command.plan resource) := by
  cases resource with
  | dashboard dashboard => exact absurd plain (by simp [Resource.kind, Kind.plain])
  | group group => exact absurd plain (by simp [Resource.kind, Kind.plain])
  | chart chart =>
      cases command with
      | create options => exact Chart.sends_create options
      | update overrides => exact Chart.sends_update overrides
      | read => exact Chart.sends_read
      | delete => exact absurd rfl keeps
  | detector detector =>
      cases command with
      | create options => exact Detector.sends_create options
      | update overrides => exact Detector.sends_update overrides
      | read => exact Plan.sends_requireUnique (.search ..)
      | delete => exact absurd rfl keeps

/-- A command for a single resource is about resources of its kind. -/
theorem sends_about (plain : resource.kind ∈ Kind.plain) :
    Plan.Sends (Request.About resource.kind) (command.plan resource) := by
  by_cases keeps : command = .delete
  case neg => exact (sends_writes plain keeps).mono fun _ => .writes
  subst keeps
  cases resource with
  | dashboard dashboard => exact absurd plain (by simp [Resource.kind, Kind.plain])
  | group group => exact absurd plain (by simp [Resource.kind, Kind.plain])
  | chart chart => exact Plan.sends_bind Chart.sends_delete fun _ => Plan.sends_pure _
  | detector detector =>
      exact Plan.sends_bind Detector.sends_delete_about fun _ => Plan.sends_pure _

/-- A command for a single resource keeps a store intact, unless it deletes a chart. -/
theorem leaves_intact_of_plain (plain : resource.kind ∈ Kind.plain)
    (spares : command = .delete → resource.kind ≠ .chart) (intact : ∃ loose, Intact loose store) :
    Plan.Leaves Store.server answer (command.plan resource) store
      fun after => ∃ loose, Intact loose after := by
  by_cases deletes : command = .delete
  case pos =>
    have foreign : Kind.chart ≠ resource.kind := fun same => spares deletes same.symm
    refine (sends_about plain).leaves (fun request (between : Store) about whole => ?_) intact
    obtain ⟨loose, intact⟩ := whole
    apply intact.server_of_about about plain
    intro id isSome
    rwa [Store.resource?_server_of_about about plain foreign]
  case neg =>
    refine (sends_writes plain deletes).leaves
      (fun request (between : Store) writes whole => ?_) intact
    obtain ⟨loose, intact⟩ := whole
    exact intact.server_of_about (.writes writes) plain fun id =>
      Store.isSome_resource?_of_writes writes plain

end CommandLine.Command

end SignalBoard
