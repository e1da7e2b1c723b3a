/-
# How names are resolved

A search may give anything: resources whose names only resemble the one that is looked for,
documents without a name, values that are no documents. A command that is about a resource that is
there heeds those results alone that have exactly its name, and goes on with one of them only if
there is no other. What it then replaces or deletes of the kind of the resource is that one.
-/

import SignalBoard.CommandLine.Run
import SignalBoard.Proofs.Group.Conduct
import SignalBoard.Proofs.Integrity.Orderly
import SignalBoard.Proofs.Reconcile.Guard

namespace SignalBoard

open CommandLine (Command)

variable {σ α β : Type} {server : Server σ} {answer : Question → Bool} {state after : σ}

/-! ## Runs that end with one request -/

namespace Plan

/-- A run of the plan that succeeds ends with a request of some sort. -/
def Finishes (server : Server σ) (answer : Question → Bool) (last : Request → Prop)
    (plan : Plan α) : Prop :=
  ∀ state, (plan.run server answer state).result.isOk →
    ∃ before request, last request ∧
      (plan.run server answer state).requests = before ++ [request]

variable {last : Request → Prop}

/-- A request whose reply is all that is waited for. -/
theorem finishes_call {request : Request} (sort : last request) (value : Json → α) :
    Finishes server answer last (call request fun reply => done (value reply)) := by
  intro state ended
  rcases answered : server request state with ⟨fault | reply, after⟩
  · rw [run_call_error answered] at ended
    cases ended
  · exact ⟨[], request, sort, by rw [run_call_ok answered]; rfl⟩

/-- What comes before does not matter. -/
theorem finishes_bind (plan : Plan α) {rest : α → Plan β}
    (finishes : ∀ value, Finishes server answer last (rest value)) :
    Finishes server answer last (plan >>= rest) := by
  intro state ended
  have whole : (plan >>= rest).run server answer state = _ :=
    run_andThen server answer plan rest state
  rw [whole] at ended ⊢
  cases first : (plan.run server answer state).result with
  | error fault =>
      simp only [first] at ended
      cases ended
  | ok value =>
      simp only [first] at ended ⊢
      obtain ⟨before, request, sort, requests⟩ := finishes value _ ended
      exact ⟨_ ++ before, request, sort, by rw [requests, List.append_assoc]⟩

/-- Nor does it matter what is made of the value. -/
theorem Finishes.map {plan : Plan α} (finishes : Finishes server answer last plan) (value : α → β) :
    Finishes server answer last (plan >>= fun found => pure (value found)) := by
  intro state ended
  have whole : (plan >>= fun found => pure (value found)).run server answer state = _ :=
    run_andThen server answer plan _ state
  rw [whole] at ended ⊢
  cases first : (plan.run server answer state).result with
  | error fault =>
      simp only [first] at ended
      cases ended
  | ok found =>
      obtain ⟨before, request, sort, requests⟩ := finishes state (by rw [first]; rfl)
      refine ⟨before, request, sort, ?_⟩
      simp only [first, requests]
      exact List.append_nil _

end Plan

/-! ## Resources and their parts -/

namespace Kind

/-- The kinds of the parts that resources of a kind may have. -/
def parts : Kind → List Kind
  | chart => []
  | dashboard => [chart]
  | group => [chart, dashboard]
  | detector => []

theorem not_mem_parts (kind : Kind) : kind ∉ kind.parts := by
  cases kind <;> decide

/-- The path is that of a resource, or of a resource that may be a part of it. -/
def Covers (kind : Kind) (id path : String) : Prop :=
  path = kind.path id ∨ ∃ part ∈ kind.parts, ∃ partId, path = part.path partId

/-- Of its own kind, a resource covers itself alone. -/
theorem Covers.id_eq {kind : Kind} {id other : String} (covers : kind.Covers id (kind.path other)) :
    other = id := by
  rcases covers with own | ⟨part, among, partId, same⟩
  · exact (path_inj own).2
  · exact absurd ((path_inj same).1 ▸ among) kind.not_mem_parts

end Kind

namespace Request

/-- The request replaces nothing but a resource and its parts. -/
def PutsWithin (kind : Kind) (id : String) (request : Request) : Prop :=
  ∀ path body, request = .put path body → kind.Covers id path

/-- The request deletes nothing but a resource and its parts. -/
def DeletesWithin (kind : Kind) (id : String) (request : Request) : Prop :=
  ∀ path, request = .delete path → kind.Covers id path

variable {kind : Kind} {request : Request}

theorem Nameless.putsWithin (nameless : request.Nameless) (charts : Kind.chart ∈ kind.parts)
    (id : String) : request.PutsWithin kind id := by
  rintro path body rfl
  cases nameless with
  | putChart chartId => exact .inr ⟨.chart, charts, chartId, rfl⟩

theorem OfUpdate.putsWithin (ofUpdate : request.OfUpdate) (id : String) :
    request.PutsWithin .group id := by
  rintro path body rfl
  cases ofUpdate with
  | writeChart chartId => exact .inr ⟨.chart, by decide, chartId, rfl⟩
  | write dashboardId => exact .inr ⟨.dashboard, by decide, dashboardId, rfl⟩

/-- Moving dashboards replaces nothing. -/
theorem Moves.putsWithin (moves : request.Moves) (kind : Kind) (id : String) :
    request.PutsWithin kind id := by
  rintro path body rfl
  cases moves

theorem putsWithin_put (kind : Kind) (id : String) (body : Json) :
    (put (kind.path id) body).PutsWithin kind id := by
  rintro path _ same
  cases same
  exact .inl rfl

theorem deletesWithin_delete (kind : Kind) (id : String) :
    (delete (kind.path id)).DeletesWithin kind id := by
  rintro path same
  cases same
  exact .inl rfl

end Request

/-! ## What is replaced and deleted -/

/-- An update of a dashboard sends the requests of an update. -/
theorem Dashboard.sends_update_ofUpdate (dashboard : Dashboard) (overrides : Overrides) :
    Plan.Sends Request.OfUpdate (dashboard.update overrides) := by
  intro history
  have promised : (dashboard.update overrides).Guarded (fun _ request => request.OfUpdate)
      (fun _ _ => True) (history ++ []) := by
    apply Plan.Guarded.after
    apply ((dashboard.guarded_update overrides).mono fun _ _ _ => trivial).weaken
    exact fun _ _ admitted => admitted.ofUpdate
  rwa [List.append_nil] at promised

namespace DashboardGroup

/-- Reconciling the dashboards of a group updates dashboards and moves them. -/
theorem sends_reconcileDashboards {allowed : Request → Prop}
    (updates : ∀ request : Request, request.OfUpdate → allowed request)
    (moves : ∀ request : Request, request.Moves → allowed request)
    (group : DashboardGroup) (id : String) :
    Plan.Sends allowed (group.reconcileDashboards id) := by
  have reads (path : String) : allowed (.get path) := moves _ (.read path)
  have deletes (path : String) : allowed (.delete path) := moves _ (.delete path)
  apply Plan.sends_bind
  · apply Plan.sends_mapM
    intro dashboard
    apply Plan.sends_bind ((dashboard.sends_update_ofUpdate {}).mono updates)
    exact fun remote => Plan.sends_requireId fun _ => Plan.sends_pure _
  intro placements
  apply Plan.sends_bind
  · apply Plan.sends_mapM
    intro placement
    unfold settle
    split
    · exact Plan.sends_pure _
    · apply Plan.sends_bind (Plan.sends_call (moves _ (.clone ..)) Plan.sends_pure)
      intro clone
      rw [← bind_pure (requireId clone)]
      exact Plan.sends_requireId Plan.sends_pure
  intro kept
  apply Plan.sends_bind (sends_removeSources reads deletes id placements)
  intro _
  apply Plan.sends_bind (Plan.sends_call (reads _) Plan.sends_pure)
  intro current
  apply Plan.sends_bind
  · exact Plan.sends_forM fun member _ => Dashboard.sends_deleteById reads deletes member
  · exact fun _ => Plan.sends_pure _

end DashboardGroup

namespace Resource

variable {resource : Resource}

/-- An amendment replaces the stored resource and its parts. -/
theorem sends_amend (resource : Resource) (overrides : Overrides) (remote : Json) (id : String) :
    Plan.Sends (Request.PutsWithin resource.kind id) (resource.amend overrides remote id) := by
  have writes : ∀ body, Plan.Sends (Request.PutsWithin resource.kind id)
      (Plan.put (resource.kind.path id) body) := fun body =>
    Plan.sends_call (Request.putsWithin_put _ id body) Plan.sends_pure
  cases resource with
  | chart c => exact Plan.sends_bind (Plan.sends_apply overrides _) writes
  | dashboard d =>
      apply Plan.sends_bind
      · exact (d.sends_reconcileCharts _).mono fun _ nameless =>
          nameless.putsWithin (List.mem_singleton_self _) id
      intro charts
      apply Plan.sends_bind (Plan.sends_assign _ _ _)
      exact fun document => Plan.sends_bind (Plan.sends_apply overrides _) writes
  | group g =>
      have fields : ∀ document : Json, Plan.Sends (Request.PutsWithin .group id) (do
          let fields ← Plan.checked g.unnamedPayload
          let document ← overrides.apply (document.overlay fields)
          Plan.put (Kind.group.path id) document) := fun document =>
        Plan.sends_bind (Plan.sends_checked _) fun fields =>
          Plan.sends_bind (Plan.sends_apply overrides _) writes
      dsimp only [amend]
      split
      · exact Plan.sends_bind (Plan.sends_pure remote) fields
      · apply Plan.sends_bind (g.sends_reconcileDashboards (fun _ update => update.putsWithin id)
          (fun _ moves => moves.putsWithin .group id) id)
        exact fun kept => Plan.sends_bind (Plan.sends_assign _ _ _) fields
  | detector t => exact Plan.sends_bind (Plan.sends_apply overrides _) writes

/-- An amendment ends with the stored resource being replaced. -/
theorem finishes_amend (resource : Resource) (overrides : Overrides) (remote : Json) (id : String) :
    Plan.Finishes server answer (fun request => ∃ body, request = .put (resource.kind.path id) body)
      (resource.amend overrides remote id) := by
  have writes : ∀ body, Plan.Finishes server answer
      (fun request => ∃ body, request = .put (resource.kind.path id) body)
      (Plan.put (resource.kind.path id) body) :=
    fun body => Plan.finishes_call ⟨body, rfl⟩ fun reply => reply
  cases resource with
  | chart c => exact Plan.finishes_bind _ writes
  | dashboard d =>
      exact Plan.finishes_bind _ fun _ => Plan.finishes_bind _ fun _ => Plan.finishes_bind _ writes
  | group g =>
      dsimp only [amend]
      split
      · exact Plan.finishes_bind _ fun _ => Plan.finishes_bind _ fun _ =>
          Plan.finishes_bind _ writes
      · exact Plan.finishes_bind _ fun _ => Plan.finishes_bind _ fun _ =>
          Plan.finishes_bind _ fun _ => Plan.finishes_bind _ writes
  | detector t => exact Plan.finishes_bind _ writes

/-- A removal deletes the stored resource and its parts. -/
theorem sends_removeById (resource : Resource) (id : String) :
    Plan.Sends (Request.DeletesWithin resource.kind id) (resource.removeById id) := by
  have deletes : Plan.Sends (Request.DeletesWithin resource.kind id)
      (Plan.delete (resource.kind.path id)) :=
    Plan.sends_call (Request.deletesWithin_delete _ id) fun _ => Plan.sends_pure ()
  cases resource with
  | chart c => exact deletes
  | dashboard d =>
      apply Plan.sends_bind
      · apply Plan.sends_call (by rintro _ ⟨⟩)
        intro remote
        apply Plan.sends_forM
        intro chartId _
        apply Plan.sends_call ?_ fun _ => Plan.sends_pure ()
        rintro path ⟨⟩
        exact .inr ⟨.chart, List.mem_singleton_self _, chartId, rfl⟩
      · exact fun _ => deletes
  | group g => exact deletes
  | detector t => exact deletes

/-- A removal ends with the stored resource being deleted. -/
theorem finishes_removeById (resource : Resource) (id : String) :
    Plan.Finishes server answer (· = .delete (resource.kind.path id)) (resource.removeById id) := by
  have deletes : Plan.Finishes server answer (· = .delete (resource.kind.path id))
      (Plan.delete (resource.kind.path id)) := Plan.finishes_call (by rfl) fun _ => ()
  cases resource with
  | chart c => exact deletes
  | dashboard d => exact Plan.finishes_bind _ fun _ => deletes
  | group g => exact deletes
  | detector t => exact deletes

end Resource

/-! ## Commands -/

namespace CommandLine.Command

variable {command : Command} {resource : Resource} {reply : Json}

/-- The command is about a resource that is there, and the resource passes the check that the
command makes, if it makes one. -/
inductive Seeks (resource : Resource) : Command → Prop
  | update (valid : resource.check = .ok ()) (overrides : Overrides) :
      Seeks resource (.update overrides)
  | read : Seeks resource .read
  | delete : Seeks resource .delete

/-- What a command does when no resource has the name. -/
def onNone (command : Command) (resource : Resource) : Plan Json :=
  match command with
  | .update overrides => resource.establish overrides
  | _ => .fail (.noMatch resource.name)

/-- What a command does with the one resource of the name. -/
def onOne (command : Command) (resource : Resource) (document : Json) : Plan Json :=
  match command with
  | .update overrides => do resource.amend overrides document (← requireId document)
  | .delete => do
      resource.removeById (← requireId document)
      return .null
  | _ => return document

theorem onOne_update {document : Json} {id : String} (identified : document.id? = some id)
    (overrides : Overrides) (resource : Resource) :
    (update overrides).onOne resource document = resource.amend overrides document id := by
  show requireId document >>= _ = _
  rw [requireId_eq identified, pure_bind]

theorem onOne_delete {document : Json} {id : String} (identified : document.id? = some id)
    (resource : Resource) :
    delete.onOne resource document = resource.removeById id >>= fun _ => pure .null := by
  show requireId document >>= _ = _
  rw [requireId_eq identified, pure_bind]

/-- Nothing but reading is done to a document that does not tell its identifier. -/
theorem onOne_eq_fail (seeks : command.Seeks resource) (other : command ≠ .read) {document : Json}
    (anonymous : document.id? = none) :
    command.onOne resource document = .fail (.unexpectedReply (.missingId document)) := by
  have fails : requireId document = .fail (.unexpectedReply (.missingId document)) := by
    rw [requireId, anonymous]
  cases seeks with
  | update valid overrides =>
      show requireId document >>= _ = _
      rw [fails]
      rfl
  | read => exact absurd rfl other
  | delete =>
      show requireId document >>= _ = _
      rw [fails]
      rfl

/-- What a command does with the resources of the name. -/
def onFound (command : Command) (resource : Resource) : List Json → Plan Json
  | [] => command.onNone resource
  | [document] => command.onOne resource document
  | _ => .fail (.ambiguous resource.name)

/-- A command about a resource that is there looks its name up, and heeds the results of exactly
that name alone. -/
theorem plan_eq_onFound (seeks : command.Seeks resource) (byName : resource.ByName) :
    command.plan resource =
      .call resource.lookup fun reply => command.onFound resource (resource.namesakes reply) := by
  cases seeks with
  | update valid overrides =>
      show resource.update overrides = _
      rw [Resource.update_eq valid, Resource.find_eq byName, findUnique_bind]
      refine congrArg (Plan.call _) (funext fun reply => ?_)
      unfold Resource.namesakes
      rcases matching resource.name reply.items with _ | ⟨document, _ | ⟨other, rest⟩⟩ <;> rfl
  | read =>
      show resource.read = _
      rw [Resource.read_eq byName, ← bind_pure (requireUnique _ _), requireUnique_bind]
      refine congrArg (Plan.call _) (funext fun reply => ?_)
      unfold Resource.namesakes
      rcases matching resource.name reply.items with _ | ⟨document, _ | ⟨other, rest⟩⟩ <;> rfl
  | delete =>
      show (fun _ => Json.null) <$> resource.delete = _
      rw [Resource.delete_eq byName, map_eq_pure_bind, bind_assoc, requireUnique_bind]
      refine congrArg (Plan.call _) (funext fun reply => ?_)
      unfold Resource.namesakes
      rcases matching resource.name reply.items with _ | ⟨document, _ | ⟨other, rest⟩⟩
      · rfl
      · exact bind_assoc ..
      · rfl

/-- What the run of a command about a resource that is there comes to when the search for its name
gave a reply. -/
structure Resolved (command : Command) (resource : Resource) (server : Server σ)
    (answer : Question → Bool) (reply : Json) (state after : σ) : Prop where
  /-- Nothing in a reply matters but the results of exactly the name. -/
  heeds : ∃ next : List Json → Plan Json,
    command.plan resource = .call resource.lookup fun reply => next (resource.namesakes reply)
  /-- Of several resources of the name none is chosen. -/
  several : 2 ≤ (resource.namesakes reply).length →
    (command.plan resource).run server answer state =
      { result := .error (.ambiguous resource.name), state := after, requests := [resource.lookup] }
  /-- An update creates a resource that is not there. -/
  creates : resource.namesakes reply = [] → ∀ overrides, command = .update overrides →
    ∃ rest, ((command.plan resource).run server answer state).requests =
      resource.lookup :: resource.creation overrides :: rest
  /-- Any other command fails. -/
  missing : resource.namesakes reply = [] → (∀ overrides, command ≠ .update overrides) →
    (command.plan resource).run server answer state =
      { result := .error (.noMatch resource.name), state := after, requests := [resource.lookup] }
  reads : ∀ document, resource.namesakes reply = [document] → command = .read →
    (command.plan resource).run server answer state =
      { result := .ok document, state := after, requests := [resource.lookup] }
  /-- Nothing is done to a document that does not tell its identifier. -/
  unidentified : ∀ document, resource.namesakes reply = [document] → command ≠ .read →
    document.id? = none →
    (command.plan resource).run server answer state =
      { result := .error (.unexpectedReply (.missingId document)), state := after,
        requests := [resource.lookup] }
  /-- An update replaces the resource and its parts, and of resources of its kind no other. -/
  replaces : ∀ document id, resource.namesakes reply = [document] → document.id? = some id →
    ∀ overrides, command = .update overrides →
      let run := (command.plan resource).run server answer state
      (∀ request ∈ run.requests, request.PutsWithin resource.kind id) ∧
        (∀ other body, .put (resource.kind.path other) body ∈ run.requests → other = id) ∧
        (run.result.isOk → ∃ before body,
          run.requests = before ++ [.put (resource.kind.path id) body])
  /-- A deletion deletes the resource and its parts, and of resources of its kind no other. -/
  removes : ∀ document id, resource.namesakes reply = [document] → document.id? = some id →
    command = .delete →
      let run := (command.plan resource).run server answer state
      (∀ request ∈ run.requests, request.DeletesWithin resource.kind id) ∧
        (∀ other, .delete (resource.kind.path other) ∈ run.requests → other = id) ∧
        (run.result.isOk → ∃ before, run.requests = before ++ [.delete (resource.kind.path id)])

/-- A name that is looked up is resolved to the one resource that has it, or not at all: a resource
is read, replaced or deleted only if it is the only one of its kind with exactly the name. -/
theorem resolved (seeks : command.Seeks resource) (byName : resource.ByName)
    (answered : server resource.lookup state = (.ok reply, after)) :
    command.Resolved resource server answer reply state after := by
  have shape := plan_eq_onFound seeks byName
  have goes : (command.plan resource).run server answer state =
      let rest := (command.onFound resource (resource.namesakes reply)).run server answer after
      { rest with requests := resource.lookup :: rest.requests } := by
    rw [shape, Plan.run_call_ok answered]
  have one : ∀ document, resource.namesakes reply = [document] →
      command.onFound resource (resource.namesakes reply) = command.onOne resource document := by
    intro document alone
    rw [alone]
    rfl
  constructor
  case heeds => exact ⟨command.onFound resource, shape⟩
  case several =>
    intro several
    rw [goes]
    rcases found : resource.namesakes reply with _ | ⟨document, _ | ⟨other, rest⟩⟩
    · simp [found] at several
    · simp [found] at several
    · rfl
  case creates =>
    rintro none overrides rfl
    cases seeks with
    | update valid =>
        have begins : ∃ rest, ((resource.establish overrides).run server answer after).requests =
            resource.creation overrides :: rest :=
          Resource.exists_requests_establish valid overrides after
        obtain ⟨rest, begins⟩ := begins
        exact ⟨rest, by rw [goes, none]; exact congrArg _ begins⟩
  case missing =>
    intro none other
    rw [goes, none]
    cases seeks with
    | update valid overrides => exact absurd rfl (other overrides)
    | read => rfl
    | delete => rfl
  case reads =>
    rintro document alone rfl
    rw [goes, one document alone]
    rfl
  case unidentified =>
    intro document alone other anonymous
    rw [goes, one document alone, onOne_eq_fail seeks other anonymous]
    rfl
  case replaces =>
    rintro document id alone identified overrides rfl
    rw [goes, one document alone, onOne_update identified]
    have within : ∀ request ∈ resource.lookup ::
        ((resource.amend overrides document id).run server answer after).requests,
        request.PutsWithin resource.kind id := by
      rintro request (_ | ⟨_, later⟩)
      · rintro _ _ ⟨⟩
      · exact (resource.sends_amend overrides document id).requests after request later
    refine ⟨within, fun other body sent => (within _ sent _ _ rfl).id_eq, fun succeeds => ?_⟩
    obtain ⟨before, _, ⟨body, rfl⟩, ends⟩ :=
      resource.finishes_amend overrides document id _ succeeds
    exact ⟨resource.lookup :: before, body, congrArg _ ends⟩
  case removes =>
    rintro document id alone identified rfl
    rw [goes, one document alone, onOne_delete identified]
    have within : ∀ request ∈ resource.lookup ::
        ((resource.removeById id >>= fun _ => pure Json.null).run server answer after).requests,
        request.DeletesWithin resource.kind id := by
      rintro request (_ | ⟨_, later⟩)
      · rintro _ ⟨⟩
      · have sends := Plan.sends_bind (resource.sends_removeById id)
          fun _ => Plan.sends_pure Json.null
        exact sends.requests after request later
    refine ⟨within, fun other sent => (within _ sent _ rfl).id_eq, fun succeeds => ?_⟩
    obtain ⟨before, _, rfl, ends⟩ :=
      (resource.finishes_removeById id).map (fun _ => Json.null) after succeeds
    exact ⟨resource.lookup :: before, congrArg _ ends⟩

/-- A note is deleted that a loose search finds among others. -/
theorem resolved_note :
    let note : Resource := .chart { name := "note", options := .text "x" }
    let found : Json := .record [("id", some (.str "c-1")), ("name", some (.str "note"))]
    let reply : Json := .arr [.null, .record [("name", some (.str "notes"))], found]
    delete.Seeks note ∧ note.ByName ∧ note.namesakes reply = [found] ∧
      found.id? = some "c-1" ∧
      Server.scripted note.lookup [.ok reply, .ok .null] = (.ok reply, [.ok .null]) ∧
      delete.Resolved note Server.scripted (fun _ => false) reply [.ok reply, .ok .null]
        [.ok .null] := by
  intro note found reply
  exact ⟨.delete, rfl, by decide +kernel, by decide +kernel, rfl, resolved .delete rfl rfl⟩

end CommandLine.Command

end SignalBoard
