/-
# What an operation on a group may send

Creating and updating a group move dashboards: they are cloned into the group, and their originals
are deleted, sometimes with the group they were in. Nothing may be deleted whose copy is not there
yet. The exchanges so far tell which group is the target, where each dashboard was placed, which
were cloned and what a group listed when it was last read, and from this it follows what may be
deleted next. The API need not be consistent, nor answer twice alike.
-/

import SignalBoard.Reconcile.Group
import SignalBoard.Proofs.Reconcile.Conduct
import SignalBoard.Proofs.Store.Path

namespace SignalBoard

namespace Request

/-- A dashboard is cloned into a group. -/
def clone (target dashboardId : String) : Request :=
  .post (clonePath target) [] (.record [("sourceDashboard", some (.str dashboardId))])

/-- The requests of an update of a dashboard. -/
inductive OfUpdate : Request → Prop
  | search (name : String) : OfUpdate (.search .dashboard name)
  | readChart (id : String) : OfUpdate (.get (Kind.chart.path id))
  | writeChart (id : String) (body : Json) : OfUpdate (.put (Kind.chart.path id) body)
  | createChart (query : List (String × String)) (body : Json) :
      OfUpdate (.post Kind.chart.endpoint query body)
  | deleteChart (id : String) : OfUpdate (.delete (Kind.chart.path id))
  | create (query : List (String × String)) (body : Json) :
      OfUpdate (.post "/dashboard/simple" query body)
  | write (id : String) (body : Json) : OfUpdate (.put (Kind.dashboard.path id) body)

/-- The requests by which dashboards that are placed are moved. -/
inductive Moves : Request → Prop
  | clone (target dashboardId : String) : Moves (.clone target dashboardId)
  | read (path : String) : Moves (.get path)
  | delete (path : String) : Moves (.delete path)

/-- The requests by which what was moved is removed. -/
inductive Removes : Request → Prop
  | read (path : String) : Removes (.get path)
  | delete (path : String) : Removes (.delete path)

/-- The requests by which dashboards are removed with their charts. -/
inductive Clears : Request → Prop
  | read (id : String) : Clears (.get (Kind.dashboard.path id))
  | deleteChart (id : String) : Clears (.delete (Kind.chart.path id))
  | delete (id : String) : Clears (.delete (Kind.dashboard.path id))

end Request

namespace History

/-- The reply to the request that created a group. -/
def created? (history : History) : Option Json :=
  history.findSome? fun
    | (.post path _ _, reply) => if path = Kind.group.endpoint then some reply else none
    | _ => none

/-- The last reply to a read of a path. -/
def lastRead? (history : History) (path : String) : Option Json :=
  history.reverse.findSome? fun (request, reply) =>
    if request = .get path then some reply else none

/-- A dashboard was cloned into a group. -/
def Cloned (history : History) (target dashboardId : String) : Prop :=
  ∃ reply, (Request.clone target dashboardId, reply) ∈ history

/-- An update of a dashboard ended with a reply. One that creates the dashboard ends there, unless
it goes on to write the dashboard. -/
inductive Concluded : History → Json → Prop
  | written (id : String) (body reply : Json) (after : History) :
      Concluded ((.put (Kind.dashboard.path id) body, reply) :: after) reply
  | created (query : List (String × String)) (body reply : Json) {after : History}
      (unwritten : ∀ id document other rest,
        after ≠ (.put (Kind.dashboard.path id) document, other) :: rest) :
      Concluded ((.post "/dashboard/simple" query body, reply) :: after) reply
  | later (exchange : Request × Json) {after : History} {reply : Json}
      (concluded : Concluded after reply) : Concluded (exchange :: after) reply

/-- An update of a dashboard ended with a reply that places it. -/
def Placed (history : History) (placement : Placement) : Prop :=
  ∃ reply, history.Concluded reply ∧ reply.id? = some placement.dashboardId ∧
    (reply.field "groupId").string?.getD "" = placement.groupId

/-- A dashboard that was placed in another group was cloned into the target. -/
def Moved (history : History) (target dashboardId : String) : Prop :=
  (∃ placement, history.Placed placement ∧ placement.dashboardId = dashboardId ∧
    placement.groupId ≠ target) ∧ history.Cloned target dashboardId

/-- A dashboard came with the group, first among those that the new group listed. -/
def Seeded (history : History) (dashboardId : String) : Prop :=
  ∃ created, history.created? = some created ∧
    (DashboardGroup.members created).head? = some dashboardId

/-- A dashboard that the target listed when it was last read is neither one that was placed there
nor the clone of one, nor was it cloned. -/
def Surplus (history : History) (target dashboardId : String) : Prop :=
  (∃ document, history.lastRead? (Kind.group.path target) = some document ∧
    dashboardId ∈ DashboardGroup.members document) ∧
  (∀ placement, history.Placed placement → placement.groupId = target →
    placement.dashboardId ≠ dashboardId) ∧
  (∀ other query body reply, (.post (Request.clonePath other) query body, reply) ∈ history →
    reply.id? ≠ some dashboardId) ∧
  ¬ history.Cloned target dashboardId

end History

namespace DashboardGroup

/-- The group that was created, or else the one that the search found. -/
def target? (group : DashboardGroup) (history : History) : Option String :=
  match history.created? with
  | some created => created.id?
  | none => do
      let found ← history.findSome? fun (request, reply) =>
        if request = .search .group group.name then some reply else none
      match matching group.name found.items with
      | [remote] => remote.id?
      | _ => none

/-- What may be sent after the exchanges so far. Requests that neither clone nor delete dashboards
or groups may be sent at any time. -/
structure Permits (group : DashboardGroup) (history : History) (request : Request) : Prop where
  /-- Dashboards are cloned before any group is read. -/
  clones : ∀ target query body, request = .post (Request.clonePath target) query body →
    ∀ groupId reply, (.get (Kind.group.path groupId), reply) ∉ history
  /-- A group is deleted if it is not the target and if all that it listed, when it was last read,
  was cloned into the target. -/
  groups : ∀ groupId, request = .delete (Kind.group.path groupId) →
    ∃ target, group.target? history = some target ∧ groupId ≠ target ∧
      ∃ document, history.lastRead? (Kind.group.path groupId) = some document ∧
        ∀ id ∈ members document, history.Cloned target id
  /-- A dashboard is deleted if it was moved to the target, came with it, or is surplus there. -/
  dashboards : ∀ id, request = .delete (Kind.dashboard.path id) →
    ∃ target, group.target? history = some target ∧
      (history.Moved target id ∨ history.Seeded id ∨ history.Surplus target id)

end DashboardGroup

namespace Request

/-- Neither all groups nor one of them has a path to which clones are posted. -/
theorem clonePath_ne_group (target : String) : clonePath target ≠ Kind.group.endpoint :=
  clonePath_ne target (by decide)

/-- The request tells which dashboard is cloned, and into which group. -/
theorem clone_inj {target target' id id' : String} (same : clone target id = clone target' id') :
    clonePath target = clonePath target' ∧ id = id' := by
  simpa [clone, Json.record, Table.insert] using same

/-- An update of a dashboard creates no group. -/
theorem OfUpdate.not_group {request : Request} (ofUpdate : request.OfUpdate)
    (query : List (String × String)) (body : Json) :
    request ≠ .post Kind.group.endpoint query body := by
  rintro rfl
  generalize isPath : Kind.group.endpoint = path at ofUpdate
  cases ofUpdate <;> exact absurd isPath (by decide)

/-- An update of a dashboard clones nothing. -/
theorem OfUpdate.not_clone {request : Request} (ofUpdate : request.OfUpdate) (target : String)
    (query : List (String × String)) (body : Json) :
    request ≠ .post (clonePath target) query body := by
  rintro rfl
  generalize isPath : clonePath target = path at ofUpdate
  cases ofUpdate with
  | createChart => exact clonePath_ne target (by decide) isPath
  | create => exact clonePath_ne target (by decide) isPath

/-- An update of a dashboard reads no group. -/
theorem OfUpdate.not_read {request : Request} (ofUpdate : request.OfUpdate) (groupId : String) :
    request ≠ .get (Kind.group.path groupId) := by
  rintro rfl
  generalize isPath : Kind.group.path groupId = path at ofUpdate
  cases ofUpdate with
  | readChart => exact Kind.path_ne (by decide) _ _ isPath

/-- An update of a dashboard deletes only charts. -/
theorem OfUpdate.not_delete {request : Request} (ofUpdate : request.OfUpdate) {kind : Kind}
    (notChart : kind ≠ .chart) (id : String) : request ≠ .delete (kind.path id) := by
  rintro rfl
  generalize isPath : kind.path id = path at ofUpdate
  cases ofUpdate with
  | deleteChart => exact Kind.path_ne notChart _ _ isPath

theorem Removes.moves {request : Request} (removes : request.Removes) : request.Moves := by
  cases removes with
  | read path => exact .read path
  | delete path => exact .delete path

theorem Clears.removes {request : Request} (clears : request.Clears) : request.Removes := by
  cases clears with
  | read id => exact .read _
  | deleteChart id => exact .delete _
  | delete id => exact .delete _

/-- Removing dashboards reads no group. -/
theorem Clears.not_read {request : Request} (clears : request.Clears) (groupId : String) :
    request ≠ .get (Kind.group.path groupId) := by
  rintro rfl
  generalize isPath : Kind.group.path groupId = path at clears
  cases clears with
  | read id => exact Kind.path_ne (by decide) _ _ isPath

/-- Moving dashboards creates no group. -/
theorem Moves.not_group {request : Request} (moves : request.Moves)
    (query : List (String × String)) (body : Json) :
    request ≠ .post Kind.group.endpoint query body := by
  intro same
  cases moves with
  | clone target dashboardId =>
      injection same with samePath
      exact clonePath_ne_group target samePath
  | read | delete => cases same

end Request

namespace History

variable {history own : History} {path : String}

/-- A group that was created is the one that stays known. -/
theorem created?_append (quiet : own.created? = none) :
    (history ++ own).created? = history.created? := by
  rw [created?, List.findSome?_append, ← created?, ← created?, quiet, Option.or_none]

theorem created?_eq_none
    (none : ∀ exchange ∈ own, ∀ query body, exchange.1 ≠ .post Kind.group.endpoint query body) :
    own.created? = .none := by
  rw [created?, List.findSome?_eq_none_iff]
  rintro ⟨request, reply⟩ member
  have other := none _ member
  split
  case h_1 path query body reply same =>
    obtain ⟨rfl, rfl⟩ := Prod.mk.inj same
    exact if_neg fun isGroup => other query body (congrArg (Request.post · query body) isGroup)
  case h_2 => rfl

/-- What was read just now was read last. -/
@[simp] theorem lastRead?_append_read (reply : Json) :
    (history ++ [(Request.get path, reply)]).lastRead? path = some reply := by
  simp [lastRead?]

/-- What was read last is still that if the path is not read again. -/
theorem lastRead?_append (unread : ∀ exchange ∈ own, exchange.1 ≠ .get path) :
    (history ++ own).lastRead? path = history.lastRead? path := by
  have nothing : own.reverse.findSome? (fun (request, reply) =>
      if request = .get path then some reply else none) = none := by
    rw [List.findSome?_eq_none_iff]
    rintro ⟨request, reply⟩ member
    exact if_neg (unread _ (List.mem_reverse.mp member))
  rw [lastRead?, List.reverse_append, List.findSome?_append, nothing, Option.none_or, ← lastRead?]

theorem Cloned.append {target dashboardId : String} (cloned : history.Cloned target dashboardId)
    (own : History) : (history ++ own).Cloned target dashboardId := by
  obtain ⟨reply, member⟩ := cloned
  exact ⟨reply, List.mem_append_left own member⟩

variable {reply : Json}

/-- An update ends with writing or with creating a dashboard. -/
theorem Concluded.exists_mem (concluded : history.Concluded reply) :
    ∃ request, (request, reply) ∈ history ∧
      ((∃ id body, request = .put (Kind.dashboard.path id) body) ∨
        ∃ query body, request = .post "/dashboard/simple" query body) := by
  induction concluded with
  | written id body reply after => exact ⟨_, List.mem_cons_self, .inl ⟨id, body, rfl⟩⟩
  | created query body reply => exact ⟨_, List.mem_cons_self, .inr ⟨query, body, rfl⟩⟩
  | later exchange _ ih =>
      obtain ⟨request, member, isLast⟩ := ih
      exact ⟨request, .tail _ member, isLast⟩

/-- An update has ended once it did, if the dashboard is not written next. -/
theorem Concluded.append (concluded : history.Concluded reply)
    (unwritten : ∀ id document other rest,
      own ≠ (.put (Kind.dashboard.path id) document, other) :: rest) :
    (history ++ own).Concluded reply := by
  induction concluded with
  | written id body reply after => exact .written ..
  | later exchange _ ih => exact .later exchange ih
  | @created query body reply after last =>
      apply Concluded.created
      intro id document other rest same
      cases after with
      | nil => exact unwritten id document other rest same
      | cons exchange after => exact last id document other after (by simp_all)

theorem Concluded.prepend (concluded : own.Concluded reply) (history : History) :
    (history ++ own).Concluded reply := by
  induction history with
  | nil => exact concluded
  | cons exchange rest ih => exact .later exchange ih

/-- Whatever update has ended did so earlier or later. -/
theorem Concluded.of_append (concluded : (history ++ own).Concluded reply) :
    history.Concluded reply ∨ own.Concluded reply := by
  induction history with
  | nil => exact .inr concluded
  | cons exchange rest ih =>
      generalize whole : exchange :: rest ++ own = exchanges at concluded
      cases concluded with
      | written id body reply after =>
          obtain ⟨rfl, rfl⟩ := List.cons.inj whole
          exact .inl (.written ..)
      | created query body reply unwritten =>
          obtain ⟨rfl, rfl⟩ := List.cons.inj whole
          refine .inl (.created _ _ _ fun id document other after same => ?_)
          exact unwritten id document other (after ++ own) (by rw [same]; rfl)
      | later _ concluded =>
          obtain ⟨rfl, rfl⟩ := List.cons.inj whole
          exact (ih concluded).imp_left (.later _)

/-- Requests that move dashboards end no update. -/
theorem not_concluded_of_moves (moves : ∀ exchange ∈ own, exchange.1.Moves) :
    ¬ own.Concluded reply := by
  intro concluded
  obtain ⟨request, member, isLast⟩ := concluded.exists_mem
  generalize isRequest : request = other at isLast
  obtain moves := moves _ member
  cases moves with
  | clone target dashboardId =>
      obtain ⟨_, _, rfl⟩ | ⟨_, _, rfl⟩ := isLast
      · cases isRequest
      · injection isRequest with samePath
        exact Request.clonePath_ne target (by decide) samePath
  | read | delete =>
      obtain ⟨_, _, rfl⟩ | ⟨_, _, rfl⟩ := isLast <;> cases isRequest

/-- Where dashboards were placed does not change while they are moved. -/
theorem placed_append_iff (moves : ∀ exchange ∈ own, exchange.1.Moves) {placement : Placement} :
    (history ++ own).Placed placement ↔ history.Placed placement := by
  constructor
  · rintro ⟨reply, concluded, places⟩
    exact ⟨reply, concluded.of_append.resolve_right (not_concluded_of_moves moves), places⟩
  · rintro ⟨reply, concluded, places⟩
    refine ⟨reply, concluded.append ?_, places⟩
    rintro id document other rest rfl
    cases moves _ List.mem_cons_self

end History

namespace Dashboard

variable {own : History} {reply other : Json}

/-- Clearing charts away ends no update. -/
theorem Clearing.not_concluded (clearing : Clearing own) : ¬ own.Concluded reply := by
  intro concluded
  obtain ⟨request, member, isLast⟩ := concluded.exists_mem
  obtain ⟨id, body, rfl⟩ | ⟨query, body, rfl⟩ := isLast
  · exact clearing.not_written id body reply member
  · generalize isPath : "/dashboard/simple" = path at member
    obtain chart | ⟨_, _, same⟩ := clearing _ member
    · cases chart
      exact absurd isPath (by decide)
    · cases same

/-- A complete update has ended with its reply, and with no other. -/
theorem Completed.concluded_iff (completed : Completed own reply) :
    own.Concluded other ↔ other = reply := by
  cases completed with
  | created query body =>
      constructor
      · intro concluded
        cases concluded with
        | created => rfl
        | later _ concluded => cases concluded
      · rintro rfl
        exact .created _ _ _ (by simp)
  | settled query body created id document =>
      constructor
      · intro concluded
        cases concluded with
        | created _ _ _ unwritten => exact (unwritten _ _ _ _ rfl).elim
        | later _ concluded =>
            generalize isPath : Kind.dashboard.path id = path at concluded
            cases concluded with
            | written => rfl
            | later _ concluded => cases concluded
      · rintro rfl
        exact .later _ (.written ..)
  | reconciled clearing id document =>
      constructor
      · intro concluded
        have last := concluded.of_append.resolve_left clearing.not_concluded
        generalize isPath : Kind.dashboard.path id = path at last
        cases last with
        | written => rfl
        | later _ concluded => cases concluded
      · rintro rfl
        exact History.Concluded.prepend (.written ..) _

/-- The guard of a reconciliation admits only requests of an update. -/
theorem AdmitsReconciliation.ofUpdate {dashboard : Dashboard} {remote : Json} {history : History}
    {request : Request} (admitted : dashboard.AdmitsReconciliation remote history request) :
    request.OfUpdate := by
  cases request with
  | search => exact admitted.elim
  | get path =>
      obtain ⟨-, id, rfl⟩ := admitted
      exact .readChart id
  | post path query body =>
      obtain ⟨-, rfl⟩ := admitted
      exact .createChart query body
  | put path body =>
      obtain ⟨-, id, rfl⟩ | ⟨-, id, -, rfl⟩ := admitted
      · exact .writeChart id body
      · exact .write id body
  | delete path =>
      obtain ⟨-, id, -, rfl, -⟩ := admitted
      exact .deleteChart id

/-- The guard of an update admits only its requests. -/
theorem Admits.ofUpdate {dashboard : Dashboard} {history : History} {request : Request}
    (admitted : dashboard.Admits history request) : request.OfUpdate := by
  cases history with
  | nil =>
      obtain rfl : request = .search .dashboard dashboard.name := admitted
      exact .search dashboard.name
  | cons exchange rest =>
      obtain ⟨-, creation⟩ | ⟨remote, -, reconciliation⟩ := AdmitsAfter.cases admitted
      · obtain ⟨-, query, body, rfl⟩ | ⟨id, body, rfl⟩ := creation.cases
        · exact .create query body
        · exact .write id body
      · exact reconciliation.ofUpdate

end Dashboard

end SignalBoard
