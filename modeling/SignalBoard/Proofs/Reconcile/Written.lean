/-
# What an update writes

An update that finds the stored resource reconciles its parts, if it has any, and then replaces the
resource by one last request. Whatever the API answers on the way, the document of that request is
the stored one with the reconciled part, what is local and the overrides laid over it, and nothing
of the stored document is dropped. The part is read off the exchanges before the request.
-/

import SignalBoard.Proofs.Reconcile.Fields
import SignalBoard.Proofs.Reconcile.Resolve
import SignalBoard.Proofs.Reconcile.Told

namespace SignalBoard

/-! ## Requests that leave resources of a kind alone -/

namespace Request

/-- The request replaces no resource of the kind. -/
def Keeps (kind : Kind) (request : Request) : Prop :=
  ∀ id body, request ≠ .put (kind.path id) body

variable {request : Request}

theorem Nameless.keeps (nameless : request.Nameless) {kind : Kind} (notChart : Kind.chart ≠ kind) :
    request.Keeps kind := by
  rintro id body rfl
  generalize isPath : kind.path id = path at nameless
  cases nameless with
  | putChart chartId => exact Kind.path_ne notChart _ _ isPath.symm

theorem OfUpdate.keeps (ofUpdate : request.OfUpdate) : request.Keeps .group := by
  rintro id body rfl
  generalize isPath : Kind.group.path id = path at ofUpdate
  cases ofUpdate with
  | writeChart | write => exact Kind.path_ne (by decide) _ _ isPath

theorem Moves.keeps (moves : request.Moves) (kind : Kind) : request.Keeps kind := by
  rintro id body rfl
  cases moves

end Request

namespace Resource

/-- The request with its reply found the stored resource: by its name, or a chart by an identifier
of its own. -/
inductive Finds : Resource → Request → Json → Json → Prop
  | pinned {chart : Chart} {id : String} (own : chart.id = some id) (remote : Json) :
      Finds (.chart chart) (.get (Kind.chart.path id)) remote remote
  | named {resource : Resource} (byName : resource.ByName) {reply remote : Json}
      (alone : resource.namesakes reply = [remote]) :
      Finds resource resource.lookup reply remote

/-- What was reconciled of a stored resource, as the exchanges since it was found tell it: of a
dashboard its charts, of a group with local dashboards its dashboards, and nothing else. -/
inductive Reconciled : Resource → Json → String → History → Table Json → Prop
  | chart (chart : Chart) (remote : Json) (id : String) :
      Reconciled (.chart chart) remote id [] []
  | detector (detector : Detector) (remote : Json) (id : String) :
      Reconciled (.detector detector) remote id [] []
  | dashboard {dashboard : Dashboard} {remote : Json} (id : String) {layout : List Json}
      {own : History} (told : dashboard.ChartsTold (Layout.entries remote) [] layout own) :
      Reconciled (.dashboard dashboard) remote id own [("charts", .arr layout)]
  | emptyGroup {group : DashboardGroup} (empty : group.dashboards = []) (remote : Json)
      (id : String) : Reconciled (.group group) remote id [] []
  | group {group : DashboardGroup} (filled : group.dashboards ≠ []) (remote : Json) {id : String}
      {ids : List String} {own : History} (told : group.DashboardsTold id [] ids own) :
      Reconciled (.group group) remote id own [("dashboards", .ofStrings ids)]

/-- What may be sent after a stored resource was found: if it replaces a resource of the kind, that
is done once, to the one that was found, and its document is laid over the stored one. -/
structure Amends (resource : Resource) (overrides : Overrides) (remote : Json) (id : String)
    (own : History) (request : Request) : Prop where
  unwritten : ∀ exchange ∈ own, exchange.1.Keeps resource.kind
  body : ∀ other body, request = .put (resource.kind.path other) body → other = id ∧
    ∃ reconciled, resource.Reconciled remote id own reconciled ∧
      resource.Overlaid overrides remote reconciled body

variable {resource : Resource} {overrides : Overrides} {remote : Json} {id : String}

/-- What comes before the resource is replaced. -/
theorem guarded_reconciling {α : Type} {plan : Plan α} {promise : α → History → Prop}
    (promises : plan.Guarded (fun _ _ => True) promise [])
    (sends : plan.Sends (Request.Keeps resource.kind)) :
    plan.Guarded (resource.Amends overrides remote id)
      (fun value own => promise value own ∧ ∀ exchange ∈ own, exchange.1.Keeps resource.kind)
      [] := by
  have grown : ∀ {own : History}, History.Grown (Request.Keeps resource.kind) [] own →
      ∀ exchange ∈ own, exchange.1.Keeps resource.kind := by
    rintro own ⟨_, rfl, each⟩
    exact each
  have both := ((sends []).and promises).growing fun _ _ admitted => admitted.1
  apply (both.mono _).weaken
  · rintro own request ⟨⟨keeps, -⟩, earlier⟩
    exact ⟨grown earlier, fun other body same => absurd same (keeps other body)⟩
  · rintro value own ⟨⟨-, promised⟩, earlier⟩
    exact ⟨promised, grown earlier⟩

/-- Replacing the resource is the last thing done. -/
theorem guarded_writing {own : History} {reconciled : Table Json} {document : Json}
    (unwritten : ∀ exchange ∈ own, exchange.1.Keeps resource.kind)
    (told : resource.Reconciled remote id own reconciled)
    (laid : resource.Laid remote reconciled document) :
    (overrides.apply document >>= Plan.put (resource.kind.path id)).Guarded
      (resource.Amends overrides remote id) (fun _ _ => True) own := by
  rw [overrides.apply_eq laid.object, pure_bind]
  refine ⟨⟨unwritten, fun other body same => ?_⟩, fun _ => trivial⟩
  obtain ⟨samePath, rfl⟩ : resource.kind.path id = resource.kind.path other ∧ _ = body :=
    Request.put.inj same
  exact ⟨(Kind.path_inj samePath).2.symm, reconciled, told, laid.overlaid overrides⟩

/-- An amendment replaces the resource by what is laid over the stored one. -/
theorem guarded_amend (valid : resource.check = .ok ()) (object : remote.isObject = true)
    (overrides : Overrides) (id : String) :
    (resource.amend overrides remote id).Guarded (resource.Amends overrides remote id)
      (fun _ _ => True) [] := by
  cases resource with
  | chart c => exact guarded_writing (by simp) (.chart c remote id) (laid_chart valid object)
  | detector t =>
      exact guarded_writing (by simp) (.detector t remote id) (laid_detector valid object)
  | dashboard d =>
      have named : ∀ entry ∈ Layout.entries remote, (Layout.chartId? entry).isSome :=
        fun entry member => (List.mem_filter.mp member).2
      have keeps : (d.reconcileCharts (Layout.entries remote)).Sends
          (Request.Keeps (Resource.dashboard d).kind) :=
        (d.sends_reconcileCharts _).mono fun _ nameless => nameless.keeps nofun
      apply Plan.guarded_bind (guarded_reconciling (d.guarded_reconcileCharts_told named []) keeps)
      rintro layout own ⟨told, unwritten⟩
      rw [Plan.assign_eq object, pure_bind]
      exact guarded_writing unwritten (.dashboard id told) (laid_dashboard d object layout)
  | group g =>
      obtain ⟨fields, unnamed, -⟩ := DashboardGroup.get?_unnamedPayload valid
      obtain ⟨bare, filed⟩ := laid_group valid unnamed object
      have payload : Plan.checked g.unnamedPayload = pure fields := Plan.checked_eq unnamed
      dsimp only [amend]
      rw [payload]
      split
      case isTrue empty =>
        exact guarded_writing (by simp) (.emptyGroup (List.isEmpty_iff.mp empty) remote id) bare
      case isFalse filled =>
        have keeps : (g.reconcileDashboards id).Sends
            (Request.Keeps (Resource.group g).kind) :=
          g.sends_reconcileDashboards (fun _ update => update.keeps)
            (fun _ moves => moves.keeps .group) id
        apply Plan.guarded_bind
          (guarded_reconciling (g.guarded_reconcileDashboards_told id []) keeps)
        rintro ids own ⟨told, unwritten⟩
        rw [Plan.assign_eq object, pure_bind]
        exact guarded_writing unwritten
          (.group (fun empty => filled (List.isEmpty_iff.mpr empty)) remote told) (filed _)

/-! ## Updates -/

/-- A reading gives the stored resource itself, a search gives it as the one result of the name. -/
theorem Finds.cases {request : Request} {reply : Json}
    (finds : resource.Finds request reply remote) :
    (∃ path, request = .get path ∧ reply = remote) ∨
      ∃ kind name, request = .search kind name ∧ resource.namesakes reply = [remote] := by
  cases finds with
  | pinned own => exact .inl ⟨_, rfl, rfl⟩
  | named byName alone => exact .inr ⟨_, _, rfl, alone⟩

/-- One resource is found. -/
theorem Finds.unique {request : Request} {reply other : Json}
    (finds : resource.Finds request reply remote) (finds' : resource.Finds request reply other) :
    remote = other := by
  obtain ⟨_, rfl, rfl⟩ | ⟨_, _, rfl, alone⟩ := finds.cases
  · obtain ⟨_, -, same⟩ | ⟨_, _, searched, -⟩ := finds'.cases
    · exact same
    · cases searched
  · obtain ⟨_, read, -⟩ | ⟨_, _, -, alone'⟩ := finds'.cases
    · cases read
    · exact List.singleton_inj.mp (alone.symm.trans alone')

/-- What an update may send: whatever it is, until the stored resource was found. -/
def Updates (resource : Resource) (overrides : Overrides) : History → Request → Prop
  | [], _ => True
  | (request, reply) :: own, next => ∀ remote, resource.Finds request reply remote →
      ∃ id, remote.id? = some id ∧ resource.Amends overrides remote id own next

/-- What follows on the request that looks the resource up: where it found the stored resource, an
amendment of that. -/
theorem guarded_found (valid : resource.check = .ok ()) {plan : Plan Json} {request : Request}
    {reply : Json} (amends : ∀ remote, resource.Finds request reply remote →
      plan = requireId remote >>= fun id => resource.amend overrides remote id) :
    plan.Guarded (resource.Updates overrides) (fun _ _ => True) [(request, reply)] := by
  have follows : plan.Guarded (fun own => resource.Updates overrides ([(request, reply)] ++ own))
      (fun _ _ => True) [] := by
    by_cases found : ∃ remote, resource.Finds request reply remote
    · obtain ⟨remote, finds⟩ := found
      rw [amends remote finds]
      apply Plan.guarded_requireId
      intro id identified
      apply (guarded_amend valid (Json.isObject_of_id? identified) overrides id).weaken
      intro own next admitted other finds'
      obtain rfl := finds.unique finds'
      exact ⟨id, identified, admitted⟩
    · apply (Plan.guarded_true plan []).weaken
      exact fun own next _ remote finds => absurd ⟨remote, finds⟩ found
  have whole : plan.Guarded (resource.Updates overrides) (fun _ _ => True)
      ([(request, reply)] ++ []) := follows.after
  rwa [List.append_nil] at whole

/-- An update keeps to what it may send, whatever is answered. -/
theorem guarded_update (valid : resource.check = .ok ()) (overrides : Overrides) :
    (resource.update overrides).Guarded (resource.Updates overrides) (fun _ _ => True) [] := by
  rw [update_eq valid]
  by_cases byName : resource.ByName
  · rw [find_eq byName, findUnique_bind]
    refine ⟨trivial, fun reply => guarded_found valid fun remote finds => ?_⟩
    obtain ⟨_, read, -⟩ | ⟨_, _, -, alone⟩ := finds.cases
    · cases read
    · rw [namesakes] at alone
      dsimp only
      rw [alone]
  · cases resource with
    | chart c =>
        obtain ⟨id, own⟩ : ∃ id, c.id = some id := Option.ne_none_iff_exists'.mp byName
        show Plan.Guarded _ _ (Chart.find c >>= _) _
        rw [Chart.find, own]
        refine ⟨trivial, fun reply => guarded_found valid fun remote finds => ?_⟩
        obtain ⟨_, -, rfl⟩ | ⟨_, _, searched, -⟩ := finds.cases
        · rfl
        · cases searched
    | dashboard | group | detector => exact absurd trivial byName

/-- What comes after the stored resource was found is what an amendment may send. -/
theorem amends_of_found {σ : Type} {server : Server σ} {answer : Question → Bool} {state : σ}
    (valid : resource.check = .ok ()) {request next : Request} {reply : Json}
    (found : resource.Finds request reply remote) {before after : Trace}
    {outcome : Except Fault Json} (split : (resource.update overrides).trace server answer state =
      (request, .ok reply) :: before ++ (next, outcome) :: after) :
    ∃ (own : History) (id : String), before = own.trace ∧ remote.id? = some id ∧
      resource.Amends overrides remote id own next := by
  obtain ⟨earlier, same, admitted⟩ := (guarded_update valid overrides).admits split
  cases earlier with
  | nil => cases same
  | cons first own =>
      obtain ⟨first, answered⟩ := first
      obtain ⟨isFirst, rfl⟩ := List.cons.inj same
      obtain ⟨rfl, isReply⟩ := Prod.mk.inj isFirst
      obtain rfl := Except.ok.inj isReply
      obtain ⟨id, identified, amends⟩ := admitted remote found
      exact ⟨own, id, rfl, identified, amends⟩

/-- What is reconciled is no description. -/
theorem Reconciled.get?_description {own : History} {reconciled : Table Json}
    (told : resource.Reconciled remote id own reconciled) :
    reconciled.get? "description" = none := by
  cases told <;> rfl

/-- An update that found the stored resource replaces it once, at the end, whatever the API answers
on the way. The document it sends is an object that has for every key the override, or else what the
exchanges since the resource was found tell to be reconciled, or else what is local, or else what is
stored. So no field that is stored is dropped, and a description that is not set locally is kept. -/
theorem update_overlays {σ : Type} (server : Server σ) (answer : Question → Bool) (state : σ)
    (resource : Resource) (valid : resource.check = .ok ()) (overrides : Overrides)
    {request : Request} {reply remote : Json} (found : resource.Finds request reply remote)
    {before after : Trace} {id : String} {body : Json} {outcome : Except Fault Json}
    (split : (resource.update overrides).trace server answer state =
      (request, .ok reply) :: before ++ (.put (resource.kind.path id) body, outcome) :: after) :
    after = [] ∧ remote.id? = some id ∧ ∃ (own : History) (reconciled : Table Json),
      before = own.trace ∧ resource.Reconciled remote id own reconciled ∧
      resource.Overlaid overrides remote reconciled body ∧
      (∀ key, (remote.get? key).isSome → (body.get? key).isSome) ∧
      (overrides.description = none → resource.local? "description" = none →
        body.get? "description" = remote.get? "description") := by
  obtain ⟨own, id', rfl, identified, amends⟩ := amends_of_found valid found split
  obtain ⟨rfl, reconciled, told, overlaid⟩ := amends.body id body rfl
  refine ⟨?_, identified, own, reconciled, rfl, told, overlaid, fun key => overlaid.isSome_get?, ?_⟩
  · cases after with
    | nil => rfl
    | cons next rest =>
        -- A request after the last one would follow on a document that was written already.
        have split' : (resource.update overrides).trace server answer state =
            (request, .ok reply) :: (own.trace ++ [(.put (resource.kind.path id) body, outcome)])
              ++ (next.1, next.2) :: rest := by simpa using split
        obtain ⟨later, _, same, -, amends'⟩ := amends_of_found valid found split'
        have written : (.put (resource.kind.path id) body, outcome) ∈ later.trace := by
          simp [← same]
        obtain ⟨_, -, member⟩ := History.mem_trace.mp written
        exact absurd rfl (amends'.unwritten _ member id body)
  · intro noText notLocal
    rw [overlaid.get?_eq, told.get?_description, notLocal, Overrides.text?, if_neg (by decide),
      if_pos rfl, noText]
    rfl

/-- One chart of the stored dashboard is kept, one is deleted and one is added below. The
description is overridden, the group stays. -/
theorem update_overlays_newBoard :
    let board : Resource := .dashboard Dashboard.newBoard
    let dropped := Store.placedEntry (.str "id-2") 0
    let kept := Store.placedEntry (.str "id-3") 1
    let remote : Json := .record [("charts", some (.arr [dropped, kept])),
      ("groupId", some (.str "id-1")), ("id", some (.str "id-4")), ("name", some (.str "board"))]
    let body : Json := .record [("charts", some (.arr [kept, Layout.added "id-5" 3])),
      ("description", some (.str "new")), ("groupId", some (.str "id-1")),
      ("id", some (.str "id-4")), ("name", some (.str "board"))]
    let trace := (board.update { description := some "new" }).trace Store.server (fun _ => false)
      Dashboard.oldStore
    board.Finds board.lookup (.arr [remote]) remote ∧
      trace = (board.lookup, .ok (.arr [remote])) :: (trace.drop 1).take 6 ++
        [(.put (board.kind.path "id-4") body, .ok body)] ∧
      ∃ own reconciled, (trace.drop 1).take 6 = History.trace own ∧
        board.Reconciled remote "id-4" own reconciled ∧
        board.Overlaid { description := some "new" } remote reconciled body := by
  intro board dropped kept remote body trace
  have byName : board.ByName := trivial
  have found : board.Finds board.lookup (.arr [remote]) remote :=
    .named byName (by decide +kernel)
  have split : trace = (board.lookup, .ok (.arr [remote])) :: (trace.drop 1).take 6 ++
      [(.put (board.kind.path "id-4") body, .ok body)] := by decide +kernel
  obtain ⟨-, -, own, reconciled, same, told, overlaid, -⟩ :=
    update_overlays Store.server (fun _ => false) Dashboard.oldStore board (by decide) _ found split
  exact ⟨found, split, own, reconciled, same, told, overlaid⟩

end Resource

end SignalBoard
