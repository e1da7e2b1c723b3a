/-
# Answers of a dry run

What a dry run answers over a store, and what it notes. The store it runs over is left as it is
whatever is asked. Documents of the run itself are kept under identifiers of its own, so a path
under which a store keeps something leads to the store.
-/

import SignalBoard.Proofs.DryRun.Renaming
import SignalBoard.Proofs.Store.Creation

namespace SignalBoard.DryRun

variable {α β : Type} {σ : Type}

/-- What an action comes to, and what it leaves. -/
def perform (action : Action σ α) (state : σ × DryRun) : Except Fault α × (σ × DryRun) :=
  action.run.run state

theorem server_eq_perform (inner : Server σ) (request : Request) (state : σ × DryRun) :
    server inner request state = perform (answer inner request) state := rfl

@[simp] theorem perform_pure (value : α) (state : σ × DryRun) :
    perform (pure value) state = (.ok value, state) := rfl

/-- Consecutive actions: a fault of the first one ends both. -/
@[simp] theorem perform_bind (action : Action σ α) (next : α → Action σ β) (state : σ × DryRun) :
    perform (action >>= next) state =
      match perform action state with
      | (.ok value, after) => perform (next value) after
      | (.error fault, after) => (.error fault, after) := by
  simp only [perform, ExceptT.run_bind, StateT.run_bind]
  rcases action.run.run state with ⟨reply | reply, after⟩ <;> rfl

@[simp] theorem perform_get (state : σ × DryRun) :
    perform (get : Action σ (σ × DryRun)) state = (.ok state, state) := rfl

@[simp] theorem perform_set (after state : σ × DryRun) :
    perform (set after : Action σ Unit) state = (.ok (), after) := rfl

@[simp] theorem perform_note (change : DryRun → DryRun) (state : σ × DryRun) :
    perform (note change : Action σ Unit) state = (.ok (), (state.1, change state.2)) := rfl

/-- Assigning to a key of an object. -/
theorem perform_assign {document : Json} (object : document.isObject = true) (key : String)
    (value : Json) (state : σ × DryRun) :
    perform (assign key value document) state = (.ok (document.withField key value), state) := by
  rw [assign, Json.assign_eq object]
  rfl

/-- Passing a request on. -/
theorem perform_passOn (inner : Server σ) (request : Request) (state : σ × DryRun) :
    perform (passOn inner request) state =
      ((inner request state.1).1, ((inner request state.1).2, state.2)) := by
  simp only [passOn, perform_bind, perform_get, perform_set]
  rcases inner request state.1 with ⟨fault | reply, after⟩ <;> rfl

/-- The dry run with one more identifier given away and a document kept under it. -/
def held (run : DryRun) (endpoint : String) (document : Json) : DryRun :=
  { run with
    allocated := run.allocated + 1
    synthetic := run.synthetic.insert (endpoint ++ "/" ++ ident (run.allocated + 1)) document }

/-- Adding an object. -/
theorem perform_add {document : Json} (object : document.isObject = true) (endpoint : String)
    (state : σ) (run : DryRun) :
    perform (add endpoint document) (state, run) =
      (.ok (document.withField "id" (.str (ident (run.allocated + 1)))),
        (state,
          run.held endpoint (document.withField "id" (.str (ident (run.allocated + 1)))))) := by
  have id : "dry-run-" ++ String.ofList (natText (run.allocated + 1)) =
    ident (run.allocated + 1) := rfl
  simp only [add, perform_bind, perform_note, perform_get, id, perform_assign object,
    perform_pure]
  rfl

/-- Every document of the run is kept under an identifier of the run. -/
def Apart (run : DryRun) : Prop :=
  ∀ path document, run.synthetic.get? path = some document →
    ∃ endpoint n, path = endpoint ++ "/" ++ ident n

theorem apart_empty : Apart {} := fun _ _ found => nomatch found

theorem Apart.held {run : DryRun} (apart : run.Apart) (endpoint : String) (document : Json) :
    (run.held endpoint document).Apart := by
  intro path other found
  rw [DryRun.held, Table.get?_insert] at found
  split at found
  case isTrue here => exact ⟨endpoint, _, here⟩
  case isFalse elsewhere => exact apart path other found

/-- What a store keeps is not kept by the run. -/
theorem Apart.get?_eq_none {run : DryRun} (apart : run.Apart) {store : Store}
    (sound : store.Sound) {path : String} {document : Json}
    (stored : store.documents.get? path = some document) : run.synthetic.get? path = none := by
  cases found : run.synthetic.get? path with
  | none => rfl
  | some other =>
      obtain ⟨endpoint, n, here⟩ := apart path other found
      obtain ⟨endpoint', m, there, -⟩ := sound.issued path document stored
      have same := congrArg Store.lastSegment (here.symm.trans there)
      rw [Store.lastSegment_append endpoint (slash_not_mem_ident n),
        Store.lastSegment_append endpoint' (Store.slash_not_mem_ident m)] at same
      exact absurd same (ident_ne n m)

/-- The run with one more request noted. -/
def noted (run : DryRun) (request : Request) : DryRun :=
  { run with planned := run.planned ++ [request] }

/-- A request that would change something is noted before anything else. -/
theorem server_of_mutates (inner : Server σ) {request : Request} (mutates : request.mutates = true)
    (state : σ) (run : DryRun) :
    server inner request (state, run) = perform
      (match request with
        | .post path query body => post inner path query body
        | .put path body => put path body
        | .delete path => do
            note fun run => { run with synthetic := run.synthetic.erase path }
            return .null
        | _ => return .null) (state, run.noted request) := by
  cases request with
  | search | get => cases mutates
  | post | put | delete => rfl

/-- Reading a document: what the run does not keep is read from the other server. -/
theorem perform_fetch (inner : Server σ) (path : String) (state : σ) (run : DryRun) :
    perform (fetch inner path) (state, run) =
      match run.synthetic.get? path with
      | some document => (.ok document, (state, run))
      | none => ((inner (.get path) state).1, ((inner (.get path) state).2, run)) := by
  simp only [fetch, perform_bind, perform_get]
  cases run.synthetic.get? path with
  | some document => rfl
  | none => exact perform_passOn ..

/-- What is kept of a document that is created at a path of no special meaning, but for its
identifier. -/
def made (path : String) (query : List (String × String)) (body : Json) : Json :=
  let named := body.withText? "name" (Request.nameIn? query)
  if path = Kind.group.endpoint then named.withField "dashboards" (.arr []) else named

theorem isObject_made (path : String) (query : List (String × String)) (body : Json) :
    (made path query body).isObject = body.isObject := by
  unfold made
  split <;> simp

/-- Creating at a path of no special meaning. -/
theorem perform_post {path : String} (notSimple : path ≠ "/dashboard/simple")
    (notClone : Request.cloneTarget? path = none) (inner : Server σ)
    (query : List (String × String)) {body : Json} (object : body.isObject = true) (state : σ)
    (run : DryRun) :
    let document := (made path query body).withField "id" (.str (ident (run.allocated + 1)))
    perform (post inner path query body) (state, run) =
      (.ok document, (state, run.held path document)) := by
  intro document
  have whole : (made path query body).isObject = true := (isObject_made ..).trans object
  have adds : perform (add path (made path query body)) (state, run) =
      (.ok document, (state, run.held path document)) := perform_add whole ..
  rw [← adds]
  simp only [post, if_neg notSimple, notClone, made]
  by_cases isGroup : path = Kind.group.endpoint
  · simp only [if_pos isGroup]
    cases Request.nameIn? query with
    | none => simp only [perform_bind, perform_pure, perform_assign object, Json.withText?]
    | some name =>
        have named : (body.withField "name" (.str name)).isObject = true := by simpa
        simp only [perform_bind, perform_assign object, perform_assign named, Json.withText?]
  · simp only [if_neg isGroup]
    cases Request.nameIn? query with
    | none => simp only [perform_bind, perform_pure, Json.withText?]
    | some name => simp only [perform_bind, perform_pure, perform_assign object, Json.withText?]

/-- The run with the document at a path replaced, if it keeps one there. -/
def revised (run : DryRun) (path : String) (document : Json) : DryRun :=
  if run.synthetic.has path then { run with synthetic := run.synthetic.insert path document }
  else run

/-- Replacing a document: the identifier of the reply is the one in the path. -/
theorem perform_put (path : String) {body : Json} (object : body.isObject = true) (state : σ)
    (run : DryRun) :
    let document := body.withField "id" (.str (Store.lastSegment path))
    perform (put path body) (state, run) = (.ok document, (state, run.revised path document)) := by
  intro document
  have last : String.ofList ((Text.fields '/' path.toList).getLastD []) =
    Store.lastSegment path := rfl
  simp only [put, last, perform_bind, perform_assign object, perform_get, revised]
  cases run.synthetic.has path <;> rfl

/-- The identifiers of a number of consecutive additions. -/
def idents (first count : Nat) : List String := (List.range' first count).map ident

theorem length_idents (first count : Nat) : (idents first count).length = count := by
  simp [idents]

theorem idents_add (first count more : Nat) :
    idents first (count + more) = idents first count ++ idents (first + count) more := by
  rw [idents, ← List.range'_append_1, List.map_append]
  rfl

theorem idents_succ (first count : Nat) :
    idents first (count + 1) = ident first :: idents (first + 1) count := by
  rw [Nat.add_comm, idents_add]
  rfl

/-- The run with a chart added. -/
def withChart (run : DryRun) (chart : Json) : DryRun :=
  run.held Kind.chart.endpoint (chart.withField "id" (.str (ident (run.allocated + 1))))

/-- Adding charts: each gets the next identifier of the run. -/
theorem perform_addCharts {charts : List Json} (objects : ∀ chart ∈ charts, chart.isObject = true)
    (place : Nat) (state : σ) (run : DryRun) :
    perform (addCharts place charts) (state, run) =
      (.ok (Store.placedEntries (idents (run.allocated + 1) charts.length) place),
        (state, charts.foldl withChart run)) := by
  induction charts generalizing place run with
  | nil => rfl
  | cons chart rest ih =>
      have object := objects chart List.mem_cons_self
      have later := ih (fun other member => objects other (.tail _ member)) (place + 1)
        (run.withChart chart)
      have first : perform (add Kind.chart.endpoint chart) (state, run) =
          (.ok (chart.withField "id" (.str (ident (run.allocated + 1)))),
            (state, run.withChart chart)) := perform_add object ..
      have field : (chart.withField "id" (.str (ident (run.allocated + 1)))).field "id" =
          .str (ident (run.allocated + 1)) :=
        Json.field_of_get? (Json.Stamped.withField_id object _).get?_id
      have ids : idents (run.allocated + 1) (chart :: rest).length =
          ident (run.allocated + 1) :: idents ((run.withChart chart).allocated + 1) rest.length :=
        idents_succ ..
      simp only [addCharts, perform_bind, first, later, perform_pure, field, ids,
        Store.placedEntries, List.foldl_cons]

theorem planned_withCharts (charts : List Json) (run : DryRun) :
    (charts.foldl withChart run).planned = run.planned := by
  induction charts generalizing run with
  | nil => rfl
  | cons chart rest ih => exact ih (run.withChart chart)

theorem allocated_withCharts (charts : List Json) (run : DryRun) :
    (charts.foldl withChart run).allocated = run.allocated + charts.length := by
  induction charts generalizing run with
  | nil => rfl
  | cons chart rest ih =>
      have later := ih (run.withChart chart)
      have first : (run.withChart chart).allocated = run.allocated + 1 := rfl
      rw [List.foldl_cons, later, first, List.length_cons]
      omega

theorem Apart.withCharts {run : DryRun} (apart : run.Apart) (charts : List Json) :
    (charts.foldl withChart run).Apart := by
  induction charts generalizing run with
  | nil => exact apart
  | cons chart rest ih => exact ih (apart.held _ _)

/-- The group that a dashboard is created with. It lists the dashboard from then on. -/
def simpleGroup (name : Option String) (groupId id : String) : Json :=
  ((Json.record [("name", some (nameDocument name)), ("dashboards", some (.arr []))]).withField "id"
    (.str groupId)).withField "dashboards" (.arr [.str id])

/-- The document of a dashboard that is created from charts. -/
def simpleDashboard (name : Option String) (groupId : String) (layout : List Json) (id : String) :
    Json :=
  (Json.record [("name", some (nameDocument name)), ("groupId", some (.str groupId)),
    ("charts", some (.arr layout))]).withField "id" (.str id)

/-- The run with a dashboard added, and before it its group and its charts. -/
def withSimple (run : DryRun) (name : Option String) (charts : List Json) : DryRun :=
  let groupId := ident (run.allocated + 1)
  let id := ident (run.allocated + charts.length + 2)
  let group := (Json.record [("name", some (nameDocument name)),
    ("dashboards", some (.arr []))]).withField "id" (.str groupId)
  let layout := Store.placedEntries (idents (run.allocated + 2) charts.length) 0
  let between := (charts.foldl withChart (run.held Kind.group.endpoint group)).held
    Kind.dashboard.endpoint (simpleDashboard name groupId layout id)
  { between with
    synthetic := between.synthetic.insert (Kind.group.path groupId) (simpleGroup name groupId id) }

/-- Creating a dashboard from charts: first its group gets an identifier of the run, then the
charts, then the dashboard. -/
theorem perform_addSimpleDashboard {charts : List Json}
    (objects : ∀ chart ∈ charts, chart.isObject = true) (name : Option String) (state : σ)
    (run : DryRun) :
    perform (addSimpleDashboard name charts) (state, run) =
      (.ok (simpleDashboard name (ident (run.allocated + 1))
          (Store.placedEntries (idents (run.allocated + 2) charts.length) 0)
          (ident (run.allocated + charts.length + 2))),
        (state, run.withSimple name charts)) := by
  let fields : Json :=
    .record [("name", some (nameDocument name)), ("dashboards", some (.arr []))]
  let group := fields.withField "id" (.str (ident (run.allocated + 1)))
  let first := run.held Kind.group.endpoint group
  have object : fields.isObject = true := (Json.isRecord_record _).isObject
  have stamped : group.Stamped (ident (run.allocated + 1)) := .withField_id object _
  have field : group.field "id" = .str (ident (run.allocated + 1)) :=
    Json.field_of_get? stamped.get?_id
  have adds : perform (add Kind.group.endpoint fields) (state, run) = (.ok group, (state, first)) :=
    perform_add object ..
  have number : (charts.foldl withChart first).allocated + 1 =
      run.allocated + charts.length + 2 := by
    have one : first.allocated = run.allocated + 1 := rfl
    rw [allocated_withCharts, one]
    omega
  let dashboard := simpleDashboard name (ident (run.allocated + 1))
    (Store.placedEntries (idents (run.allocated + 2) charts.length) 0)
    (ident (run.allocated + charts.length + 2))
  have addsLast : perform (add Kind.dashboard.endpoint (.record
      [("name", some (nameDocument name)), ("groupId", some (.str (ident (run.allocated + 1)))),
        ("charts", some (.arr
          (Store.placedEntries (idents (run.allocated + 2) charts.length) 0)))]))
      (state, charts.foldl withChart first) =
      (.ok dashboard,
        (state, (charts.foldl withChart first).held Kind.dashboard.endpoint dashboard)) := by
    rw [perform_add (Json.isRecord_record _).isObject, number]
    rfl
  have lastField : dashboard.field "id" = .str (ident (run.allocated + charts.length + 2)) :=
    Json.field_of_get? (Json.Stamped.withField_id (Json.isRecord_record _).isObject _).get?_id
  have addsCharts : perform (addCharts 0 charts) (state, first) =
      (.ok (Store.placedEntries (idents (run.allocated + 2) charts.length) 0),
        (state, charts.foldl withChart first)) := perform_addCharts objects 0 state first
  change perform (add Kind.group.endpoint fields >>= _) _ = _
  simp only [perform_bind, adds, addsCharts, field, addsLast, lastField, perform_assign stamped.1,
    perform_pure, keep, perform_note]
  simp only [Store.idOf, field, Json.string?]
  rfl

theorem planned_withSimple (run : DryRun) (name : Option String) (charts : List Json) :
    (run.withSimple name charts).planned = run.planned :=
  planned_withCharts charts _

theorem allocated_withSimple (run : DryRun) (name : Option String) (charts : List Json) :
    (run.withSimple name charts).allocated = run.allocated + (charts.length + 2) := by
  show (charts.foldl withChart (run.held _ _)).allocated + 1 = _
  rw [allocated_withCharts]
  show run.allocated + 1 + charts.length + 1 = _
  omega

theorem Apart.withSimple {run : DryRun} (apart : run.Apart) (name : Option String)
    (charts : List Json) : (run.withSimple name charts).Apart := by
  intro path document found
  rw [DryRun.withSimple, Table.get?_insert] at found
  split at found
  case isTrue here => exact ⟨Kind.group.endpoint, run.allocated + 1, here⟩
  case isFalse elsewhere =>
    exact ((apart.held _ _).withCharts charts).held _ _ path document found

section Requests

variable (origin : Store) (run : DryRun)

/-- A search is left to the store. -/
theorem server_search (kind : Kind) (name : String) :
    server Store.server (.search kind name) (origin, run) =
      ((Store.server (.search kind name) origin).1, (origin, run)) := by
  rw [server_eq_perform]
  change perform (passOn Store.server (.search kind name)) (origin, run) = _
  rw [perform_passOn]
  rfl

/-- Reading what the run does not keep is left to the store. -/
theorem server_get {run : DryRun} {path : String} (absent : run.synthetic.get? path = none) :
    server Store.server (.get path) (origin, run) =
      ((Store.server (.get path) origin).1, (origin, run)) := by
  rw [server_eq_perform]
  change perform (fetch Store.server path) (origin, run) = _
  have still : (Store.server (.get path) origin).2 = origin := by
    rw [Store.server_eq_perform, Store.answer, Store.fetch_snd]
  simp only [fetch, perform_bind, perform_get, absent, perform_passOn, still]

/-- What a request leaves in a dry run: it is noted if it would change something, and a number of
identifiers are given. -/
structure Notes (request : Request) (given : Nat) (before after : DryRun) : Prop where
  planned : after.planned = before.planned ++ [request].filter (·.mutates)
  allocated : after.allocated = before.allocated + given
  apart : before.Apart → after.Apart

/-- A request that changes nothing leaves nothing. -/
theorem notes_nothing {request : Request} (reads : request.mutates = false) (run : DryRun) :
    Notes request 0 run run :=
  ⟨by simp [reads], rfl, fun apart => apart⟩

/-- A chart or a detector is only noted, with an identifier of the run. -/
theorem server_post {endpoint : String}
    (plain : endpoint ∈ [Kind.chart.endpoint, Kind.detector.endpoint]) {body : Json}
    (object : body.isObject = true) :
    ∃ after, server Store.server (.post endpoint [] body) (origin, run) =
        (.ok (body.withField "id" (.str (ident (run.allocated + 1)))), (origin, after)) ∧
      Notes (.post endpoint [] body) 1 run after := by
  have notSimple : endpoint ≠ "/dashboard/simple" := by
    rintro rfl
    exact absurd plain (by decide)
  have notGroup : endpoint ≠ Kind.group.endpoint := by
    rintro rfl
    exact absurd plain (by decide)
  have notClone : Request.cloneTarget? endpoint = none := by
    simp only [List.mem_cons, List.not_mem_nil, or_false] at plain
    rcases plain with rfl | rfl <;> decide
  have plainly : made endpoint [] body = body := if_neg notGroup
  refine ⟨(run.noted (.post endpoint [] body)).held endpoint
    (body.withField "id" (.str (ident (run.allocated + 1)))), ?_, rfl, rfl, ?_⟩
  · rw [server_of_mutates Store.server rfl, perform_post notSimple notClone _ _ object, plainly]
    rfl
  · exact fun apart => Apart.held (apart : (run.noted _).Apart) _ _

/-- A replacement is only noted. The identifier of the reply is the one in the path. -/
theorem server_put (path : String) {body : Json} (object : body.isObject = true) :
    ∃ after, server Store.server (.put path body) (origin, run) =
        (.ok (body.withField "id" (.str (Store.lastSegment path))), (origin, after)) ∧
      Notes (.put path body) 0 run after := by
  refine ⟨(run.noted (.put path body)).revised path
    (body.withField "id" (.str (Store.lastSegment path))), ?_, ?_⟩
  · rw [server_of_mutates Store.server rfl, perform_put path object]
  unfold revised
  split
  case isTrue has =>
    refine ⟨rfl, rfl, fun apart other document found => ?_⟩
    rw [Table.get?_insert] at found
    split at found
    case isTrue here =>
      obtain ⟨old, kept⟩ := Option.isSome_iff_exists.mp has
      exact apart other old (here ▸ kept)
    case isFalse elsewhere => exact apart other document found
  case isFalse => exact ⟨rfl, rfl, fun apart => apart⟩

/-- A deletion is only noted. -/
theorem server_delete (path : String) :
    ∃ after, server Store.server (.delete path) (origin, run) = (.ok .null, (origin, after)) ∧
      Notes (.delete path) 0 run after := by
  let between := run.noted (.delete path)
  refine ⟨{ between with synthetic := run.synthetic.erase path }, rfl, rfl, rfl, ?_⟩
  intro apart other document found
  rw [Table.get?_erase] at found
  split at found
  · cases found
  · exact apart other document found

/-- A dashboard that is created from charts is only noted, with identifiers of the run: first
one for its group, then those of the charts, then its own. -/
theorem server_post_simple {charts : List Json} (objects : ∀ chart ∈ charts, chart.isObject = true)
    (name : String) :
    ∃ after, server Store.server (.post "/dashboard/simple" [("name", name)] (.arr charts))
        (origin, run) =
        (.ok (Store.dashboardDocument name (ident (run.allocated + 1))
          (Store.placedEntries (idents (run.allocated + 2) charts.length) 0)
          (ident (run.allocated + charts.length + 2))), (origin, after)) ∧
      Notes (.post "/dashboard/simple" [("name", name)] (.arr charts)) (charts.length + 2)
        run after := by
  let between := run.noted (.post "/dashboard/simple" [("name", name)] (.arr charts))
  have named : Request.nameIn? [("name", name)] = some name := by simp [Request.nameIn?]
  have apart : run.Apart → between.Apart := fun apart => apart
  refine ⟨between.withSimple (some name) charts, ?_, planned_withSimple .., allocated_withSimple ..,
    fun before => (apart before).withSimple _ _⟩
  rw [server_of_mutates Store.server rfl]
  show perform (addSimpleDashboard (Request.nameIn? [("name", name)]) charts) _ = _
  rw [named]
  exact perform_addSimpleDashboard objects ..

end Requests

end SignalBoard.DryRun
