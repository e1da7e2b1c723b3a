/-
# Dry runs over any server

Whatever is asked of a dry run, the server under it is only searched and read. What the run shows at
a path can be told from its exchanges: a document is there if one of them created it and none of
those that follow deleted it, and it is what the last exchange that set it made it, but that the
list of a group goes on with the dashboards that were copied into the group since. Both follow by
induction on the requests from what a single one does.
-/

import Mathlib.Data.List.Induction
import SignalBoard.Proofs.DryRun.Linked
import SignalBoard.Proofs.Plan.Interrupted

namespace SignalBoard.DryRun

variable {σ : Type}

/-! ## What a trace tells of a path -/

/-- A document was created at the path and not deleted since. -/
def Stands (path : String) (trace : Trace) : Prop :=
  ∃ before exchange since, trace = before ++ exchange :: since ∧
    (∃ document, Creates exchange path document) ∧ ∀ other ∈ since, other.1 ≠ .delete path

/-- The last exchange that created or replaced the document at the path made it the base, and the
others have followed since. -/
def LastSet (path : String) (trace : Trace) (base : Json) (since : Trace) : Prop :=
  ∃ before exchange, trace = before ++ exchange :: since ∧ Sets path exchange base ∧
    ∀ other ∈ since, ∀ document, ¬ Sets path other document

variable {path : String} {trace since : Trace} {exchange : Exchange} {base document : Json}

theorem not_stands_nil (path : String) : ¬ Stands path [] := by
  rintro ⟨before, exchange, since, empty, -⟩
  simp at empty

/-- One more exchange creates the document, or leaves it where it was. -/
theorem stands_concat :
    Stands path (trace ++ [exchange]) ↔
      (∃ document, Creates exchange path document) ∨
        Stands path trace ∧ exchange.1 ≠ .delete path := by
  constructor
  · rintro ⟨before, creation, since, whole, creates, kept⟩
    obtain ⟨rfl, rfl, rfl⟩ | ⟨earlier, rfl, rfl⟩ := append_cons_eq_concat.mp whole
    · exact .inl creates
    · exact .inr ⟨⟨before, creation, earlier, rfl, creates,
        fun other member => kept other (List.mem_append_left _ member)⟩, kept exchange (by simp)⟩
  · rintro (creates | ⟨⟨before, creation, since, rfl, creates, kept⟩, last⟩)
    · exact ⟨trace, exchange, [], rfl, creates, nofun⟩
    · refine ⟨before, creation, since ++ [exchange], by simp, creates, fun other member => ?_⟩
      obtain earlier | here := List.mem_append.mp member
      · exact kept other earlier
      · exact List.mem_singleton.mp here ▸ last

/-- One more exchange sets the document, or follows the one that did. -/
theorem lastSet_concat :
    LastSet path (trace ++ [exchange]) base since ↔
      (since = [] ∧ Sets path exchange base) ∨
        ∃ earlier, since = earlier ++ [exchange] ∧ LastSet path trace base earlier ∧
          ∀ document, ¬ Sets path exchange document := by
  constructor
  · rintro ⟨before, setting, whole, sets, unset⟩
    obtain ⟨rfl, rfl, rfl⟩ | ⟨earlier, rfl, rfl⟩ := append_cons_eq_concat.mp whole
    · exact .inl ⟨rfl, sets⟩
    · exact .inr ⟨earlier, rfl, ⟨before, setting, rfl, sets,
        fun other member => unset other (List.mem_append_left _ member)⟩, unset exchange (by simp)⟩
  · rintro (⟨rfl, sets⟩ | ⟨earlier, rfl, ⟨before, setting, rfl, sets, unset⟩, last⟩)
    · exact ⟨trace, exchange, rfl, sets, nofun⟩
    · refine ⟨before, setting, by simp, sets, fun other member => ?_⟩
      obtain before' | here := List.mem_append.mp member
      · exact unset other before'
      · exact List.mem_singleton.mp here ▸ last

/-- What stands was set at some time. -/
theorem Stands.exists_lastSet (stands : Stands path trace) :
    ∃ base since, LastSet path trace base since := by
  induction trace using List.reverseRecOn with
  | nil => exact absurd stands (not_stands_nil path)
  | append_singleton trace exchange ih =>
      by_cases sets : ∃ document, Sets path exchange document
      case pos =>
        obtain ⟨document, sets⟩ := sets
        exact ⟨document, [], lastSet_concat.mpr (.inl ⟨rfl, sets⟩)⟩
      case neg =>
        have unset : ∀ document, ¬ Sets path exchange document := not_exists.mp sets
        obtain ⟨document, creates⟩ | ⟨before, -⟩ := stands_concat.mp stands
        · exact absurd (.created creates) (unset document)
        · obtain ⟨base, since, last⟩ := ih before
          exact ⟨base, since ++ [exchange], lastSet_concat.mpr (.inr ⟨since, rfl, last, unset⟩)⟩

/-! ## What the run keeps -/

/-- The run keeps what the trace tells, and nothing else. -/
structure Tracks (run : DryRun) (trace : Trace) : Prop where
  objects : run.Objects
  answered : ∀ exchange ∈ trace, Answered exchange
  planned : run.planned = (trace.map Prod.fst).filter (·.mutates)
  handed : trace.flatMap handedOut = idents 1 run.allocated
  kept : ∀ path base since, Stands path trace → LastSet path trace base since →
    ∃ document, run.synthetic.get? path = some document ∧
      Gains (since.flatMap (residents path)) base document
  absent : ∀ path, ¬ Stands path trace → run.synthetic.get? path = none

theorem tracks_empty : Tracks {} [] where
  objects _ _ found := nomatch found
  answered _ member := nomatch member
  planned := rfl
  handed := rfl
  kept path _ _ stands := absurd stands (not_stands_nil path)
  absent _ _ := rfl

variable {inner : Server σ} {before after : σ × DryRun}

/-- What stands is kept. -/
theorem Tracks.isSome (tracks : Tracks before.2 trace) (stands : Stands path trace) :
    (before.2.synthetic.get? path).isSome := by
  obtain ⟨base, since, last⟩ := stands.exists_lastSet
  obtain ⟨document, found, -⟩ := tracks.kept path base since stands last
  rw [found]
  rfl

/-- One step: the run keeps what the longer trace tells. -/
theorem Tracks.step (tracks : Tracks before.2 trace) (step : Step inner exchange before after) :
    Tracks after.2 (trace ++ [exchange]) := by
  constructor
  case objects => exact step.objects
  case answered =>
    intro other member
    obtain earlier | last := List.mem_append.mp member
    · exact tracks.answered other earlier
    · exact List.mem_singleton.mp last ▸ step.answered
  case planned =>
    rw [step.planned, tracks.planned, List.map_append, List.filter_append]
    rfl
  case handed =>
    obtain ⟨count, handed, allocated⟩ := step.handed
    rw [List.flatMap_append, tracks.handed, allocated, idents_add, Nat.add_comm 1, ← handed]
    simp
  case kept =>
    intro path base since stands last
    obtain ⟨rfl, sets⟩ | ⟨earlier, rfl, last, unset⟩ := lastSet_concat.mp last
    · -- A replacement only reaches the run where something stands already.
      cases sets with
      | created creates => exact ⟨base, step.created path base creates, .refl base⟩
      | replaced body outcome =>
          obtain ⟨document, creates⟩ | ⟨stood, -⟩ := stands_concat.mp stands
          · cases creates
          · exact ⟨_, step.replaced path body rfl (tracks.isSome stood), .refl _⟩
    · obtain ⟨document, creates⟩ | ⟨stood, undeleted⟩ := stands_concat.mp stands
      · exact absurd (.created creates) (unset document)
      · obtain ⟨old, there, gained⟩ := tracks.kept path base earlier stood last
        obtain ⟨new, here, gains⟩ := step.stays path unset undeleted old there
        refine ⟨new, here, ?_⟩
        rw [List.flatMap_append, List.flatMap_singleton]
        exact gained.trans gains
  case absent =>
    intro path gone
    rw [stands_concat, not_or] at gone
    by_cases deleted : exchange.1 = .delete path
    · exact step.deleted path deleted
    · have stood : ¬ Stands path trace := fun stands => gone.2 ⟨stands, deleted⟩
      exact step.absent path (fun document creates => gone.1 ⟨document, creates⟩)
        (tracks.absent path stood)

/-! ## Dry runs of any length -/

theorem documents_recorded (documents : inner.Documents) : inner.recorded.Documents :=
  fun path state => documents path state.1

/-- A dry run over a server that keeps a record, from its beginning: what it comes to, and the trace
of its requests. -/
def session (inner : Server σ) (origin : σ) (requests : List Request) :
    ((σ × List Request) × DryRun) × Trace :=
  (server inner.recorded).logged.after requests (((origin, []), {}), [])

/-- The server that answers everything with an empty object. -/
def blank : Server Unit := fun _ state => (.ok (.obj []), state)

theorem documents_blank : blank.Documents := by
  rintro path state reply same
  cases same
  rfl

/-- The record of the other server holds searches and readings, and the run keeps what the trace
tells. -/
theorem session_tracks (documents : inner.Documents) (origin : σ) {requests : List Request}
    (formed : ∀ request ∈ requests, request.WellFormed) :
    let ((served, run), trace) := session inner origin requests
    trace.map Prod.fst = requests ∧ (∀ request ∈ served.2, request.mutates = false) ∧
      Tracks run trace := by
  let invariant (sent : List Request) (after : ((σ × List Request) × DryRun) × Trace) : Prop :=
    after.2.map Prod.fst = sent ∧ (∀ request ∈ after.1.1.2, request.mutates = false) ∧
      Tracks after.1.2 after.2
  have steps : ∀ request ∈ requests, ∀ sent after, invariant sent after →
      invariant (sent ++ [request]) ((server inner.recorded).logged request after).2 := by
    rintro request member sent ⟨⟨served, run⟩, trace⟩ ⟨rfl, reads, tracks⟩
    let answered := server inner.recorded request (served, run)
    have step : Step inner.recorded (request, answered.1) (served, run) answered.2 :=
      server_step (documents_recorded documents) tracks.objects (formed request member)
    refine ⟨List.map_append, fun other recorded => ?_, Tracks.step tracks step⟩
    change other ∈ answered.2.1.2 at recorded
    obtain same | ⟨asked, read, same⟩ := step.inner
    · rw [same] at recorded
      exact reads other recorded
    · rw [same] at recorded
      obtain earlier | last := List.mem_append.mp recorded
      · exact reads other earlier
      · exact List.mem_singleton.mp last ▸ read
  have start : invariant [] (((origin, []), {}), []) := ⟨rfl, nofun, tracks_empty⟩
  exact Server.after_keeps steps start

/-- The dry run has left the server under it alone and answers like a sheet over it. -/
structure Inert (inner : Server σ) (requests : List Request) (state : (σ × List Request) × DryRun)
    (trace : Trace) : Prop where
  sent : trace.map Prod.fst = requests
  /-- The other server was only searched and read. -/
  untouched : ∀ request ∈ state.1.2, request.mutates = false
  answered : ∀ exchange ∈ trace, Answered exchange
  planned : state.2.planned = requests.filter (·.mutates)
  /-- Identifiers are given one after the other, and none twice. -/
  handed : trace.flatMap handedOut = idents 1 state.2.allocated
  set : ∀ path, Stands path trace → ∃ base since, LastSet path trace base since
  /-- What stands is shown as it was last set, but that the list of a group goes on. The other
  server is not asked. -/
  shown : ∀ path base since, Stands path trace → LastSet path trace base since →
    ∃ document, server inner.recorded (.get path) state = (.ok document, state) ∧
      Gains (since.flatMap (residents path)) base document
  /-- What does not stand is read from the other server. -/
  passed : ∀ path, ¬ Stands path trace →
    server inner.recorded (.get path) state =
      let (reply, after) := inner (.get path) state.1.1
      (reply, ((after, state.1.2 ++ [.get path]), state.2))

/-- A dry run is an inert overlay: over any server whose documents are objects, whatever was
requested before. -/
theorem session_inert (documents : inner.Documents) (origin : σ) {requests : List Request}
    (formed : ∀ request ∈ requests, request.WellFormed) :
    let (state, trace) := session inner origin requests
    Inert inner requests state trace := by
  obtain ⟨sent, untouched, tracks⟩ := session_tracks documents origin formed
  constructor
  case sent => exact sent
  case untouched => exact untouched
  case answered => exact tracks.answered
  case planned => rw [tracks.planned, sent]
  case handed => exact tracks.handed
  case set => exact fun path stands => stands.exists_lastSet
  case shown =>
    intro path base since stands last
    obtain ⟨document, found, gains⟩ := tracks.kept path base since stands last
    exact ⟨document, server_get_kept _ _ found, gains⟩
  case passed =>
    intro path gone
    exact server_get_passed _ _ (tracks.absent path gone)

theorem session_inert_board :
    let requests : List Request :=
      [.post "/dashboard/simple" [("name", "board")] (.arr [.obj []]),
        .delete "/dashboard/dry-run-3"]
    let (state, trace) := session blank () requests
    blank.Documents ∧ (∀ request ∈ requests, request.WellFormed) ∧
      Inert blank requests state trace := by
  intro requests
  have formed : ∀ request ∈ requests, request.WellFormed := by
    simp [requests, Request.WellFormed, Json.isObject]
  exact ⟨documents_blank, formed, session_inert documents_blank () formed⟩

/-- A group that was replaced by a document without a list does not list what is copied into it. -/
theorem not_listed_team :
    let path := "/dashboardgroup/dry-run-1"
    let requests : List Request :=
      [.post "/dashboard/simple" [("name", "board")] (.arr []),
        .put path (.obj [("name", .str "team")]),
        .post "/dashboardgroup/dry-run-1/dashboard" []
          (.obj [("sourceDashboard", .str "dry-run-2")])]
    let (state, trace) := session blank () requests
    blank.Documents ∧ (∀ request ∈ requests, request.WellFormed) ∧ Stands path trace ∧
      ∃ base since document, LastSet path trace base since ∧
        since.flatMap (residents path) = ["dry-run-3"] ∧
        server blank.recorded (.get path) state = (.ok document, state) ∧
        "dry-run-3" ∉ DashboardGroup.members document := by
  intro path requests
  let board (id : String) : Json := .obj [("charts", .arr []), ("groupId", .str "dry-run-1"),
    ("id", .str id), ("name", .str "board")]
  let team (more : Table Json) : Json :=
    .obj (more ++ [("id", .str "dry-run-1"), ("name", .str "team")])
  have formed : ∀ request ∈ requests, request.WellFormed := by
    simp [requests, Request.WellFormed, Json.isObject]
  have traced : (session blank () requests).2 =
      requests.zip [.ok (board "dry-run-2"), .ok (team []), .ok (board "dry-run-3")] := by
    decide +kernel
  have shown : server blank.recorded (.get path) (session blank () requests).1 =
      (.ok (team [("dashboards", .null)]), (session blank () requests).1) := by
    decide +kernel
  have creates : Creates (.post "/dashboard/simple" [("name", "board")] (.arr []),
      .ok (board "dry-run-2")) (Kind.group.path "dry-run-1") _ := .group rfl rfl
  have stands : Stands path (session blank () requests).2 := by
    rw [traced]
    exact ⟨[], _, _, rfl, ⟨_, creates⟩, by decide⟩
  have last : LastSet path (session blank () requests).2
      ((Json.obj [("name", .str "team")]).withField "id" (.str (Store.lastSegment path)))
      [(requests[2], .ok (board "dry-run-3"))] := by
    rw [traced]
    refine ⟨[_], _, rfl, .replaced _ _, fun other member document sets => ?_⟩
    obtain rfl := List.mem_singleton.mp member
    obtain ⟨creates⟩ := sets
    obtain ⟨id, -, same, -⟩ := creates.of_clone rfl
    have apart : Kind.group.path "dry-run-1" ≠ Kind.dashboard.path id :=
      Kind.path_ne (by decide) _ _
    exact apart same
  exact ⟨documents_blank, formed, stands, _, _, _, last, rfl, shown, by decide⟩

end SignalBoard.DryRun
