/-
# Every trace of an update is careful

What the calls of an update look like, for every API and every way it can answer or fail. A
dashboard is created only if none of its name was found; charts are deleted only if they were on
the layout of the one that was found and were read under a name that is not local; and once a chart
was deleted, nothing is left to do but to delete others and to write the dashboard.
-/

import SignalBoard.Proofs.Reconcile.Conduct

namespace SignalBoard.Dashboard

variable {dashboard : Dashboard} {trace before after : Trace} {request : Request}
  {outcome : Except Fault Json}

/-- The search, which comes first, found these dashboards of exactly the local name. -/
def Found (dashboard : Dashboard) (trace : Trace) (found : List Json) : Prop :=
  ∃ reply rest, trace = (.search .dashboard dashboard.name, .ok reply) :: rest ∧
    matching dashboard.name reply.items = found

/-- What the calls of an update keep to, whatever is answered. -/
structure Careful (dashboard : Dashboard) (trace : Trace) : Prop where
  /-- A dashboard is created once, and only if none of the name was found. -/
  creates : ∀ before query body outcome after,
    trace = before ++ (.post "/dashboard/simple" query body, outcome) :: after →
    dashboard.Found trace [] ∧ ∀ exchange ∈ before ++ after, exchange.1.method ≠ "POST"
  /-- Nothing follows a search that found several. -/
  ambiguous : ∀ found, dashboard.Found trace found → 2 ≤ found.length → trace.length = 1
  /-- What is deleted is a chart of the one dashboard that was found, and no local one. -/
  deletes : ∀ before path outcome after, trace = before ++ (.delete path, outcome) :: after →
    ∃ remote, dashboard.Found trace [remote] ∧ ∃ id ∈ Layout.chartIds remote,
      path = Kind.chart.path id ∧ ∃ chart, (.get path, .ok chart) ∈ before ∧
        ∀ other ∈ dashboard.charts, chart.name? ≠ some other.name
  /-- After a deletion come deletions, and last the dashboard is written. -/
  clears : ∀ before path outcome between request outcome' after,
    trace = before ++ (.delete path, outcome) :: (between ++ (request, outcome') :: after) →
    request.method = "DELETE" ∨ after = [] ∧ ∃ remote id body, dashboard.Found trace [remote] ∧
      remote.id? = some id ∧ request = .put (Kind.dashboard.path id) body
  /-- If a chart cannot be read, updated or created, nothing has been deleted. -/
  fails : ∀ request fault, (request, .error fault) ∈ trace → request.method ≠ "DELETE" →
    (request.path = Kind.chart.endpoint ∨ ∃ id, request.path = Kind.chart.path id) →
    ∀ exchange ∈ trace, exchange.1.method ≠ "DELETE"
  /-- Nor if a chart is created without an identifier. -/
  misses : ∀ query body reply, (.post Kind.chart.endpoint query body, .ok reply) ∈ trace →
    reply.id? = none → ∀ exchange ∈ trace, exchange.1.method ≠ "DELETE"
  /-- Nothing follows a call that failed. -/
  ends : ∀ before request fault after, trace = before ++ (request, .error fault) :: after →
    after = []

/-- What was found is told by the trace. -/
theorem Found.unique {first second : List Json} (found : dashboard.Found trace first)
    (found' : dashboard.Found trace second) : first = second := by
  obtain ⟨reply, rest, rfl, rfl⟩ := found
  obtain ⟨reply', rest', same, rfl⟩ := found'
  cases same
  rfl

/-- In a reconciliation charts are cleared away at most, until the dashboard is written. -/
theorem AdmitsReconciliation.clearing {remote : Json} {history : History}
    (admitted : dashboard.AdmitsReconciliation remote history request) : Clearing history := by
  cases request with
  | search => exact admitted.elim
  | get => exact admitted.1.clearing
  | post => exact admitted.1.clearing
  | delete => exact admitted.1
  | put =>
      cases admitted with
      | inl revising => exact revising.1.clearing
      | inr writing => exact writing.1

/-- Once a chart was deleted, charts are deleted or the dashboard is written. -/
theorem AdmitsReconciliation.of_deleted {remote : Json} {history : History} {path : String}
    {reply : Json} (admitted : dashboard.AdmitsReconciliation remote history request)
    (deleted : (.delete path, reply) ∈ history) : request.method = "DELETE" ∨
      ∃ id body, remote.id? = some id ∧ request = .put (Kind.dashboard.path id) body := by
  have notCalm : ¬ Calm history := fun calm => nomatch calm _ deleted
  cases request with
  | search => exact admitted.elim
  | get => exact absurd admitted.1 notCalm
  | post => exact absurd admitted.1 notCalm
  | delete => exact .inl rfl
  | put path body =>
      cases admitted with
      | inl revising => exact absurd revising.1 notCalm
      | inr writing =>
          obtain ⟨-, id, identified, rfl⟩ := writing
          exact .inr ⟨id, body, identified, rfl⟩

/-- A chart that was created has an identifier. -/
theorem Clearing.identified {history : History} (clearing : Clearing history) {path : String}
    {query : List (String × String)} {body reply : Json}
    (created : (.post path query body, reply) ∈ history) : reply.id?.isSome := by
  cases clearing _ created with
  | inl chart =>
      cases chart with
      | create _ _ identified => exact identified
  | inr deleted =>
      obtain ⟨_, _, same⟩ := deleted
      cases same

/-- Every call is one that the guard admits after the calls before it, which have succeeded. -/
def Keeps (dashboard : Dashboard) (trace : Trace) : Prop :=
  ∀ before request outcome after, trace = before ++ (request, outcome) :: after →
    ∃ earlier : History, before = earlier.trace ∧ dashboard.Admits earlier request

namespace Keeps

/-- A call is the search, or comes after it. -/
theorem search_or_after (keeps : dashboard.Keeps trace)
    (split : trace = before ++ (request, outcome) :: after) :
    (before = [] ∧ request = .search .dashboard dashboard.name) ∨
      ∃ reply, ∃ rest : History,
        before = (.search .dashboard dashboard.name, .ok reply) :: rest.trace ∧
        dashboard.Found trace (matching dashboard.name reply.items) ∧
        dashboard.AdmitsAfter (matching dashboard.name reply.items) rest request := by
  obtain ⟨earlier, rfl, admitted⟩ := keeps _ _ _ _ split
  cases earlier with
  | nil => exact .inl ⟨rfl, admitted⟩
  | cons exchange rest =>
      obtain ⟨first, reply⟩ := exchange
      obtain ⟨none, nothing, isSearch⟩ := keeps [] first (.ok reply) _ split
      obtain rfl : none = [] := List.map_eq_nil_iff.mp nothing.symm
      obtain rfl : first = .search .dashboard dashboard.name := isSearch
      exact .inr ⟨reply, rest, rfl, ⟨reply, _, split, rfl⟩, admitted⟩

/-- A deletion belongs to a reconciliation. -/
theorem of_delete (keeps : dashboard.Keeps trace) {path : String}
    (split : trace = before ++ (.delete path, outcome) :: after) :
    ∃ remote reply, ∃ rest : History,
      before = (.search .dashboard dashboard.name, .ok reply) :: rest.trace ∧
      dashboard.Found trace [remote] ∧ Clearing rest ∧ dashboard.Discarded remote rest path := by
  obtain ⟨-, isSearch⟩ | ⟨reply, rest, rfl, found, admitted⟩ := keeps.search_or_after split
  · cases isSearch
  · obtain ⟨-, creation⟩ | ⟨remote, one, clearing, discarded⟩ := admitted.cases
    · obtain ⟨-, _, _, isPost⟩ | ⟨_, _, isPut⟩ := creation.cases
      · cases isPost
      · cases isPut
    · exact ⟨remote, reply, rest, rfl, one ▸ found, clearing, discarded⟩

/-- What comes after a deletion comes after it in a reconciliation. -/
theorem of_deleted (keeps : dashboard.Keeps trace) {path : String} {between : Trace}
    {outcome' : Except Fault Json}
    (split : trace =
      before ++ (.delete path, outcome) :: (between ++ (request, outcome') :: after)) :
    ∃ remote reply, ∃ rest : History,
      before ++ (.delete path, outcome) :: between =
        (.search .dashboard dashboard.name, .ok reply) :: rest.trace ∧
      dashboard.Found trace [remote] ∧ (∃ reply, (.delete path, reply) ∈ rest) ∧
      dashboard.AdmitsReconciliation remote rest request := by
  obtain ⟨remote, reply, rest, rfl, found, -, -⟩ := keeps.of_delete split
  have later : trace = ((.search .dashboard dashboard.name, .ok reply) :: rest.trace ++
      (.delete path, outcome) :: between) ++ (request, outcome') :: after := by
    rw [split, List.append_assoc]
    rfl
  obtain ⟨nothing, -⟩ | ⟨reply', rest', same, found', admitted⟩ := keeps.search_or_after later
  · cases nothing
  · rw [← found.unique found'] at admitted
    refine ⟨remote, reply', rest', same, found, ?_, admitted⟩
    have member : (.delete path, outcome) ∈ rest'.trace := by
      rw [List.cons_append, List.cons.injEq] at same
      simp [← same.2]
    obtain ⟨deleted, -, among⟩ := History.mem_trace.mp member
    exact ⟨deleted, among⟩

end Keeps

/-- A deletion splits a trace. -/
theorem exists_deletion {exchange : Request × Except Fault Json} (among : exchange ∈ trace)
    (isDelete : exchange.1.method = "DELETE") :
    ∃ before path outcome after, trace = before ++ (.delete path, outcome) :: after := by
  obtain ⟨before, after, rfl⟩ := List.append_of_mem among
  obtain ⟨request, outcome⟩ := exchange
  cases request with
  | delete path => exact ⟨before, path, outcome, after, rfl⟩
  | _ => simp [Request.method] at isDelete

/-- The path of a dashboard is not that of all charts, nor that of one. -/
theorem path_not_chart (id : String) : ¬ (Kind.dashboard.path id = Kind.chart.endpoint ∨
    ∃ other, Kind.dashboard.path id = Kind.chart.path other) := by
  intro same
  cases same with
  | inl endpoint =>
      have begins := (Kind.isPrefixOf_path_iff .dashboard .dashboard id).mpr rfl
      rw [endpoint] at begins
      exact absurd begins (by decide)
  | inr chart =>
      obtain ⟨other, same⟩ := chart
      exact Kind.path_ne (by decide) _ _ same

namespace Keeps

/-- A dashboard is created at once after the search, which found none. -/
theorem of_creation (keeps : dashboard.Keeps trace) {query : List (String × String)} {body : Json}
    (split : trace = before ++ (.post "/dashboard/simple" query body, outcome) :: after) :
    dashboard.Found trace [] ∧ ∃ reply,
      before = [(.search .dashboard dashboard.name, .ok reply)] := by
  obtain ⟨-, isSearch⟩ | ⟨reply, rest, rfl, found, admitted⟩ := keeps.search_or_after split
  · cases isSearch
  · obtain ⟨nothing, creation⟩ | ⟨remote, -, -, isChart⟩ := admitted.cases
    · obtain ⟨rfl, -⟩ | ⟨_, _, isPut⟩ := creation.cases
      · exact ⟨nothing ▸ found, reply, rfl⟩
      · cases isPut
    · exact absurd isChart (by decide)

/-- No POST comes after a dashboard was created. -/
theorem after_creation (keeps : dashboard.Keeps trace) {query : List (String × String)}
    {body : Json} {between : Trace} {outcome' : Except Fault Json}
    (split : trace = before ++
      (.post "/dashboard/simple" query body, outcome) ::
        (between ++ (request, outcome') :: after)) :
    request.method ≠ "POST" := by
  obtain ⟨found, reply, rfl⟩ := keeps.of_creation split
  have later : trace = ((.search .dashboard dashboard.name, .ok reply) ::
      (.post "/dashboard/simple" query body, outcome) :: between) ++ (request, outcome') :: after :=
    split
  obtain ⟨nothing, -⟩ | ⟨reply', rest, same, found', admitted⟩ := keeps.search_or_after later
  · cases nothing
  · obtain ⟨-, creation⟩ | ⟨remote, one, -⟩ := admitted.cases
    · obtain ⟨rfl, -⟩ | ⟨_, _, rfl⟩ := creation.cases
      · cases same
      · simp [Request.method]
    · rw [one] at found'
      cases found.unique found'

/-- Nothing comes after the dashboard was written. -/
theorem after_writing (keeps : dashboard.Keeps trace) {path id : String} {body : Json}
    {between : Trace} {outcome' : Except Fault Json}
    (split : trace = before ++ (.delete path, outcome) ::
      (between ++ (.put (Kind.dashboard.path id) body, outcome') :: after)) : after = [] := by
  cases after with
  | nil => rfl
  | cons exchange after =>
      obtain ⟨next, outcome''⟩ := exchange
      have later : trace = before ++ (.delete path, outcome) ::
          ((between ++ [(.put (Kind.dashboard.path id) body, outcome')]) ++
            (next, outcome'') :: after) := by simp [split]
      obtain ⟨remote, reply, rest, same, -, -, admitted⟩ := keeps.of_deleted later
      have written : (.put (Kind.dashboard.path id) body, outcome') ∈
          (.search .dashboard dashboard.name, .ok reply) :: rest.trace := by simp [← same]
      obtain ⟨reply', -, among⟩ := History.mem_trace.mp
        ((List.mem_cons.mp written).resolve_left (by simp))
      exact absurd among (admitted.clearing.not_written id body reply')

/-- A call for a chart that is no deletion has no deletion before it. -/
theorem no_deletion_before (keeps : dashboard.Keeps trace)
    (split : trace = before ++ (request, outcome) :: after) (notDelete : request.method ≠ "DELETE")
    (isChart : request.path = Kind.chart.endpoint ∨ ∃ id, request.path = Kind.chart.path id) :
    ∀ exchange ∈ before, exchange.1.method ≠ "DELETE" := by
  intro exchange among isDelete
  obtain ⟨earlier, path, outcome', between, rfl⟩ := exists_deletion among isDelete
  rw [List.append_assoc, List.cons_append] at split
  obtain ⟨remote, reply, rest, -, -, ⟨_, deleted⟩, admitted⟩ := keeps.of_deleted split
  obtain isDelete | ⟨id, body, -, rfl⟩ := admitted.of_deleted deleted
  · exact notDelete isDelete
  · exact path_not_chart id isChart

/-- Nothing comes after a search that found several. -/
theorem alone_of_several (keeps : dashboard.Keeps trace) {found : List Json}
    (isFound : dashboard.Found trace found) (several : 2 ≤ found.length) : trace.length = 1 := by
  obtain ⟨reply, rest, split, rfl⟩ := isFound
  cases rest with
  | nil => rw [split, List.length_singleton]
  | cons exchange rest =>
      obtain ⟨next, outcome⟩ := exchange
      have second : trace = [(.search .dashboard dashboard.name, .ok reply)] ++
        (next, outcome) :: rest := split
      obtain ⟨nothing, -⟩ | ⟨reply', _, same, -, admitted⟩ := keeps.search_or_after second
      · cases nothing
      · obtain rfl : reply = reply' := Except.ok.inj (Prod.mk.inj (List.cons.inj same).1).2
        obtain ⟨none, -⟩ | ⟨_, one, -⟩ := admitted.cases
        · simp [none] at several
        · simp [one] at several

/-- What was created before a deletion has an identifier. -/
theorem identified_of_delete (keeps : dashboard.Keeps trace) {path : String}
    (split : trace = before ++ (.delete path, outcome) :: after)
    {query : List (String × String)} {body reply : Json}
    (created : (.post Kind.chart.endpoint query body, .ok reply) ∈ before) : reply.id?.isSome := by
  obtain ⟨remote, search, rest, rfl, -, clearing, -⟩ := keeps.of_delete split
  obtain ⟨other, isReply, among⟩ := History.mem_trace.mp
    ((List.mem_cons.mp created).resolve_left (by simp))
  obtain rfl := Except.ok.inj isReply
  exact clearing.identified among

/-- A trace that keeps to the guard is careful. -/
theorem careful (keeps : dashboard.Keeps trace)
    (ends : ∀ before request fault after, trace = before ++ (request, .error fault) :: after →
      after = []) : dashboard.Careful trace where
  creates := by
    intro before query body outcome after split
    obtain ⟨found, reply, same⟩ := keeps.of_creation split
    refine ⟨found, fun exchange member => ?_⟩
    cases List.mem_append.mp member with
    | inl early =>
        rw [same, List.mem_singleton] at early
        simp [early, Request.method]
    | inr late =>
        obtain ⟨between, rest, rfl⟩ := List.append_of_mem late
        exact keeps.after_creation split
  ambiguous _ := keeps.alone_of_several
  deletes := by
    intro before path outcome after split
    obtain ⟨remote, reply, rest, rfl, found, -, id, onLayout, same, chart, read, unnamed⟩ :=
      keeps.of_delete split
    refine ⟨remote, found, id, onLayout, same, chart, List.mem_cons_of_mem _ ?_, unnamed⟩
    exact List.mem_map.mpr ⟨_, read, rfl⟩
  clears := by
    intro before path outcome between request outcome' after split
    obtain ⟨remote, reply, rest, same, found, ⟨_, deleted⟩, admitted⟩ := keeps.of_deleted split
    obtain isDelete | ⟨id, body, identified, rfl⟩ := admitted.of_deleted deleted
    · exact .inl isDelete
    · exact .inr ⟨keeps.after_writing split, remote, id, body, found, identified, rfl⟩
  fails := by
    intro request fault failed notDelete isChart exchange member
    obtain ⟨before, after, split⟩ := List.append_of_mem failed
    have last := ends _ _ _ _ split
    rw [split, last, List.mem_append, List.mem_singleton] at member
    cases member with
    | inl early => exact keeps.no_deletion_before split notDelete isChart exchange early
    | inr here => exact here ▸ notDelete
  misses := by
    intro query body reply created unidentified exchange member isDelete
    obtain ⟨before, after, split⟩ := List.append_of_mem created
    rw [split, List.mem_append, List.mem_cons] at member
    obtain early | rfl | late := member
    · exact keeps.no_deletion_before split (by simp [Request.method]) (.inl rfl) exchange early
        isDelete
    · simp [Request.method] at isDelete
    · obtain ⟨between, path, outcome, after, rfl⟩ := exists_deletion late isDelete
      rw [← List.cons_append, ← List.append_assoc] at split
      have earlier : (.post Kind.chart.endpoint query body, .ok reply) ∈
          before ++ (.post Kind.chart.endpoint query body, .ok reply) :: between := by simp
      have identified := keeps.identified_of_delete split earlier
      rw [unidentified] at identified
      cases identified
  ends := ends

end Keeps

/-- The calls of an update are careful under every API, whatever it answers and wherever it
fails. -/
theorem careful_update {σ : Type} (server : Server σ) (answer : Question → Bool)
    (dashboard : Dashboard) (overrides : Overrides) (state : σ) :
    dashboard.Careful ((dashboard.update overrides).trace server answer state) := by
  apply Keeps.careful
  · intro before request outcome after split
    exact (guarded_update dashboard overrides).admits split
  · intro before request fault after split
    exact Plan.trace_ends split

example : ((newBoard.update {}).trace Store.server (fun _ => false) oldStore).map (·.1.line) =
    ["GET /dashboard?name=board", "GET /chart/id-2", "GET /chart/id-3", "GET /chart/id-3",
      "PUT /chart/id-3", "POST /chart", "DELETE /chart/id-2", "PUT /dashboard/id-4"] := by
  decide +kernel

end SignalBoard.Dashboard
