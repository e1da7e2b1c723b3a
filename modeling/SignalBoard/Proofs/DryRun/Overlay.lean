/-
# What one request does to what a dry run shows

A dry run lies over another server like a sheet of glass: it shows what was drawn on it and
otherwise what is below. What is drawn is told by the exchanges of the run alone, for a reply holds
the identifiers that were given. Here is said what each exchange adds to the sheet, replaces on it
and wipes from it; everything else stays as it was, but for the lists of groups, which grow.
-/

import SignalBoard.Proofs.DryRun.Answer
import SignalBoard.Proofs.Group.View
import SignalBoard.Proofs.Plan.Trace

namespace SignalBoard

/-- Bodies of requests are objects, and arrays of objects where dashboards are created from
charts. -/
def Request.WellFormed : Request → Prop
  | post path _ body => body.isObject = true ∨ path = "/dashboard/simple" ∧
      ∃ charts, body = .arr charts ∧ ∀ chart ∈ charts, chart.isObject = true
  | put _ body => body.isObject = true
  | _ => True

/-- What the server has to read are objects. -/
def Server.Documents {σ : Type} (server : Server σ) : Prop :=
  ∀ path state reply, (server (.get path) state).1 = .ok reply → reply.isObject = true

namespace DryRun

variable {σ : Type}

/-- A request with its outcome. -/
abbrev Exchange := Request × Except Fault Json

/-! ## What exchanges tell -/

/-- What requests are answered: everything that would change something succeeds, except that a
dashboard cannot be copied that cannot be read. -/
inductive Answered : Exchange → Prop
  | read {request : Request} (reads : request.mutates = false) (outcome : Except Fault Json) :
      Answered (request, outcome)
  | created {path : String} (query : List (String × String)) (body : Json)
      (notSimple : path ≠ "/dashboard/simple") (notClone : Request.cloneTarget? path = none)
      (id : String) :
      Answered (.post path query body, .ok ((made path query body).withField "id" (.str id)))
  | dashboard (query : List (String × String)) (body : Json) (groupId id : String)
      (chartIds : List String) (each : chartIds.length = body.items.length) :
      Answered (.post "/dashboard/simple" query body,
        .ok (simpleDashboard (Request.nameIn? query) groupId (Store.placedEntries chartIds 0) id))
  | copied {path groupId : String} (query : List (String × String)) (body : Json)
      (target : Request.cloneTarget? path = some groupId) (source : Json) (id : String) :
      Answered (.post path query body,
        .ok ((source.withField "groupId" (.str groupId)).withField "id" (.str id)))
  | unread {path groupId : String} (query : List (String × String)) (body : Json)
      (target : Request.cloneTarget? path = some groupId) (fault : Fault) :
      Answered (.post path query body, .error fault)
  | replaced (path : String) (body : Json) :
      Answered (.put path body, .ok (body.withField "id" (.str (Store.lastSegment path))))
  | deleted (path : String) : Answered (.delete path, .ok .null)

/-- The exchange creates a document at a path. -/
inductive Creates : Exchange → String → Json → Prop
  | plain {path : String} {query : List (String × String)} {body reply : Json} {id : String}
      (notSimple : path ≠ "/dashboard/simple") (notClone : Request.cloneTarget? path = none)
      (identified : reply.id? = some id) :
      Creates (.post path query body, .ok reply) (path ++ "/" ++ id) reply
  | clone {path groupId : String} {query : List (String × String)} {body reply : Json} {id : String}
      (target : Request.cloneTarget? path = some groupId) (identified : reply.id? = some id) :
      Creates (.post path query body, .ok reply) (Kind.dashboard.path id) reply
  | dashboard {query : List (String × String)} {body reply : Json} {id : String}
      (identified : reply.id? = some id) :
      Creates (.post "/dashboard/simple" query body, .ok reply) (Kind.dashboard.path id) reply
  | group {query : List (String × String)} {body reply : Json} {groupId id : String}
      (grouped : reply.groupId? = some groupId) (identified : reply.id? = some id) :
      Creates (.post "/dashboard/simple" query body, .ok reply) (Kind.group.path groupId)
        (simpleGroup (Request.nameIn? query) groupId id)
  | chart {query : List (String × String)} {body reply chart : Json} {place : Nat}
      {chartId : String} (sent : body.items[place]? = some chart)
      (placed : (Layout.chartIds reply)[place]? = some chartId) :
      Creates (.post "/dashboard/simple" query body, .ok reply) (Kind.chart.path chartId)
        (chart.withField "id" (.str chartId))

/-- The identifiers that an exchange gives, in the order in which they were given. -/
def handedOut : Exchange → List String
  | (.post path _ _, .ok reply) =>
      if path = "/dashboard/simple" then
        reply.groupId?.toList ++ Layout.chartIds reply ++ reply.id?.toList
      else reply.id?.toList
  | _ => []

/-- The dashboards that an exchange puts into the group at a path. -/
def residents (path : String) : Exchange → List String
  | (.post target _ _, .ok reply) =>
      if (Request.cloneTarget? target).map Kind.group.path = some path then reply.id?.toList else []
  | _ => []

/-- The exchange creates the document at a path, or replaces it. -/
inductive Sets (path : String) : Exchange → Json → Prop
  | created {exchange : Exchange} {document : Json} (creates : Creates exchange path document) :
      Sets path exchange document
  | replaced (body : Json) (outcome : Except Fault Json) :
      Sets path (.put path body, outcome) (body.withField "id" (.str (Store.lastSegment path)))

/-- The document is another one, but that its list of dashboards, if it has one, goes on. -/
structure Gains (ids : List String) (base document : Json) : Prop where
  same : ids = [] → document = base
  listed : ∀ members, base.get? "dashboards" = some (.arr members) → ids ≠ [] →
    document = base.withField "dashboards" (.arr (members ++ ids.map .str))
  elsewhere : ∀ key, key ≠ "dashboards" → document.get? key = base.get? key

theorem Gains.refl (document : Json) : Gains [] document document :=
  ⟨fun _ => rfl, fun _ _ some => absurd rfl some, fun _ _ => rfl⟩

theorem Gains.trans {ids more : List String} {base document last : Json}
    (first : Gains ids base document) (second : Gains more document last) :
    Gains (ids ++ more) base last := by
  constructor
  case same =>
    intro none
    obtain ⟨noIds, noMore⟩ := List.append_eq_nil_iff.mp none
    rw [second.same noMore, first.same noIds]
  case listed =>
    intro members lists _
    have object := Json.isObject_of_get? lists
    by_cases noIds : ids = []
    · obtain rfl := first.same noIds
      by_cases noMore : more = []
      · simp_all
      · rw [second.listed members lists noMore, noIds, List.nil_append]
    · have between := first.listed members lists noIds
      by_cases noMore : more = []
      · rw [second.same noMore, between, noMore, List.append_nil]
      · have listsBetween : document.get? "dashboards" = some (.arr (members ++ ids.map .str)) := by
          rw [between, Json.get?_withField object, if_pos rfl]
        rw [second.listed _ listsBetween noMore, between, List.map_append, List.append_assoc]
        cases base with
        | obj fields => exact congrArg Json.obj (Table.insert_insert ..)
        | _ => cases object
  case elsewhere =>
    intro key foreign
    rw [second.elsewhere key foreign, first.elsewhere key foreign]

/-- The documents of the run are objects. -/
def Objects (run : DryRun) : Prop :=
  ∀ path document, run.synthetic.get? path = some document → document.isObject = true

/-- What an exchange does to a dry run over a server. -/
structure Step (inner : Server σ) (exchange : Exchange) (before after : σ × DryRun) : Prop where
  inner : after.1 = before.1 ∨
    ∃ request, request.mutates = false ∧ after.1 = (inner request before.1).2
  answered : Answered exchange
  planned : after.2.planned = before.2.planned ++ [exchange.1].filter (·.mutates)
  handed : ∃ count, handedOut exchange = idents (before.2.allocated + 1) count ∧
    after.2.allocated = before.2.allocated + count
  objects : after.2.Objects
  created : ∀ path document, Creates exchange path document →
    after.2.synthetic.get? path = some document
  replaced : ∀ path body, exchange.1 = .put path body → (before.2.synthetic.get? path).isSome →
    after.2.synthetic.get? path = some (body.withField "id" (.str (Store.lastSegment path)))
  deleted : ∀ path, exchange.1 = .delete path → after.2.synthetic.get? path = none
  /-- What is not there does not appear by itself. -/
  absent : ∀ path, (∀ document, ¬ Creates exchange path document) →
    before.2.synthetic.get? path = none → after.2.synthetic.get? path = none
  /-- What is there stays, but for a list of dashboards that goes on. -/
  stays : ∀ path, (∀ document, ¬ Sets path exchange document) → exchange.1 ≠ .delete path →
    ∀ old, before.2.synthetic.get? path = some old →
      ∃ new, after.2.synthetic.get? path = some new ∧ Gains (residents path exchange) old new

variable {inner : Server σ} {state after : σ} {run : DryRun} {request : Request}
  {outcome : Except Fault Json} {path : String} {document : Json}

theorem ident_inj {first second : Nat} (same : ident first = ident second) : first = second := by
  have chars := congrArg String.toList same
  simp only [ident, String.toList_append, String.toList_ofList] at chars
  exact natText_inj (List.append_cancel_left chars)

theorem mem_idents {id : String} {first count : Nat} :
    id ∈ idents first count ↔ ∃ n, first ≤ n ∧ n < first + count ∧ id = ident n := by
  simp only [idents, List.mem_map, List.mem_range'_1]
  constructor
  · rintro ⟨n, ⟨from', upTo⟩, rfl⟩
    exact ⟨n, from', upTo, rfl⟩
  · rintro ⟨n, from', upTo, rfl⟩
    exact ⟨n, ⟨from', upTo⟩, rfl⟩

theorem get?_held (run : DryRun) (endpoint : String) (document : Json) (path : String) :
    (run.held endpoint document).synthetic.get? path =
      if path = endpoint ++ "/" ++ ident (run.allocated + 1) then some document
      else run.synthetic.get? path :=
  Table.get?_insert ..

theorem Objects.held (objects : run.Objects) (endpoint : String)
    (object : document.isObject = true) : (run.held endpoint document).Objects := by
  intro path other found
  rw [get?_held] at found
  split at found
  · exact Option.some.inj found ▸ object
  · exact objects path other found

/-! ## Requests that create nothing -/

theorem not_creates_of_reads (reads : request.mutates = false) :
    ¬ Creates (request, outcome) path document := by
  intro creates
  cases creates <;> cases reads

/-- What only reads leaves the run as it is. -/
theorem step_of_reads (reads : request.mutates = false) (objects : run.Objects)
    (asked : after = state ∨ after = (inner request state).2) :
    Step inner (request, outcome) (state, run) (after, run) where
  inner := asked.imp_right fun asked => ⟨request, reads, asked⟩
  answered := .read reads outcome
  planned := by simp [reads]
  handed := by
    refine ⟨0, ?_, rfl⟩
    cases request with
    | search | get => rfl
    | post | put | delete => cases reads
  objects := objects
  created _ _ creates := absurd creates (not_creates_of_reads reads)
  replaced path body sent := by
    subst sent
    cases reads
  deleted path sent := by
    subst sent
    cases reads
  absent _ _ none := none
  stays path _ _ old there := by
    refine ⟨old, there, ?_⟩
    cases request with
    | search | get => exact .refl old
    | post | put | delete => cases reads

theorem step_search (objects : run.Objects) (kind : Kind) (name : String) :
    let answered := server inner (.search kind name) (state, run)
    Step inner (.search kind name, answered.1) (state, run) answered.2 := by
  intro answered
  have passed : answered = ((inner (.search kind name) state).1,
      ((inner (.search kind name) state).2, run)) := perform_passOn ..
  rw [passed]
  exact step_of_reads rfl objects (.inr rfl)

/-- A reading gives what the run keeps at the path. -/
theorem server_get_kept (inner : Server σ) (state : σ)
    (kept : run.synthetic.get? path = some document) :
    server inner (.get path) (state, run) = (.ok document, (state, run)) := by
  show perform (fetch inner path) (state, run) = _
  rw [perform_fetch, kept]

/-- A reading of what the run does not keep is passed on. -/
theorem server_get_passed (inner : Server σ) (state : σ)
    (absent : run.synthetic.get? path = none) :
    server inner (.get path) (state, run) =
      ((inner (.get path) state).1, ((inner (.get path) state).2, run)) := by
  show perform (fetch inner path) (state, run) = _
  rw [perform_fetch, absent]

theorem step_get (objects : run.Objects) (path : String) :
    let answered := server inner (.get path) (state, run)
    Step inner (.get path, answered.1) (state, run) answered.2 := by
  intro answered
  cases found : run.synthetic.get? path with
  | some document =>
      rw [show answered = _ from server_get_kept inner state found]
      exact step_of_reads rfl objects (.inl rfl)
  | none =>
      rw [show answered = _ from server_get_passed inner state found]
      exact step_of_reads rfl objects (.inr rfl)

theorem planned_revised (run : DryRun) (path : String) (document : Json) :
    (run.revised path document).planned = run.planned := by
  unfold revised
  split <;> rfl

theorem allocated_revised (run : DryRun) (path : String) (document : Json) :
    (run.revised path document).allocated = run.allocated := by
  unfold revised
  split <;> rfl

theorem get?_revised (run : DryRun) (path : String) (document : Json) (other : String) :
    (run.revised path document).synthetic.get? other =
      if other = path ∧ (run.synthetic.get? path).isSome then some document
      else run.synthetic.get? other := by
  unfold revised Table.has
  cases (run.synthetic.get? path).isSome with
  | true => simp [Table.get?_insert]
  | false => simp

theorem step_put (objects : run.Objects) (path : String) {body : Json}
    (object : body.isObject = true) :
    let answered := server inner (.put path body) (state, run)
    Step inner (.put path body, answered.1) (state, run) answered.2 := by
  intro answered
  let document := body.withField "id" (.str (Store.lastSegment path))
  let next := (run.noted (.put path body)).revised path document
  have replaces : answered = (.ok document, (state, next)) := by
    show server inner (.put path body) (state, run) = _
    rw [server_of_mutates inner rfl, perform_put path object]
  have shows : ∀ other, next.synthetic.get? other =
      if other = path ∧ (run.synthetic.get? path).isSome then some document
      else run.synthetic.get? other := get?_revised (run.noted (.put path body)) path document
  rw [replaces]
  constructor
  case inner => exact .inl rfl
  case answered => exact .replaced path body
  case planned => exact planned_revised ..
  case handed => exact ⟨0, rfl, allocated_revised ..⟩
  case objects =>
    intro other kept found
    rw [shows] at found
    split at found
    · obtain rfl := Option.some.inj found
      simpa [document]
    · exact objects other kept found
  case created =>
    intro other kept creates
    cases creates
  case replaced =>
    rintro other content sent there
    cases sent
    rw [shows, if_pos ⟨rfl, there⟩]
  case deleted =>
    intro other sent
    cases sent
  case absent =>
    intro other _ none
    rw [shows, if_neg, none]
    rintro ⟨rfl, there⟩
    rw [none] at there
    cases there
  case stays =>
    intro other unset _ old there
    refine ⟨old, ?_, .refl old⟩
    rw [shows, if_neg, there]
    rintro ⟨rfl, -⟩
    exact unset _ (.replaced body _)

theorem step_delete (objects : run.Objects) (path : String) :
    let answered := server inner (.delete path) (state, run)
    Step inner (.delete path, answered.1) (state, run) answered.2 := by
  intro answered
  have shows : ∀ other, answered.2.2.synthetic.get? other =
      if other = path then none else run.synthetic.get? other := fun other => Table.get?_erase ..
  constructor
  case inner => exact .inl rfl
  case answered => exact .deleted path
  case planned => rfl
  case handed => exact ⟨0, rfl, rfl⟩
  case objects =>
    intro other kept found
    rw [shows] at found
    split at found
    · cases found
    · exact objects other kept found
  case created =>
    intro other kept creates
    cases creates
  case replaced =>
    intro other body sent
    cases sent
  case deleted =>
    rintro other sent
    cases sent
    rw [shows, if_pos rfl]
  case absent =>
    intro other _ none
    rw [shows, none]
    split <;> rfl
  case stays =>
    intro other _ kept old there
    refine ⟨old, ?_, .refl old⟩
    rw [shows, if_neg, there]
    rintro rfl
    exact kept rfl

/-! ## Creations at paths of no special meaning -/

theorem rel_gains_refl (found : Option Json) : Option.Rel (Gains []) found found := by
  cases found with
  | none => exact .none
  | some document => exact .some (.refl document)

/-- A creation, told by what it leaves at the paths where it creates nothing. -/
theorem Step.of_post {query : List (String × String)} {body : Json} {before after : σ × DryRun}
    (asked : after.1 = before.1 ∨
      ∃ request, request.mutates = false ∧ after.1 = (inner request before.1).2)
    (answered : Answered (.post path query body, outcome))
    (planned : after.2.planned = before.2.planned ++ [.post path query body])
    (handed : ∃ count,
      handedOut (.post path query body, outcome) = idents (before.2.allocated + 1) count ∧
        after.2.allocated = before.2.allocated + count)
    (objects : after.2.Objects)
    (created : ∀ other document, Creates (.post path query body, outcome) other document →
      after.2.synthetic.get? other = some document)
    (others : ∀ other, (∀ document, ¬ Creates (.post path query body, outcome) other document) →
      Option.Rel (Gains (residents other (.post path query body, outcome)))
        (before.2.synthetic.get? other) (after.2.synthetic.get? other)) :
    Step inner (.post path query body, outcome) before after where
  inner := asked
  answered := answered
  planned := planned
  handed := handed
  objects := objects
  created := created
  replaced _ _ sent := by cases sent
  deleted _ sent := by cases sent
  absent other uncreated none := by
    have left := others other uncreated
    rw [none] at left
    cases shown : after.2.synthetic.get? other with
    | none => rfl
    | some document =>
        rw [shown] at left
        cases left
  stays other unset _ old there := by
    have left := others other fun document creates => unset document (.created creates)
    rw [there] at left
    cases shown : after.2.synthetic.get? other with
    | none =>
        rw [shown] at left
        cases left
    | some new =>
        rw [shown] at left
        cases left with
        | some gains => exact ⟨new, rfl, gains⟩

/-- At a path of no special meaning, what is created is the reply. -/
theorem Creates.of_plain {path other : String} {query : List (String × String)}
    {body reply kept : Json} (notSimple : path ≠ "/dashboard/simple")
    (notClone : Request.cloneTarget? path = none)
    (creates : Creates (.post path query body, .ok reply) other kept) :
    ∃ id, reply.id? = some id ∧ other = path ++ "/" ++ id ∧ kept = reply := by
  cases creates with
  | plain _ _ identified => exact ⟨_, identified, rfl, rfl⟩
  | clone target =>
      rw [notClone] at target
      cases target
  | dashboard | group | chart => exact absurd rfl notSimple

theorem step_post {path : String} (notSimple : path ≠ "/dashboard/simple")
    (notClone : Request.cloneTarget? path = none) (objects : run.Objects)
    (query : List (String × String)) {body : Json} (object : body.isObject = true) :
    let answered := server inner (.post path query body) (state, run)
    Step inner (.post path query body, answered.1) (state, run) answered.2 := by
  intro answered
  let id := ident (run.allocated + 1)
  let document := (made path query body).withField "id" (.str id)
  let next := (run.noted (.post path query body)).held path document
  have whole : (made path query body).isObject = true := (isObject_made ..).trans object
  have identified : document.id? = some id := by
    rw [Json.id?, (Json.Stamped.withField_id whole id).get?_id]
    rfl
  have adds : answered = (.ok document, (state, next)) := by
    show server inner (.post path query body) (state, run) = _
    rw [server_of_mutates inner rfl, perform_post notSimple notClone inner query object]
    rfl
  have shows : ∀ other, next.synthetic.get? other =
      if other = path ++ "/" ++ id then some document else run.synthetic.get? other :=
    get?_held (run.noted (.post path query body)) path document
  have creates : Creates (.post path query body, .ok document) (path ++ "/" ++ id) document :=
    .plain notSimple notClone identified
  rw [adds]
  apply Step.of_post
  case asked => exact .inl rfl
  case answered => exact .created query body notSimple notClone id
  case planned => rfl
  case handed =>
    refine ⟨1, ?_, rfl⟩
    rw [handedOut, if_neg notSimple, identified]
    rfl
  case objects =>
    have noted : (run.noted (.post path query body)).Objects := objects
    exact noted.held path (by simpa [document])
  case created =>
    intro other kept creates
    obtain ⟨other, found, rfl, rfl⟩ := creates.of_plain notSimple notClone
    obtain rfl := Option.some.inj (identified.symm.trans found)
    rw [shows, if_pos rfl]
  case others =>
    intro other uncreated
    have here : other ≠ path ++ "/" ++ id := by
      rintro rfl
      exact uncreated document creates
    have elsewhere : (Request.cloneTarget? path).map Kind.group.path ≠ some other := by
      simp [notClone]
    rw [shows, if_neg here, residents, if_neg elsewhere]
    exact rel_gains_refl _

end DryRun

end SignalBoard
