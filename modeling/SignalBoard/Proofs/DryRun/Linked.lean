/-
# Dashboards in a dry run

A creation of a dashboard from charts draws several documents that name one another: the group, the
charts and the dashboard, each kept under an identifier that the reply holds. A copy of a dashboard
reads the dashboard from either layer, and a group of the run is joined by the copy. With these two
it is said of every request what it does to what a dry run shows.
-/

import SignalBoard.Proofs.DryRun.Overlay

namespace SignalBoard.DryRun

variable {σ : Type} {inner : Server σ} {state after : σ} {run : DryRun} {request : Request}

/-! ## Creations of dashboards from charts -/

/-- Charts that are added are kept at paths of their own. -/
theorem get?_withCharts_of_not_mem (charts : List Json) (run : DryRun) {path : String}
    (foreign : path ∉ Kind.chart.paths (idents (run.allocated + 1) charts.length)) :
    (charts.foldl withChart run).synthetic.get? path = run.synthetic.get? path := by
  induction charts generalizing run with
  | nil => rfl
  | cons chart rest ih =>
      rw [List.length_cons, idents_succ, Kind.paths, List.map_cons, List.mem_cons, not_or]
        at foreign
      rw [List.foldl_cons, ih (run.withChart chart) foreign.2]
      exact (get?_held ..).trans (if_neg foreign.1)

/-- Every chart that is added is kept under its identifier. -/
theorem get?_withCharts (charts : List Json) (run : DryRun) {place : Nat} {chart : Json}
    {id : String} (sent : charts[place]? = some chart)
    (given : (idents (run.allocated + 1) charts.length)[place]? = some id) :
    (charts.foldl withChart run).synthetic.get? (Kind.chart.path id) =
      some (chart.withField "id" (.str id)) := by
  induction charts generalizing run place with
  | nil => cases sent
  | cons first rest ih =>
      rw [List.length_cons, idents_succ] at given
      cases place with
      | zero =>
          obtain rfl : first = chart := by simpa using sent
          obtain rfl : ident (run.allocated + 1) = id := by simpa using given
          -- The charts that follow get later identifiers.
          have later : Kind.chart.path (ident (run.allocated + 1)) ∉
              Kind.chart.paths (idents ((run.withChart first).allocated + 1) rest.length) := by
            rw [Kind.path_mem_paths, mem_idents]
            rintro ⟨n, above, -, same⟩
            have : run.allocated + 2 ≤ n := above
            have := ident_inj same
            omega
          rw [List.foldl_cons, get?_withCharts_of_not_mem rest _ later]
          exact (get?_held ..).trans (if_pos rfl)
      | succ place =>
          rw [List.getElem?_cons_succ] at sent given
          exact ih (run.withChart first) sent given

section Simple

variable (run : DryRun) (name : Option String) (charts : List Json)

/-- What the run shows after a dashboard was created from charts: the group, then the dashboard,
then the charts, and elsewhere what it showed before. -/
theorem get?_withSimple (path : String) :
    (run.withSimple name charts).synthetic.get? path =
      if path = Kind.group.path (ident (run.allocated + 1)) then
        some (simpleGroup name (ident (run.allocated + 1))
          (ident (run.allocated + charts.length + 2)))
      else if path = Kind.dashboard.path (ident (run.allocated + charts.length + 2)) then
        some (simpleDashboard name (ident (run.allocated + 1))
          (Store.placedEntries (idents (run.allocated + 2) charts.length) 0)
          (ident (run.allocated + charts.length + 2)))
      else (charts.foldl withChart (run.held Kind.group.endpoint
        ((Json.record [("name", some (nameDocument name)),
          ("dashboards", some (.arr []))]).withField "id"
            (.str (ident (run.allocated + 1)))))).synthetic.get? path := by
  have number : ∀ document, (charts.foldl withChart
      (run.held Kind.group.endpoint document)).allocated + 1 =
      run.allocated + charts.length + 2 := by
    intro document
    rw [allocated_withCharts]
    show run.allocated + 1 + charts.length + 1 = _
    omega
  rw [withSimple, Table.get?_insert, get?_held, number]
  rfl

theorem get?_withSimple_group :
    (run.withSimple name charts).synthetic.get? (Kind.group.path (ident (run.allocated + 1))) =
      some (simpleGroup name (ident (run.allocated + 1))
        (ident (run.allocated + charts.length + 2))) := by
  rw [get?_withSimple, if_pos rfl]

theorem get?_withSimple_dashboard :
    (run.withSimple name charts).synthetic.get?
        (Kind.dashboard.path (ident (run.allocated + charts.length + 2))) =
      some (simpleDashboard name (ident (run.allocated + 1))
        (Store.placedEntries (idents (run.allocated + 2) charts.length) 0)
        (ident (run.allocated + charts.length + 2))) := by
  rw [get?_withSimple, if_neg (Kind.path_ne (by decide) _ _), if_pos rfl]

theorem get?_withSimple_chart {place : Nat} {chart : Json} {id : String}
    (sent : charts[place]? = some chart)
    (given : (idents (run.allocated + 2) charts.length)[place]? = some id) :
    (run.withSimple name charts).synthetic.get? (Kind.chart.path id) =
      some (chart.withField "id" (.str id)) := by
  rw [get?_withSimple, if_neg (Kind.path_ne (by decide) _ _), if_neg (Kind.path_ne (by decide) _ _)]
  exact get?_withCharts charts _ sent given

theorem get?_withSimple_elsewhere {path : String}
    (notGroup : path ≠ Kind.group.path (ident (run.allocated + 1)))
    (notDashboard : path ≠ Kind.dashboard.path (ident (run.allocated + charts.length + 2)))
    (notChart : path ∉ Kind.chart.paths (idents (run.allocated + 2) charts.length)) :
    (run.withSimple name charts).synthetic.get? path = run.synthetic.get? path := by
  rw [get?_withSimple, if_neg notGroup, if_neg notDashboard,
    get?_withCharts_of_not_mem charts _ notChart]
  exact (get?_held ..).trans (if_neg notGroup)

end Simple

theorem get?_simpleDashboard (name : Option String) (groupId : String) (layout : List Json)
    (id key : String) :
    (simpleDashboard name groupId layout id).get? key =
      if key = "id" then some (.str id)
      else (Table.get? key [("name", some (nameDocument name)), ("groupId", some (.str groupId)),
        ("charts", some (.arr layout))]).join := by
  rw [simpleDashboard, Json.get?_withField (Json.isRecord_record _).isObject,
    Json.get?_record (by simp)]

theorem id?_simpleDashboard (name : Option String) (groupId : String) (layout : List Json)
    (id : String) : (simpleDashboard name groupId layout id).id? = some id := by
  rw [Json.id?, get?_simpleDashboard]
  rfl

theorem groupId?_simpleDashboard (name : Option String) (groupId : String) (layout : List Json)
    (id : String) : (simpleDashboard name groupId layout id).groupId? = some groupId := by
  rw [Json.groupId?, Json.string?_field, get?_simpleDashboard]
  rfl

theorem chartIds_simpleDashboard (name : Option String) (groupId : String) (ids : List String)
    (id : String) :
    Layout.chartIds (simpleDashboard name groupId (Store.placedEntries ids 0) id) = ids := by
  have charts : (simpleDashboard name groupId (Store.placedEntries ids 0) id).field "charts" =
      .arr (Store.placedEntries ids 0) := Json.field_of_get? (get?_simpleDashboard ..)
  rw [Layout.chartIds, charts]
  exact Store.filterMap_placedEntries ids 0

/-- Where a dashboard is created from charts, it is created, and before it its group and its
charts. -/
theorem Creates.of_simple {query : List (String × String)} {body reply kept : Json} {other : String}
    (creates : Creates (.post "/dashboard/simple" query body, .ok reply) other kept) :
    (∃ id, reply.id? = some id ∧ other = Kind.dashboard.path id ∧ kept = reply) ∨
    (∃ groupId id, reply.groupId? = some groupId ∧ reply.id? = some id ∧
      other = Kind.group.path groupId ∧
      kept = simpleGroup (Request.nameIn? query) groupId id) ∨
    (∃ (place : Nat) (chart : Json) (id : String), body.items[place]? = some chart ∧
      (Layout.chartIds reply)[place]? = some id ∧ other = Kind.chart.path id ∧
      kept = chart.withField "id" (.str id)) := by
  cases creates with
  | plain notSimple => exact absurd rfl notSimple
  | clone target => cases target
  | dashboard identified => exact .inl ⟨_, identified, rfl, rfl⟩
  | group grouped identified => exact .inr (.inl ⟨_, _, grouped, identified, rfl, rfl⟩)
  | chart sent placed => exact .inr (.inr ⟨_, _, _, sent, placed, rfl, rfl⟩)

/-- At a path where a creation from charts creates nothing, the run shows what it showed before. -/
theorem get?_withSimple_of_not_creates {query : List (String × String)} {body reply : Json}
    {name : Option String} {path : String}
    (identified : reply.id? = some (ident (run.allocated + body.items.length + 2)))
    (grouped : reply.groupId? = some (ident (run.allocated + 1)))
    (placed : Layout.chartIds reply = idents (run.allocated + 2) body.items.length)
    (uncreated : ∀ document,
      ¬ Creates (.post "/dashboard/simple" query body, .ok reply) path document) :
    (run.withSimple name body.items).synthetic.get? path = run.synthetic.get? path := by
  apply get?_withSimple_elsewhere
  case notGroup =>
    rintro rfl
    exact uncreated _ (.group grouped identified)
  case notDashboard =>
    rintro rfl
    exact uncreated _ (.dashboard identified)
  case notChart =>
    intro member
    obtain ⟨chartId, given, rfl⟩ := List.mem_map.mp member
    obtain ⟨place, inside, there⟩ := List.getElem_of_mem given
    have listed : (Layout.chartIds reply)[place]? = some chartId := by
      rw [placed]
      exact List.getElem?_eq_some_iff.mpr ⟨inside, there⟩
    rw [length_idents] at inside
    exact uncreated _ (.chart (List.getElem?_eq_getElem inside) listed)

theorem Objects.withCharts (objects : run.Objects) {charts : List Json}
    (sent : ∀ chart ∈ charts, chart.isObject = true) : (charts.foldl withChart run).Objects := by
  induction charts generalizing run with
  | nil => exact objects
  | cons chart rest ih =>
      have object := sent chart List.mem_cons_self
      exact ih (objects.held _ (by simpa)) fun other member => sent other (.tail _ member)

theorem Objects.withSimple (objects : run.Objects) (name : Option String) {charts : List Json}
    (sent : ∀ chart ∈ charts, chart.isObject = true) : (run.withSimple name charts).Objects := by
  intro path document found
  have fields : ∀ entries, (Json.record entries).isObject = true :=
    fun entries => (Json.isRecord_record entries).isObject
  rw [get?_withSimple] at found
  split at found
  · obtain rfl := Option.some.inj found
    simp [simpleGroup, fields]
  · split at found
    · obtain rfl := Option.some.inj found
      simp [simpleDashboard, fields]
    · exact Objects.withCharts (objects.held _ (by simp [fields])) sent path document found

/-- The identifiers of the group, the charts and the dashboard follow one another. -/
theorem idents_simple (given count : Nat) :
    idents (given + 1) (count + 2) =
      [ident (given + 1)] ++ idents (given + 2) count ++ [ident (given + count + 2)] := by
  have last : given + 2 + count = given + count + 2 := by omega
  rw [idents_succ, idents_add, last]
  rfl

theorem step_post_simple (objects : run.Objects) (query : List (String × String)) {body : Json}
    (sent : ∀ chart ∈ body.items, chart.isObject = true) :
    let answered := server inner (.post "/dashboard/simple" query body) (state, run)
    Step inner (.post "/dashboard/simple" query body, answered.1) (state, run) answered.2 := by
  intro answered
  let name := Request.nameIn? query
  let groupId := ident (run.allocated + 1)
  let chartIds := idents (run.allocated + 2) body.items.length
  let id := ident (run.allocated + body.items.length + 2)
  let dashboard := simpleDashboard name groupId (Store.placedEntries chartIds 0) id
  let between := run.noted (.post "/dashboard/simple" query body)
  let next := between.withSimple name body.items
  have adds : answered = (.ok dashboard, (state, next)) := by
    show server inner _ (state, run) = _
    rw [server_of_mutates inner rfl]
    exact perform_addSimpleDashboard sent name state between
  have identified : dashboard.id? = some id := id?_simpleDashboard ..
  have grouped : dashboard.groupId? = some groupId := groupId?_simpleDashboard ..
  have placed : Layout.chartIds dashboard = chartIds := chartIds_simpleDashboard ..
  rw [adds]
  apply Step.of_post
  case asked => exact .inl rfl
  case answered => exact .dashboard query body groupId id chartIds (length_idents ..)
  case planned => exact planned_withSimple ..
  case handed =>
    refine ⟨body.items.length + 2, ?_, allocated_withSimple between name body.items⟩
    rw [handedOut, if_pos rfl, grouped, identified, placed]
    exact (idents_simple ..).symm
  case objects =>
    have noted : between.Objects := objects
    exact noted.withSimple name sent
  case created =>
    intro path document creates
    obtain ⟨other, found, rfl, rfl⟩ | ⟨group, other, foundGroup, found, rfl, rfl⟩ |
      ⟨place, chart, chartId, there, given, rfl, rfl⟩ := creates.of_simple
    · obtain rfl := Option.some.inj (identified.symm.trans found)
      exact get?_withSimple_dashboard between name body.items
    · obtain rfl := Option.some.inj (identified.symm.trans found)
      obtain rfl := Option.some.inj (grouped.symm.trans foundGroup)
      exact get?_withSimple_group between name body.items
    · rw [placed] at given
      exact get?_withSimple_chart between name body.items there given
  case others =>
    intro path uncreated
    rw [show next.synthetic.get? path = _ from
      get?_withSimple_of_not_creates identified grouped placed uncreated]
    exact rel_gains_refl _

/-! ## Copies of dashboards -/

/-- The group with a dashboard at the end of its list. What is no list stays, and `null` takes the
place of a missing one. -/
def joined (id : String) (group : Json) : Json :=
  match group.get? "dashboards" with
  | some (.arr members) => group.withField "dashboards" (.arr (members ++ [.str id]))
  | some _ => group
  | none => group.withField "dashboards" .null

theorem isObject_joined (id : String) (group : Json) :
    (joined id group).isObject = group.isObject := by
  unfold joined
  split <;> simp

theorem Gains.joined {group : Json} (object : group.isObject = true) (id : String) :
    Gains [id] group (joined id group) := by
  constructor
  case same => exact nofun
  case listed =>
    intro members lists _
    simp only [DryRun.joined, lists]
    rfl
  case elsewhere =>
    intro key foreign
    unfold DryRun.joined
    split
    · rw [Json.get?_withField object, if_neg foreign]
    · rfl
    · rw [Json.get?_withField object, if_neg foreign]

/-- A document of the run that is joined by a dashboard gains it. -/
theorem Objects.rel_joined (objects : run.Objects) (id path : String) :
    Option.Rel (Gains [id]) (run.synthetic.get? path)
      ((run.synthetic.get? path).map (joined id)) := by
  cases there : run.synthetic.get? path with
  | none => exact .none
  | some group => exact .some (.joined (objects path group there) id)

/-- A run after a dashboard was copied: the copy is kept under a fresh identifier, and a group of
the run is joined by it. -/
structure Copied (run : DryRun) (groupId : String) (copy : Json) (next : DryRun) : Prop where
  planned : next.planned = run.planned
  allocated : next.allocated = run.allocated + 1
  shows : ∀ path, next.synthetic.get? path =
    if path = Kind.dashboard.path (ident (run.allocated + 1)) then some copy
    else if path = Kind.group.path groupId then
      (run.synthetic.get? path).map (joined (ident (run.allocated + 1)))
    else run.synthetic.get? path

namespace Copied

variable {next : DryRun} {groupId : String} {copy : Json}

/-- The copy alone is kept where no group changes by being joined. -/
theorem of_held (copy : Json) (unchanged : (run.synthetic.get? (Kind.group.path groupId)).map
      (joined (ident (run.allocated + 1))) = run.synthetic.get? (Kind.group.path groupId)) :
    Copied run groupId copy (run.held Kind.dashboard.endpoint copy) where
  planned := rfl
  allocated := rfl
  shows path := by
    rw [show (run.held _ copy).synthetic.get? path = _ from
      get?_held run Kind.dashboard.endpoint copy path]
    refine if_congr Iff.rfl rfl ?_
    split
    case isTrue here => rw [here, unchanged]
    case isFalse => rfl

/-- The copy is kept, and then the group that it joins. -/
theorem of_joined (copy : Json) {group : Json}
    (found : run.synthetic.get? (Kind.group.path groupId) = some group) :
    let held := run.held Kind.dashboard.endpoint copy
    Copied run groupId copy { held with
      synthetic := held.synthetic.insert (Kind.group.path groupId)
        (joined (ident (run.allocated + 1)) group) } where
  planned := rfl
  allocated := rfl
  shows path := by
    rw [Table.get?_insert, show (run.held _ copy).synthetic.get? path = _ from
      get?_held run Kind.dashboard.endpoint copy path]
    split
    case isTrue here => rw [here, if_neg (Kind.path_ne (by decide) _ _), found, Option.map_some]
    case isFalse => rfl

theorem objects (copied : Copied run groupId copy next) (objects : run.Objects)
    (object : copy.isObject = true) : next.Objects := by
  intro path document found
  rw [copied.shows] at found
  split at found
  · exact Option.some.inj found ▸ object
  · split at found
    · obtain ⟨group, there, rfl⟩ := Option.map_eq_some_iff.mp found
      rw [isObject_joined]
      exact objects path group there
    · exact objects path document found

end Copied

/-- Copying a dashboard that is read. -/
theorem perform_clone {source : Json} {groupId : String} {body : Json}
    (read : perform (fetch inner (Kind.dashboard.path
      ((body.field "sourceDashboard").string?.getD ""))) (state, run) = (.ok source, (after, run)))
    (object : source.isObject = true) (objects : run.Objects) :
    let id := ident (run.allocated + 1)
    let copy := (source.withField "groupId" (.str groupId)).withField "id" (.str id)
    ∃ next, perform (clone inner groupId body) (state, run) = (.ok copy, (after, next)) ∧
      Copied run groupId copy next := by
  intro id copy
  have moved : (source.withField "groupId" (.str groupId)).isObject = true := by simpa
  have adds : perform (add Kind.dashboard.endpoint (source.withField "groupId" (.str groupId)))
      (after, run) = (.ok copy, (after, run.held Kind.dashboard.endpoint copy)) :=
    perform_add moved ..
  have field : copy.field "id" = .str id :=
    Json.field_of_get? (Json.Stamped.withField_id moved id).get?_id
  have kept : (run.held Kind.dashboard.endpoint copy).synthetic.get? (Kind.group.path groupId) =
      run.synthetic.get? (Kind.group.path groupId) :=
    (get?_held ..).trans (if_neg (Kind.path_ne (by decide) _ _))
  simp only [clone, perform_bind, read, perform_assign object, adds, perform_get, kept]
  cases found : run.synthetic.get? (Kind.group.path groupId) with
  | none => exact ⟨_, rfl, .of_held copy (by rw [found, Option.map_none])⟩
  | some group =>
      have whole : group.isObject = true := objects _ _ found
      cases listed : group.get? "dashboards" with
      | none =>
          have nulled : group.withField "dashboards" .null = joined id group := by
            simp only [joined, listed]
          simp only [listed, perform_bind, perform_assign whole, nulled, keep, perform_note,
            perform_pure]
          exact ⟨_, rfl, .of_joined copy found⟩
      | some value =>
          cases value with
          | arr members =>
              have longer : group.withField "dashboards" (.arr (members ++ [copy.field "id"])) =
                  joined id group := by
                simp only [joined, listed, field]
              simp only [listed, perform_bind, perform_assign whole, longer, keep, perform_note,
                perform_pure]
              exact ⟨_, rfl, .of_joined copy found⟩
          | _ =>
              have still : joined id group = group := by simp only [joined, listed]
              simp only [listed, perform_pure]
              exact ⟨_, rfl, .of_held copy (by rw [found, Option.map_some, still])⟩

/-- Copying a dashboard that is not read. -/
theorem perform_clone_error {fault : Fault} {groupId : String} {body : Json}
    (read : perform (fetch inner (Kind.dashboard.path
      ((body.field "sourceDashboard").string?.getD ""))) (state, run) =
        (.error fault, (after, run))) :
    perform (clone inner groupId body) (state, run) = (.error fault, (after, run)) := by
  simp only [clone, perform_bind, read]

/-- Reading comes to an object or a fault, and the server is asked at most for what is read. -/
theorem exists_perform_fetch (documents : inner.Documents) (objects : run.Objects) (state : σ)
    (path : String) :
    ∃ reply after, perform (fetch inner path) (state, run) = (reply, (after, run)) ∧
      (after = state ∨ after = (inner (.get path) state).2) ∧
      ∀ document, reply = .ok document → document.isObject = true := by
  rw [perform_fetch]
  cases found : run.synthetic.get? path with
  | some document =>
      exact ⟨_, _, rfl, .inl rfl,
        fun other same => Except.ok.inj same ▸ objects path document found⟩
  | none => exact ⟨_, _, rfl, .inr rfl, documents path state⟩

/-- Where a dashboard is copied, the copy is what is created. -/
theorem Creates.of_clone {path groupId other : String} {query : List (String × String)}
    {body reply kept : Json} (target : Request.cloneTarget? path = some groupId)
    (creates : Creates (.post path query body, .ok reply) other kept) :
    ∃ id, reply.id? = some id ∧ other = Kind.dashboard.path id ∧ kept = reply := by
  cases creates with
  | plain _ notClone =>
      rw [notClone] at target
      cases target
  | clone _ identified => exact ⟨_, identified, rfl, rfl⟩
  | dashboard | group | chart => cases target

/-- Copying what cannot be read is only noted. -/
theorem step_fault {path groupId : String} (target : Request.cloneTarget? path = some groupId)
    (query : List (String × String)) (body : Json) (fault : Fault) (objects : run.Objects)
    (asked : after = state ∨
      ∃ request, request.mutates = false ∧ after = (inner request state).2) :
    Step inner (.post path query body, .error fault) (state, run)
      (after, run.noted (.post path query body)) :=
  .of_post asked (.unread query body target fault) rfl ⟨0, rfl, rfl⟩ objects
    (fun _ _ creates => by cases creates) fun _ _ => rel_gains_refl _

/-- Copying what is read keeps the copy. The group that the copy joins is the only other document
that changes. -/
theorem step_copied {path groupId : String} (target : Request.cloneTarget? path = some groupId)
    (query : List (String × String)) (body : Json) {source : Json}
    (object : source.isObject = true) (objects : run.Objects) {next : DryRun}
    (asked : after = state ∨ ∃ request, request.mutates = false ∧ after = (inner request state).2) :
    let id := ident (run.allocated + 1)
    let copy := (source.withField "groupId" (.str groupId)).withField "id" (.str id)
    Copied (run.noted (.post path query body)) groupId copy next →
      Step inner (.post path query body, .ok copy) (state, run) (after, next) := by
  intro id copy copied
  have notSimple : path ≠ "/dashboard/simple" := by
    rintro rfl
    cases target
  have identified : copy.id? = some id := by
    rw [Json.id?, (Json.Stamped.withField_id (by simpa) id).get?_id]
    rfl
  have shows : ∀ other, next.synthetic.get? other =
      if other = Kind.dashboard.path id then some copy
      else if other = Kind.group.path groupId then (run.synthetic.get? other).map (joined id)
      else run.synthetic.get? other := copied.shows
  apply Step.of_post
  case asked => exact asked
  case answered => exact .copied query body target source id
  case planned => exact copied.planned
  case handed =>
    refine ⟨1, ?_, copied.allocated⟩
    rw [handedOut, if_neg notSimple]
    exact congrArg Option.toList identified
  case objects =>
    have noted : (run.noted (.post path query body)).Objects := objects
    exact copied.objects noted (by simpa [copy])
  case created =>
    intro other kept creates
    obtain ⟨otherId, found, rfl, rfl⟩ := creates.of_clone target
    obtain rfl := Option.some.inj (identified.symm.trans found)
    rw [shows, if_pos rfl]
  case others =>
    intro other uncreated
    have here : other ≠ Kind.dashboard.path id := by
      rintro rfl
      exact uncreated copy (.clone target identified)
    rw [shows, if_neg here, residents, target, Option.map_some]
    by_cases isGroup : other = Kind.group.path groupId
    · rw [if_pos isGroup, if_pos (by rw [isGroup]), identified]
      exact objects.rel_joined id other
    · rw [if_neg isGroup, if_neg (fun same => isGroup (Option.some.inj same).symm)]
      exact rel_gains_refl _

theorem step_clone (documents : inner.Documents) (objects : run.Objects) {path groupId : String}
    (target : Request.cloneTarget? path = some groupId) (query : List (String × String))
    (body : Json) :
    let answered := server inner (.post path query body) (state, run)
    Step inner (.post path query body, answered.1) (state, run) answered.2 := by
  intro answered
  let between := run.noted (.post path query body)
  have notSimple : path ≠ "/dashboard/simple" := by
    rintro rfl
    cases target
  have copies : answered = perform (clone inner groupId body) (state, between) := by
    show server inner _ (state, run) = _
    rw [server_of_mutates inner rfl]
    simp only [post, if_neg notSimple, target]
    rfl
  let sourcePath := Kind.dashboard.path ((body.field "sourceDashboard").string?.getD "")
  have noted : between.Objects := objects
  obtain ⟨reply, after, read, asked, whole⟩ := exists_perform_fetch documents noted state sourcePath
  have harmless : after = state ∨
      ∃ request, request.mutates = false ∧ after = (inner request state).2 :=
    asked.imp_right fun asked => ⟨_, rfl, asked⟩
  cases reply with
  | error fault =>
      have fails : answered = (.error fault, (after, between)) :=
        copies.trans (perform_clone_error read)
      rw [fails]
      exact step_fault target query body fault objects harmless
  | ok source =>
      obtain ⟨next, adds, copied⟩ := perform_clone read (whole source rfl) noted
      rw [show answered = (_, (after, next)) from copies.trans adds]
      exact step_copied target query body (whole source rfl) objects harmless copied

/-- What any request does. -/
theorem server_step (documents : inner.Documents) (objects : run.Objects)
    (formed : request.WellFormed) :
    let answered := server inner request (state, run)
    Step inner (request, answered.1) (state, run) answered.2 := by
  cases request with
  | search kind name => exact step_search objects kind name
  | get path => exact step_get objects path
  | put path body => exact step_put objects path formed
  | delete path => exact step_delete objects path
  | post path query body =>
      by_cases simple : path = "/dashboard/simple"
      case pos =>
        subst simple
        refine step_post_simple objects query ?_
        obtain object | ⟨-, charts, rfl, sent⟩ := formed
        · cases body with
          | obj fields => exact nofun
          | _ => cases object
        · exact sent
      case neg =>
        cases target : Request.cloneTarget? path with
        | some groupId => exact step_clone documents objects target query body
        | none =>
            have object : body.isObject = true := formed.resolve_right fun ⟨here, _⟩ => simple here
            exact step_post simple target objects query object

end SignalBoard.DryRun
