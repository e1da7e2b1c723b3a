/-
# Answers of a store

What a store answers when a request can be met, and which store is left. Only what the answer
depends on is asked for: that something is stored at the path, or that the body is an object.
-/

import SignalBoard.Proofs.Plan.Outcome
import SignalBoard.Proofs.Store.Sound

namespace SignalBoard

namespace Store

variable {store : Store}

/-- A request that only reads leaves the store alone. -/
theorem server_of_reads {request : Request} (reads : request.mutates = false) (store : Store) :
    (server request store).2 = store := by
  cases request with
  | search kind name => rfl
  | get path => rw [server_eq_perform, answer, fetch_snd]
  | post => cases reads
  | put => cases reads
  | delete => cases reads

/-- A stored document is read. -/
theorem server_get {path : String} {document : Json}
    (stored : store.documents.get? path = some document) :
    server (.get path) store = (.ok document, store) := by
  rw [server_eq_perform, answer, perform_fetch, stored]

/-- A stored document is replaced by an object, which gets its identifier. -/
theorem server_put {path id : String} {old body : Json}
    (stored : store.documents.get? path = some old) (identified : old.id? = some id)
    (object : body.isObject = true) :
    server (.put path body) store =
      (.ok (body.withField "id" (.str id)), store.set path (body.withField "id" (.str id))) := by
  have field := Json.field_of_id? identified
  rw [server_eq_perform]
  simp only [answer, put, perform_bind, perform_fetch, stored, perform_assign, field,
    Json.assign_eq object, perform_keep, perform_pure]

/-- A chart or a detector is created with a fresh identifier. -/
theorem server_post {endpoint : String}
    (plain : endpoint ∈ [Kind.chart.endpoint, Kind.detector.endpoint]) {body : Json}
    (object : body.isObject = true) (query : List (String × String)) :
    server (.post endpoint query body) store =
      (.ok (body.withField "id" (.str (ident (store.allocated + 1)))),
        store.allocate.set (endpoint ++ "/" ++ ident (store.allocated + 1))
          (body.withField "id" (.str (ident (store.allocated + 1))))) := by
  rw [List.mem_pair] at plain
  rw [server_eq_perform]
  simp only [answer, post, if_pos plain, perform_add, Json.assign_eq object]

/-- A document that is neither a dashboard nor a group is deleted, and nothing else. -/
theorem server_delete_single {kind : Kind} {id : String} {document : Json}
    (dashboard : Kind.dashboard ≠ kind) (group : Kind.group ≠ kind)
    (stored : store.documents.get? (kind.path id) = some document) :
    server (.delete (kind.path id)) store = (.ok .null, store.remove (kind.path id)) := by
  have notDashboard : "/dashboard/".toList.isPrefixOf (kind.path id).toList ≠ true :=
    fun beginning => dashboard ((Kind.isPrefixOf_path_iff .dashboard kind id).mp beginning)
  have notGroup : "/dashboardgroup/".toList.isPrefixOf (kind.path id).toList ≠ true :=
    fun beginning => group ((Kind.isPrefixOf_path_iff .group kind id).mp beginning)
  rw [server_eq_perform]
  simp only [answer, delete, perform_bind, perform_fetch, stored, perform_drop,
    if_neg notDashboard, if_neg notGroup, perform_pure]

/-- A stored chart is deleted, and nothing else. -/
theorem server_delete_chart {id : String} {document : Json}
    (stored : store.documents.get? (Kind.chart.path id) = some document) :
    server (.delete (Kind.chart.path id)) store =
      (.ok .null, store.remove (Kind.chart.path id)) :=
  server_delete_single (by decide) (by decide) stored

/-- Changing the list of a group gives no identifier away. -/
theorem allocated_updateMembers (groupId : String) (change : List Json → List Json)
    (store : Store) :
    (perform (updateMembers groupId change) store).2.allocated = store.allocated := by
  rcases updateMembers_snd groupId change store with same | ⟨group, changed, -, -, set⟩
  · rw [same]
  · rw [set, allocated_set]

/-- A deletion gives no identifier away. -/
theorem allocated_delete (path : String) (store : Store) :
    (server (.delete path) store).2.allocated = store.allocated := by
  have drops : ∀ (ids : List String) (store : Store),
      (perform (ids.forM fun id => drop (Kind.dashboard.path id)) store).2.allocated =
        store.allocated := by
    intro ids
    induction ids with
    | nil => exact fun _ => rfl
    | cons id rest ih => exact fun store => ih (store.remove (Kind.dashboard.path id))
  have deletes : (perform (delete path) store).2.allocated = store.allocated := by
    rw [delete, perform_bind, perform_fetch]
    cases store.documents.get? path with
    | none => rfl
    | some removed =>
        simp only [perform_bind, perform_drop]
        split
        · exact allocated_updateMembers ..
        · split
          · exact drops ..
          · rfl
  rw [server_eq_perform, answer, perform_bind]
  rcases outcome : perform (delete path) store with ⟨fault | value, after⟩ <;>
    rwa [outcome] at deletes

/-- A search finds, of the resources of exactly the name, all. -/
theorem server_search (store : Store) (kind : Kind) (name : String) :
    ∃ found, server (.search kind name) store = (.ok (.arr found), store) ∧
      matching name found = store.named kind name := by
  refine ⟨_, rfl, ?_⟩
  rw [matching, named, List.filter_filter]
  apply List.filter_congr
  intro document _
  simp only [Json.name?, Json.field, Bool.and_eq_left_iff_imp]
  intro isNamed
  cases held : document.get? "name" with
  | none => simp [held] at isNamed
  | some value => cases value <;> simp_all [Json.string?, occurs_self]

/-- The resources of exactly a name are found. -/
theorem ensures_findMatches {answer : Question → Bool} (kind : Kind) (name : String) :
    Plan.Ensures server answer (findMatches kind name) store
      fun found after => found = store.named kind name ∧ after = store := by
  obtain ⟨found, answered, same⟩ := server_search store kind name
  exact Plan.ensures_call answered (Plan.ensures_pure ⟨same, rfl⟩)

/-- A name that at most one resource of the kind has identifies that one. -/
theorem ensures_findUnique {answer : Question → Bool} {kind : Kind} {name : String}
    {remote : Option Json} (unique : store.named kind name = remote.toList) :
    Plan.Ensures server answer (findUnique kind name) store
      fun found after => found = remote ∧ after = store := by
  refine Plan.ensures_bind (ensures_findMatches kind name) ?_
  rintro _ store ⟨rfl, rfl⟩
  rw [unique]
  cases remote <;> exact Plan.ensures_pure ⟨rfl, rfl⟩

/-- Looking up the one resource of a kind with a name. -/
theorem ensures_requireUnique {answer : Question → Bool} {kind : Kind} {name : String}
    {remote : Json} (alone : store.named kind name = [remote]) :
    Plan.Ensures server answer (requireUnique kind name) store
      fun found after => found = remote ∧ after = store := by
  have unique : store.named kind name = (some remote).toList := alone
  apply Plan.ensures_bind (ensures_findUnique unique)
  rintro _ store ⟨rfl, rfl⟩
  exact Plan.ensures_pure ⟨rfl, rfl⟩

/-- Nothing stands in the way of creating a resource whose name is not taken. -/
theorem ensures_guardCreate {answer : Question → Bool} {kind : Kind} {name : String}
    (untaken : store.named kind name = []) (options : CreateOptions) :
    Plan.Ensures server answer (guardCreate kind name options) store
      fun _ after => after = store := by
  unfold guardCreate
  split
  case isTrue => exact Plan.ensures_pure rfl
  case isFalse =>
    refine Plan.ensures_bind (ensures_findMatches kind name) ?_
    rintro _ store ⟨rfl, rfl⟩
    rw [untaken]
    exact Plan.ensures_pure rfl

end Store

end SignalBoard
