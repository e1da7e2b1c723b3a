/-
# Requests of a dry run beside the real ones

Each request of an operation, sent to the store and noted in the dry run: what the store answers
tells what the dry run answers, and both give equally many identifiers. Searches come before the
first change, when the store still is what the dry run runs over.
-/

import SignalBoard.Proofs.DryRun.Mirror
import SignalBoard.Proofs.Store.Creation

namespace SignalBoard.DryRun

variable {answer : Question → Bool} {origin store : Store} {count : Nat} {run : DryRun}

/-- One request each: what the store answers tells what the dry run answers. -/
theorem mirrors_call (mirrored : Mirrored origin store run) {request request' : Request}
    {promise : Json → Json → Store → Prop}
    (answered : ∀ reply after, Store.server request store = (.ok reply, after) →
      after.allocated ≤ origin.allocated + count →
      ∃ reply' given noted,
        server Store.server request' (origin, run) = (.ok reply', (origin, noted)) ∧
        Notes request' given run noted ∧ after.allocated = store.allocated + given ∧
        [request'].filter (·.mutates) = ([request].filter (·.mutates)).map
          (Request.renameIds (dryName origin count)) ∧ promise reply reply' after) :
    Mirrors answer origin count (.call request .done) (.call request' .done) store run
      promise := by
  intro value ended enough
  rcases outcome : Store.server request store with ⟨fault | reply, after⟩
  · simp only [Plan.run, outcome] at ended
    cases ended
  simp only [Plan.run, outcome] at ended enough ⊢
  obtain rfl := Except.ok.inj ended
  obtain ⟨reply', given, noted, answers, notes, allocated, renamed, holds⟩ :=
    answered reply after outcome enough
  simp only [answers]
  refine ⟨reply', noted, rfl, rfl, ?_, ⟨?_, ?_, notes.apart mirrored.apart⟩, holds⟩
  · rw [notes.planned, renamed]
  · exact mirrored.sound.of_server outcome
  · rw [allocated, notes.allocated, mirrored.allocated, Nat.add_assoc]

/-- A search before the first change. -/
theorem mirrors_search (mirrored : Mirrored origin origin run) (kind : Kind) (name : String) :
    Mirrors answer origin count (Plan.search kind name) (Plan.search kind name) origin run
      fun found found' after => after = origin ∧ found' = found ∧
        ∀ document ∈ found, ∃ path, origin.documents.get? path = some document := by
  change Mirrors answer origin count
    (Plan.call (.search kind name) .done >>= fun reply => pure reply.items)
    (Plan.call (.search kind name) .done >>= fun reply => pure reply.items) origin run _
  suffices searches : Mirrors answer origin count (.call (.search kind name) .done)
      (.call (.search kind name) .done) origin run fun reply reply' after => after = origin ∧
        reply' = reply ∧ ∀ document ∈ reply.items,
          ∃ path, origin.documents.get? path = some document by
    refine mirrors_bind searches ?_
    rintro reply _ _ noted mirroredToo ⟨rfl, rfl, stored⟩
    exact mirrors_pure mirroredToo ⟨rfl, rfl, stored⟩
  refine mirrors_call mirrored fun reply after answered enough => ?_
  have dry := server_search origin run kind name
  rw [answered] at dry
  obtain ⟨same, rfl⟩ := Prod.mk.inj answered
  refine ⟨reply, 0, run, dry, notes_nothing rfl run, rfl, rfl, rfl, rfl, ?_⟩
  intro document member
  obtain rfl := Except.ok.inj same
  obtain ⟨among, -⟩ := List.mem_filter.mp member
  obtain ⟨⟨path, _⟩, entry, rfl⟩ := List.mem_map.mp among
  exact ⟨path, mirrored.sound.ordered.mem_iff.mp (List.mem_filter.mp entry).1⟩

/-- A document is read that was stored before the run. -/
theorem mirrors_get (mirrored : Mirrored origin store run) (sound : origin.Sound) {path : String}
    (earlier : ∀ document, store.documents.get? path = some document →
      (origin.documents.get? path).isSome) :
    Mirrors answer origin count (Plan.get path) (Plan.get path) store run
      fun reply reply' after => after = store ∧ store.documents.get? path = some reply ∧
        origin.documents.get? path = some reply' := by
  refine mirrors_call mirrored fun reply after answered enough => ?_
  rw [Store.server_eq_perform, Store.answer, Store.perform_fetch] at answered
  cases found : store.documents.get? path with
  | none =>
      rw [found] at answered
      cases answered
  | some document =>
      rw [found] at answered
      obtain ⟨same, rfl⟩ := Prod.mk.inj answered
      obtain rfl := Except.ok.inj same
      obtain ⟨old, stored⟩ := Option.isSome_iff_exists.mp (earlier document found)
      have dry := server_get origin (mirrored.apart.get?_eq_none sound stored)
      rw [Store.server_get stored] at dry
      exact ⟨old, 0, run, dry, notes_nothing rfl run, rfl, rfl, rfl, rfl, stored⟩

/-- The user is asked and gives the same answer. -/
theorem mirrors_confirm (mirrored : Mirrored origin store run) (question : Question) :
    Mirrors answer origin count (Plan.confirm question) (Plan.confirm question) store run
      fun consent consent' after => after = store ∧ consent' = consent := by
  rintro _ ⟨⟩ -
  exact ⟨answer question, run, rfl, rfl, (List.append_nil _).symm, mirrored, rfl, rfl⟩

/-- An identifier that the store gives next is the next one of the dry run. -/
theorem Mirrored.dryName_next (mirrored : Mirrored origin store run) (given : Nat)
    (enough : store.allocated + given + 1 ≤ origin.allocated + count) :
    dryName origin count (Store.ident (store.allocated + given + 1)) =
      ident (run.allocated + given + 1) := by
  have before := mirrored.allocated
  have here : store.allocated + given + 1 = origin.allocated + (run.allocated + given) + 1 := by
    omega
  rw [here, dryName, rename_freshIds origin (by omega)]

/-- Giving a document an identifier, then renaming. -/
theorem renameIds_withField_id (rename : String → String) (document : Json) (id : String) :
    (document.withField "id" (.str id)).renameIds rename =
      (document.renameIds rename).withField "id" (.str (rename id)) := by
  rw [Json.renameIds_withField]
  rfl

/-- A chart or a detector is created. -/
theorem mirrors_post (mirrored : Mirrored origin store run) {endpoint : String}
    (plain : endpoint ∈ [Kind.chart.endpoint, Kind.detector.endpoint]) {body : Json}
    (object : body.isObject = true) :
    Mirrors answer origin count (Plan.post endpoint [] body)
      (Plan.post endpoint [] (body.renameIds (dryName origin count))) store run
      fun reply reply' _ => reply' = reply.renameIds (dryName origin count) ∧
        ∃ n, reply.id? = some (Store.ident n) := by
  refine mirrors_call mirrored fun reply after answered enough => ?_
  rw [Store.server_post plain object] at answered
  obtain ⟨same, rfl⟩ := Prod.mk.inj answered
  obtain rfl := Except.ok.inj same
  have object' : (body.renameIds (dryName origin count)).isObject = true := by simpa
  obtain ⟨noted, answers, notes⟩ := server_post origin run plain object'
  refine ⟨_, 1, noted, answers, notes, rfl, ?_, ?_, _, (Json.Stamped.withField_id object _).id?_eq⟩
  · change [_] = [Request.renameIds _ _]
    rw [Request.renameIds, renamePath_endpoint]
    exact List.mem_append_left _ plain
  · rw [renameIds_withField_id, mirrored.dryName_next 0 enough]

/-- What identifiers are called that the store gives after some others. -/
theorem Mirrored.map_dryName (mirrored : Mirrored origin store run) (given : Nat) {amount : Nat}
    (enough : store.allocated + given + amount ≤ origin.allocated + count) :
    ((List.range' (store.allocated + given + 1) amount).map Store.ident).map
      (dryName origin count) = idents (run.allocated + given + 1) amount := by
  rw [idents, List.map_map, List.range'_eq_map_range, List.range'_eq_map_range, List.map_map,
    List.map_map]
  refine List.map_congr_left fun place member => ?_
  rw [List.mem_range] at member
  have next : dryName origin count (Store.ident (store.allocated + (given + place) + 1)) = _ :=
    mirrored.dryName_next (given + place) (by omega)
  simp only [Function.comp_apply]
  rw [show store.allocated + given + 1 + place = store.allocated + (given + place) + 1 by omega,
    next]
  congr 1
  omega

/-- The entries of charts, renamed. -/
theorem renameIds_placedEntries (rename : String → String) (ids : List String) (place : Nat) :
    (Store.placedEntries ids place).map (Json.renameIds rename) =
      Store.placedEntries (ids.map rename) place := by
  induction ids generalizing place with
  | nil => rfl
  | cons id rest ih =>
      rw [Store.placedEntries, List.map_cons, ih, List.map_cons, Store.placedEntries,
        Store.placedEntry, Json.renameIds_record]
      rfl

/-- The document of a dashboard that was created, renamed. -/
theorem renameIds_dashboardDocument (rename : String → String) (name groupId : String)
    (layout : List Json) (id : String) :
    (Store.dashboardDocument name groupId layout id).renameIds rename =
      Store.dashboardDocument name (rename groupId) (layout.map (Json.renameIds rename))
        (rename id) := by
  rw [Store.dashboardDocument, renameIds_withField_id, Json.renameIds_record,
    Store.dashboardDocument, ← Json.renameItems_eq_map]
  rfl

/-- A dashboard is created from charts. -/
theorem mirrors_post_simple (mirrored : Mirrored origin store run) {charts : List Json}
    (objects : ∀ chart ∈ charts, chart.isObject = true) (name : String) :
    Mirrors answer origin count (Plan.post "/dashboard/simple" [("name", name)] (.arr charts))
      (Plan.post "/dashboard/simple" [("name", name)]
        (.arr (charts.map (Json.renameIds (dryName origin count))))) store run
      fun reply reply' _ => reply' = reply.renameIds (dryName origin count) ∧
        ∃ n, reply.id? = some (Store.ident n) := by
  refine mirrors_call mirrored fun reply after answered enough => ?_
  obtain ⟨left, answers, added⟩ := Store.server_post_simple objects name store
  rw [answers] at answered
  obtain ⟨same, rfl⟩ := Prod.mk.inj answered
  obtain rfl := Except.ok.inj same
  have objects' : ∀ chart ∈ charts.map (Json.renameIds (dryName origin count)),
      chart.isObject = true := by
    intro chart member
    obtain ⟨body, among, rfl⟩ := List.mem_map.mp member
    simpa using objects body among
  obtain ⟨noted, answers', notes⟩ := server_post_simple origin run objects' name
  rw [List.length_map] at answers' notes
  have allocated := added.allocated
  refine ⟨_, _, noted, answers', notes, by omega, ?_, ?_, _,
    (Json.Stamped.withField_id (Json.isRecord_record _).isObject _).id?_eq⟩
  · change [_] = [Request.renameIds _ _]
    rw [Request.renameIds, renamePath_endpoint _ _ (by simp), Json.renameIds,
      Json.renameItems_eq_map]
  · have group : dryName origin count (Store.ident (store.allocated + 1)) =
        ident (run.allocated + 1) := mirrored.dryName_next 0 (by omega)
    have ids : (store.allocate.freshIds charts.length).map (dryName origin count) =
        idents (run.allocated + 2) charts.length := mirrored.map_dryName 1 (by omega)
    have own : dryName origin count (Store.ident (store.allocated + charts.length + 2)) =
        ident (run.allocated + charts.length + 2) :=
      mirrored.dryName_next (charts.length + 1) (by omega)
    rw [renameIds_dashboardDocument, renameIds_placedEntries, group, ids, own]

/-- Something is replaced. -/
theorem mirrors_put (mirrored : Mirrored origin store run) {path path' : String} {body : Json}
    (object : body.isObject = true)
    (renamed : ∀ old, store.documents.get? path = some old →
      path' = renamePath (dryName origin count) path) :
    Mirrors answer origin count (Plan.put path body)
      (Plan.put path' (body.renameIds (dryName origin count))) store run
      fun reply reply' after => reply' = reply.renameIds (dryName origin count) ∧
        after = store.set path (body.withField "id" (.str (Store.lastSegment path))) := by
  refine mirrors_call mirrored fun reply after answered enough => ?_
  cases stored : store.documents.get? path with
  | none =>
      rw [Store.server_eq_perform] at answered
      simp [Store.answer, Store.put, Store.perform_fetch, stored] at answered
  | some old =>
      rw [Store.server_put stored (mirrored.sound.identified stored) object] at answered
      obtain ⟨same, rfl⟩ := Prod.mk.inj answered
      obtain rfl := Except.ok.inj same
      have object' : (body.renameIds (dryName origin count)).isObject = true := by simpa
      obtain ⟨noted, answers, notes⟩ := server_put origin run path' object'
      obtain rfl := renamed old stored
      refine ⟨_, 0, noted, answers, notes, rfl, rfl, ?_, rfl⟩
      obtain ⟨endpoint, n, rfl, -, -, -⟩ := mirrored.sound.issued path old stored
      rw [renameIds_withField_id, renamePath_append _ _ (Store.slash_not_mem_ident n),
        Store.lastSegment_append endpoint (Store.slash_not_mem_ident n),
        Store.lastSegment_append endpoint]
      exact slash_not_mem_rename _ (Store.slash_not_mem_ident n)

/-- Something is deleted. -/
theorem mirrors_delete (mirrored : Mirrored origin store run) {path path' : String}
    (renamed : ∀ old, store.documents.get? path = some old →
      path' = renamePath (dryName origin count) path) :
    Mirrors answer origin count (Plan.delete path) (Plan.delete path') store run
      fun _ _ after => after.allocated = store.allocated := by
  change Mirrors answer origin count (Plan.call (.delete path) .done >>= fun _ => pure ())
    (Plan.call (.delete path') .done >>= fun _ => pure ()) store run _
  suffices deletes : Mirrors answer origin count (.call (.delete path) .done)
      (.call (.delete path') .done) store run
      fun _ _ after => after.allocated = store.allocated from
    mirrors_bind deletes fun _ _ _ _ mirroredToo same => mirrors_pure mirroredToo same
  refine mirrors_call mirrored fun reply after answered enough => ?_
  have same := Store.allocated_delete path store
  rw [answered] at same
  cases stored : store.documents.get? path with
  | none =>
      rw [Store.server_eq_perform] at answered
      simp only [Store.answer, Store.delete, Store.perform_bind, Store.perform_fetch, stored]
        at answered
      cases answered
  | some old =>
      obtain ⟨noted, answers, notes⟩ := server_delete origin run path'
      obtain rfl := renamed old stored
      exact ⟨_, 0, noted, answers, notes, same, rfl, same⟩

/-- What must have an identifier has it under its name in the dry run. -/
theorem mirrors_requireId (mirrored : Mirrored origin store run) (document : Json) :
    Mirrors answer origin count (requireId document)
      (requireId (document.renameIds (dryName origin count))) store run
      fun id id' after => after = store ∧ document.id? = some id ∧
        id' = dryName origin count id := by
  have renamed : (document.renameIds (dryName origin count)).id? = _ := Json.id?_renameIds document
  cases held : document.id? with
  | none =>
      rw [requireId, held]
      exact mirrors_fail _ _
  | some id =>
      rw [held] at renamed
      rw [requireId, requireId, held, renamed]
      exact mirrors_pure mirrored ⟨rfl, rfl, rfl⟩

/-- Looking resources up by name before the first change. -/
theorem mirrors_findMatches (mirrored : Mirrored origin origin run) (kind : Kind)
    (name : String) :
    Mirrors answer origin count (findMatches kind name) (findMatches kind name) origin run
      fun found found' after => after = origin ∧ found' = found ∧
        ∀ document ∈ found, ∃ path, origin.documents.get? path = some document := by
  refine mirrors_bind (mirrors_search mirrored kind name) ?_
  rintro _ found origin noted mirroredToo ⟨rfl, rfl, stored⟩
  exact mirrors_pure mirroredToo
    ⟨rfl, rfl, fun document member => stored document (List.mem_filter.mp member).1⟩

/-- A resource that is found by its name before the first change. -/
theorem mirrors_findUnique (mirrored : Mirrored origin origin run) (kind : Kind)
    (name : String) :
    Mirrors answer origin count (findUnique kind name) (findUnique kind name) origin run
      fun found found' after => after = origin ∧ found' = found ∧
        ∀ document ∈ found, ∃ path, origin.documents.get? path = some document := by
  refine mirrors_bind (mirrors_findMatches mirrored kind name) ?_
  rintro _ found origin noted mirroredToo ⟨rfl, rfl, stored⟩
  match found with
  | [] => exact mirrors_pure mirroredToo ⟨rfl, rfl, fun document member => nomatch member⟩
  | [document] =>
      refine mirrors_pure mirroredToo ⟨rfl, rfl, fun other member => ?_⟩
      obtain rfl := Option.mem_some_iff.mp member
      exact stored document (List.mem_singleton.mpr rfl)
  | _ :: _ :: _ => exact mirrors_fail _ _

/-- A resource that must be found by its name before the first change. -/
theorem mirrors_requireUnique (mirrored : Mirrored origin origin run) (kind : Kind)
    (name : String) :
    Mirrors answer origin count (requireUnique kind name) (requireUnique kind name) origin run
      fun found found' after => after = origin ∧ found' = found ∧
        ∃ path, origin.documents.get? path = some found := by
  refine mirrors_bind (mirrors_findUnique mirrored kind name) ?_
  rintro _ found origin noted mirroredToo ⟨rfl, rfl, stored⟩
  cases found with
  | none => exact mirrors_fail _ _
  | some document => exact mirrors_pure mirroredToo ⟨rfl, rfl, stored document rfl⟩

/-- Whether a resource may be created is told before the first change. -/
theorem mirrors_guardCreate (mirrored : Mirrored origin origin run) (kind : Kind)
    (name : String) (options : CreateOptions) :
    Mirrors answer origin count (guardCreate kind name options) (guardCreate kind name options)
      origin run fun _ _ after => after = origin := by
  unfold guardCreate
  split
  · exact mirrors_pure mirrored rfl
  refine mirrors_bind (mirrors_findMatches mirrored kind name) ?_
  rintro _ found origin noted mirroredToo ⟨rfl, rfl, -⟩
  split
  · exact mirrors_pure mirroredToo rfl
  split
  · refine mirrors_bind (mirrors_confirm mirroredToo _) ?_
    rintro _ consent origin last mirroredLast ⟨rfl, rfl⟩
    split
    · exact mirrors_pure mirroredLast rfl
    · exact mirrors_fail _ _
  split
  · exact mirrors_fail _ _
  · exact mirrors_fail _ _

end SignalBoard.DryRun
