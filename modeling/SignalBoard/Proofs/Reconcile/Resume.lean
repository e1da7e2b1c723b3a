/-
# Resuming an update

An update that was interrupted is resumed by running it again. Whatever it did before it was
refused, the dashboard is still the old one, and every chart that it has not deleted is stored under
the name it had. So the next run finds what the first one found, unless a chart was deleted that the
dashboard still names: that chart is asked for before anything else is done, and so the next run
fails where it stands, as does every run after it.
-/

import SignalBoard.Proofs.Plan.Interrupted
import SignalBoard.Proofs.Reconcile.Converge

namespace SignalBoard

/-- A document that is not stored cannot be replaced. -/
theorem Store.server_put_of_none {store : Store} {path : String}
    (absent : store.documents.get? path = none) (body : Json) :
    server (.put path body) store = (.error (.notFound path), store) := by
  rw [server_eq_perform]
  simp only [answer, put, perform_bind, perform_fetch, absent]

/-- A document that is not stored cannot be deleted. -/
theorem Store.server_delete_of_none {store : Store} {path : String}
    (absent : store.documents.get? path = none) :
    server (.delete path) store = (.error (.notFound path), store) := by
  rw [server_eq_perform]
  simp only [answer, delete, perform_bind, perform_fetch, absent]

/-- A document that is not stored cannot be read. -/
theorem Store.server_get_of_none {store : Store} {path : String}
    (absent : store.documents.get? path = none) :
    server (.get path) store = (.error (.notFound path), store) := by
  rw [server_eq_perform, answer, perform_fetch, absent]

namespace Dashboard

variable {answer : Question → Bool} {dashboard : Dashboard} {store state : Store} {id : String}
  {remote : Json} {sent : List Request} {request : Request}

/-- What is sent before a stored dashboard is written: documents are read, charts get the fields of
the local charts of their names, charts are created, and charts of the layout are deleted. -/
inductive Prepares (store : Store) (remote : Json) : Request → Prop
  | search (kind : Kind) (name : String) : Prepares store remote (.search kind name)
  | read (path : String) : Prepares store remote (.get path)
  | revise (id : String) (chart : Chart) (old : Json)
      (named : ∀ document, store.documents.get? (Kind.chart.path id) = some document →
        document.name? = some chart.name) :
      Prepares store remote (.put (Kind.chart.path id) (old.overlay chart.document))
  | create (chart : Chart) : Prepares store remote (.post Kind.chart.endpoint [] chart.document)
  | discard (id : String) (onLayout : id ∈ Layout.chartIds remote) :
      Prepares store remote (.delete (Kind.chart.path id))

/-- A store on the way of an update, after some of its requests: only charts have changed, those of
the deleted paths are gone, and the others have the names they had. -/
structure Underway (store : Store) (remote : Json) (sent : List Request) (state : Store) :
    Prop where
  sound : state.Sound
  given : store.allocated ≤ state.allocated
  others : ∀ path, (∀ id, path ≠ Kind.chart.path id) →
    state.documents.get? path = store.documents.get? path
  kept : ∀ id old, store.documents.get? (Kind.chart.path id) = some old →
    .delete (Kind.chart.path id) ∉ sent →
    ∃ new, state.documents.get? (Kind.chart.path id) = some new ∧ new.name? = old.name?
  gone : ∀ path, .delete path ∈ sent →
    ∃ id ∈ Layout.chartIds remote, path = Kind.chart.path id ∧ state.documents.get? path = none

namespace Underway

/-- An update that has sent nothing. -/
theorem refl (sound : store.Sound) (remote : Json) : Underway store remote [] store where
  sound := sound
  given := Nat.le_refl _
  others := fun _ _ => rfl
  kept := fun _ old stored _ => ⟨old, stored, rfl⟩
  gone := fun _ deleted => nomatch deleted

/-- Whatever is sent, a store stays sound and takes no identifier back. The rest is told by what
becomes of the documents. -/
theorem append (underway : Underway store remote sent state)
    (others : ∀ path, (∀ id, path ≠ Kind.chart.path id) →
      (Store.server request state).2.documents.get? path = state.documents.get? path)
    (kept : ∀ id old, store.documents.get? (Kind.chart.path id) = some old →
      .delete (Kind.chart.path id) ∉ sent → .delete (Kind.chart.path id) ≠ request →
      ∃ new, (Store.server request state).2.documents.get? (Kind.chart.path id) = some new ∧
        new.name? = old.name?)
    (gone : ∀ path, .delete path ∈ sent ∨ .delete path = request →
      ∃ id ∈ Layout.chartIds remote, path = Kind.chart.path id ∧
        (Store.server request state).2.documents.get? path = none) :
    Underway store remote (sent ++ [request]) (Store.server request state).2 where
  sound := Store.sound_server request state underway.sound
  given := underway.given.trans (Store.evolves_server request state).allocated_le
  others := fun path notChart => (others path notChart).trans (underway.others path notChart)
  kept := fun id old stored still => kept id old stored
    (fun deleted => still (List.mem_append_left _ deleted))
    (fun same => still (by simp [same]))
  gone := fun path deleted => gone path (by simpa using deleted)

/-- A request that leaves the store alone and is no deletion. -/
theorem append_of_same (underway : Underway store remote sent state)
    (same : (Store.server request state).2 = state) (notDelete : ∀ path, .delete path ≠ request) :
    Underway store remote (sent ++ [request]) (Store.server request state).2 := by
  apply underway.append <;> rw [same]
  · exact fun _ _ => rfl
  · exact fun id old stored still _ => underway.kept id old stored still
  · exact fun path deleted => underway.gone path (deleted.resolve_right (notDelete path))

/-- A chart gets the fields of a local chart that has the name it had. -/
theorem revise (underway : Underway store remote sent state) {chart : Chart} (old : Json)
    (named : ∀ document, store.documents.get? (Kind.chart.path id) = some document →
      document.name? = some chart.name) :
    let request := .put (Kind.chart.path id) (old.overlay chart.document)
    Underway store remote (sent ++ [request]) (Store.server request state).2 := by
  intro request
  cases found : state.documents.get? (Kind.chart.path id) with
  | none =>
      exact underway.append_of_same (by rw [Store.server_put_of_none found]) (by simp [request])
  | some document =>
      have object := Json.isObject_overlay chart.isObject_document old
      have answered := Store.server_put found (underway.sound.identified found) object
      apply underway.append <;> rw [answered]
      case others =>
        intro path notChart
        rw [Store.get?_set, if_neg (notChart id)]
      case kept =>
        intro id' old' stored still _
        rw [Store.get?_set]
        split
        case isTrue here =>
          exact ⟨_, rfl, (chart.name?_revise _ old).trans (named old' (here ▸ stored)).symm⟩
        case isFalse => exact underway.kept id' old' stored still
      case gone =>
        intro path deleted
        obtain ⟨id', onLayout, rfl, absent⟩ :=
          underway.gone path (deleted.resolve_right (by simp [request]))
        refine ⟨id', onLayout, rfl, ?_⟩
        rw [Store.get?_set, if_neg, absent]
        intro here
        rw [here, found] at absent
        cases absent

/-- A chart is created under an identifier that neither a stored chart has nor one of the layout. -/
theorem create (underway : Underway store remote sent state) (sound : store.Sound)
    (placed : ∀ id ∈ Layout.chartIds remote, (store.resource? .chart id).isSome) (chart : Chart) :
    let request := .post Kind.chart.endpoint [] chart.document
    Underway store remote (sent ++ [request]) (Store.server request state).2 := by
  intro request
  let created := Kind.chart.path (Store.ident (state.allocated + 1))
  have answered : Store.server request state =
      (_, state.allocate.set created (chart.document.withField "id" _)) :=
    Store.server_post (by decide) chart.isObject_document []
  have fresh : state.documents.get? created = none :=
    underway.sound.get?_fresh (Nat.lt_succ_self _) Kind.chart.endpoint
  -- What was stored before the update has an older identifier.
  have unknown : store.documents.get? created = none :=
    sound.get?_fresh (Nat.lt_succ_of_le underway.given) Kind.chart.endpoint
  apply underway.append <;> rw [answered]
  case others =>
    intro path notChart
    rw [Store.get?_set, if_neg (notChart _), Store.documents_allocate]
  case kept =>
    intro id' old' stored still _
    obtain ⟨new, storedNew, sameName⟩ := underway.kept id' old' stored still
    refine ⟨new, ?_, sameName⟩
    rw [Store.get?_set, if_neg, Store.documents_allocate, storedNew]
    intro here
    rw [here, fresh] at storedNew
    cases storedNew
  case gone =>
    intro path deleted
    obtain ⟨id', onLayout, rfl, absent⟩ :=
      underway.gone path (deleted.resolve_right (by simp [request]))
    refine ⟨id', onLayout, rfl, ?_⟩
    rw [Store.get?_set, if_neg, Store.documents_allocate, absent]
    intro here
    obtain ⟨old, stored⟩ := Option.isSome_iff_exists.mp (placed id' onLayout)
    rw [← here, Store.get?_of_resource? stored] at unknown
    cases unknown

/-- What is stored after a chart was deleted, or was to be deleted and is not stored. -/
theorem get?_deleted (state : Store) (id path : String) :
    (Store.server (.delete (Kind.chart.path id)) state).2.documents.get? path =
      if path = Kind.chart.path id then none else state.documents.get? path := by
  cases found : state.documents.get? (Kind.chart.path id) with
  | none =>
      rw [Store.server_delete_of_none found]
      split
      case isTrue here => rw [here, found]
      case isFalse => rfl
  | some document => rw [Store.server_delete_chart found, Store.get?_remove]

/-- A chart of the layout is deleted. -/
theorem discard (underway : Underway store remote sent state)
    (onLayout : id ∈ Layout.chartIds remote) :
    let request := .delete (Kind.chart.path id)
    Underway store remote (sent ++ [request]) (Store.server request state).2 := by
  intro request
  apply underway.append
  case others =>
    intro path notChart
    rw [get?_deleted, if_neg (notChart id)]
  case kept =>
    intro id' old' stored still apart
    rw [get?_deleted, if_neg fun here => apart (congrArg _ here)]
    exact underway.kept id' old' stored still
  case gone =>
    intro path deleted
    rw [get?_deleted]
    split
    case isTrue here => exact ⟨id, onLayout, here, rfl⟩
    case isFalse elsewhere =>
      exact underway.gone path (deleted.resolve_right fun same =>
        elsewhere (Request.delete.inj same))

/-- Every request before the last one keeps to what is known. -/
theorem step (underway : Underway store remote sent state) (sound : store.Sound)
    (placed : ∀ id ∈ Layout.chartIds remote, (store.resource? .chart id).isSome)
    (prepares : Prepares store remote request) :
    Underway store remote (sent ++ [request]) (Store.server request state).2 := by
  cases prepares with
  | search kind name => exact underway.append_of_same rfl (by simp)
  | read path =>
      apply underway.append_of_same _ (by simp)
      rw [Store.server_eq_perform, Store.answer, Store.fetch_snd]
  | revise id chart old named => exact underway.revise old named
  | create chart => exact underway.create sound placed chart
  | discard id onLayout => exact underway.discard onLayout

/-- The dashboards are the old ones. -/
theorem resource?_eq (underway : Underway store remote sent state) {kind : Kind}
    (notChart : kind ≠ .chart) (id : String) :
    state.resource? kind id = store.resource? kind id :=
  Store.resource?_congr (underway.others _ fun _ => Kind.path_ne notChart _ _)

/-- A chart that was not deleted is stored under its name. -/
theorem resource?_chart (underway : Underway store remote sent state)
    (whole : ∀ path, .delete path ∉ sent) {chartId : String} {old : Json}
    (stored : store.resource? .chart chartId = some old) :
    ∃ new, state.resource? .chart chartId = some new ∧ new.name? = old.name? := by
  rw [Store.resource?_of_clean (Store.clean_of_resource? stored)]
  exact underway.kept chartId old (Store.get?_of_resource? stored) (whole _)

/-- As long as no chart was deleted, a consistent store stays consistent. -/
theorem consistent (underway : Underway store remote sent state)
    (whole : ∀ path, .delete path ∉ sent) (before : store.Consistent) : state.Consistent := by
  have dashboards : ∀ id, state.resource? .dashboard id = store.resource? .dashboard id :=
    underway.resource?_eq (by decide)
  constructor
  case identified => exact fun _ _ stored => underway.sound.identified stored
  case placed =>
    intro id' board stored chartId member
    rw [dashboards] at stored
    obtain ⟨old, there⟩ := Option.isSome_iff_exists.mp (before.placed id' board stored _ member)
    obtain ⟨new, still, -⟩ := underway.resource?_chart whole there
    simp [still]
  case once =>
    intro id' board stored
    exact before.once id' board (dashboards id' ▸ stored)
  case apart =>
    intro first second board board' stored stored'
    exact before.apart first second board board' (dashboards first ▸ stored)
      (dashboards second ▸ stored')

/-- As long as no chart was deleted, the layout shows the names that it showed. -/
theorem nameAt?_eq (underway : Underway store remote sent state)
    (whole : ∀ path, .delete path ∉ sent)
    (placed : ∀ id ∈ Layout.chartIds remote, (store.resource? .chart id).isSome) {entry : Json}
    (member : entry ∈ (remote.field "charts").items) :
    state.nameAt? entry = store.nameAt? entry := by
  cases names : Layout.chartId? entry with
  | none => simp [Store.nameAt?, names]
  | some chartId =>
      have onLayout : chartId ∈ Layout.chartIds remote :=
        List.mem_filterMap.mpr ⟨entry, member, names⟩
      obtain ⟨old, stored⟩ := Option.isSome_iff_exists.mp (placed chartId onLayout)
      obtain ⟨new, still, sameName⟩ := underway.resource?_chart whole stored
      rw [Store.nameAt?_eq names still, Store.nameAt?_eq names stored, sameName]

end Underway

/-- Updating a placed chart prepares. -/
theorem sends_updatePlaced_prepares (valid : dashboard.check = .ok ()) {entry : Json} :
    Plan.Sends (Prepares store remote) (dashboard.updatePlaced (store.placed entry)) := by
  unfold updatePlaced
  split
  case h_2 => exact Plan.sends_pure ()
  case h_1 chart found =>
    obtain ⟨isLocal, sameName⟩ := mem_of_chartNamed? found
    have valid := check_charts valid chart isLocal
    have named : ∀ document,
        store.documents.get? (Kind.chart.path (store.placed entry).id) = some document →
        document.name? = some chart.name := by
      intro document stored
      rw [Store.placed_name_eq stored] at sameName
      cases held : document.name? with
      | none => exact absurd (by simpa [held] using sameName) (Chart.name_ne_empty valid)
      | some name => simpa [held] using sameName.symm
    rw [Chart.updateById, Chart.payload_eq valid]
    apply Plan.sends_bind _ fun _ => Plan.sends_pure _
    apply Plan.sends_call (.read _)
    intro old
    exact Plan.sends_call (.revise _ chart old named) fun _ => Plan.sends_pure _

/-- Creating charts prepares. -/
theorem sends_addCharts_prepares {charts : List Chart}
    (valid : ∀ chart ∈ charts, chart.check = .ok ()) (row : UInt64) :
    Plan.Sends (Prepares store remote) (addCharts charts row) := by
  induction charts generalizing row with
  | nil => exact Plan.sends_pure _
  | cons chart rest ih =>
      rw [addCharts, Chart.createUnguarded, Chart.payload_eq (valid chart List.mem_cons_self)]
      apply Plan.sends_call (.create chart)
      intro created
      apply Plan.sends_requireId
      intro id
      exact Plan.sends_bind (ih (fun other later => valid other (.tail _ later)) _)
        fun _ => Plan.sends_pure _

/-- Reconciling the charts of a dashboard prepares. -/
theorem prepares_reconcileCharts (valid : dashboard.check = .ok ())
    (placeable : Placeable store (Layout.entries remote)) :
    ∀ request ∈ ((dashboard.reconcileCharts (Layout.entries remote)).run Store.server answer
      store).requests, Prepares store remote request := by
  have reading : Plan.Ensures Store.server answer ((Layout.entries remote).mapM readPlaced) store
      fun placed after => placed = (Layout.entries remote).map store.placed ∧ after = store := by
    refine ensures_readPlaced fun entry member => ?_
    obtain ⟨_, found, -⟩ := placeable.stored _ (placeable.mem_ids member)
    simp [found]
  obtain ⟨_, ended, rfl, -⟩ := reading
  intro request sent
  unfold reconcileCharts at sent
  rw [Plan.requests_bind ended, List.mem_append] at sent
  cases sent with
  | inl read =>
      have sends : Plan.Sends (Prepares store remote)
          ((Layout.entries remote).mapM readPlaced) :=
        Plan.sends_mapM fun _ => Plan.sends_call (.read _) fun _ => Plan.sends_pure _
      exact sends.requests store request read
  | inr later =>
      -- Once the charts are read, what is sent does not depend on the replies.
      refine Plan.Sends.requests ?_ _ request later
      apply Plan.sends_bind
      · apply Plan.sends_forM
        intro chart member
        obtain ⟨entry, -, rfl⟩ := List.mem_map.mp member
        exact sends_updatePlaced_prepares valid
      intro _
      apply Plan.sends_bind
      · exact sends_addCharts_prepares (fun chart member =>
          check_charts valid chart (List.mem_filter.mp member).1) _
      intro added
      refine Plan.sends_bind (Plan.sends_forM fun chart isStale => ?_) fun _ => Plan.sends_pure _
      obtain ⟨entry, member, same, -⟩ := exists_of_mem_stale (List.mem_map_of_mem isStale)
      have onLayout := placeable.mem_ids member
      rw [same, Layout.filterMap_entries] at onLayout
      exact Plan.sends_call (.discard chart.id onLayout) fun _ => Plan.sends_pure _

/-- All requests of an update but the last one prepare. -/
theorem exists_requests_update (valid : dashboard.check = .ok ()) (sound : store.Sound)
    (overrides : Overrides) (alone : store.named .dashboard dashboard.name = [remote])
    (stored : store.resource? .dashboard id = some remote)
    (placeable : Placeable store (Layout.entries remote)) (answer : Question → Bool) :
    ∃ prepared last, ((dashboard.update overrides).run Store.server answer store).requests =
      prepared ++ [last] ∧ ∀ request ∈ prepared, Prepares store remote request := by
  have identified := (sound.id_of_resource? stored).1
  have object := sound.isObject (Store.get?_of_resource? stored)
  have unique : store.named .dashboard dashboard.name = (some remote).toList := alone
  have looking : Plan.Ensures Store.server answer (findUnique .dashboard dashboard.name) store _ :=
    Store.ensures_findUnique unique
  have reconciling : Plan.Ensures Store.server answer
      (dashboard.reconcileCharts (Layout.entries remote)) store _ :=
    ensures_reconcileCharts valid sound placeable
  obtain ⟨_, found, rfl, still⟩ := looking
  obtain ⟨charts, ended, -, -⟩ := reconciling
  have laid : (dashboard.withSettings (remote.withField "charts" (.arr charts))).isObject = true :=
    isObject_withSettings dashboard (by simpa)
  have assigned : Plan.assign "charts" (.arr charts) remote =
      pure (remote.withField "charts" (.arr charts)) := Plan.assign_eq object _ _
  let body := overrides.applied (dashboard.withSettings (remote.withField "charts" (.arr charts)))
  refine ⟨(findUnique .dashboard dashboard.name |>.run Store.server answer store).requests ++
    ((dashboard.reconcileCharts (Layout.entries remote)).run Store.server answer store).requests,
    .put (Kind.dashboard.path id) body, ?_, ?_⟩
  · unfold update
    rw [Plan.checked_eq valid, pure_bind, Plan.requests_bind found, still]
    dsimp only
    rw [requireId_eq identified, pure_bind, Plan.requests_bind ended, assigned, pure_bind,
      Overrides.apply_eq overrides laid, pure_bind, Plan.requests_put, List.append_assoc]
  · intro request sent
    cases List.mem_append.mp sent with
    | inl searched =>
        have sends : Plan.Sends (Prepares store remote) (findUnique .dashboard dashboard.name) :=
          Plan.sends_findUnique (.search ..)
        exact sends.requests store request searched
    | inr reconciled => exact prepares_reconcileCharts valid placeable request reconciled

/-- An update that is interrupted leaves the store on its way, after the requests before. -/
theorem underway_of_interrupted (valid : dashboard.check = .ok ()) (sound : store.Sound)
    (consistent : store.Consistent) (overrides : Overrides)
    (alone : store.named .dashboard dashboard.name = [remote])
    (stored : store.resource? .dashboard id = some remote) (fault : Fault) {place : Nat}
    (early : place <
      ((dashboard.update overrides).run Store.server answer store).requests.length) :
    let run := (dashboard.update overrides).run (Store.server.interrupted place fault) answer
      (store, 0)
    run.result = .error fault ∧ Underway store remote
      (((dashboard.update overrides).run Store.server answer store).requests.take place)
      run.state.1 := by
  intro run
  obtain ⟨prepared, last, requests, prepares⟩ := exists_requests_update valid sound overrides alone
    stored (consistent.placeable sound stored) answer
  obtain ⟨refused, left⟩ := Plan.run_interrupted (dashboard.update overrides) fault 0 early
  rw [Nat.zero_add] at refused left
  refine ⟨refused, ?_⟩
  -- The refused request comes no later than the last, so all before it prepare.
  have before : (prepared ++ [last]).take place = prepared.take place := by
    rw [requests, List.length_append, List.length_singleton] at early
    exact List.take_append_of_le_length (by omega)
  rw [requests, before] at left ⊢
  rw [left]
  have steps : ∀ request ∈ prepared.take place, ∀ sent state, Underway store remote sent state →
      Underway store remote (sent ++ [request]) (Store.server request state).2 :=
    fun request member sent state underway =>
      underway.step sound (consistent.placed id remote stored)
        (prepares request (List.mem_of_mem_take member))
  exact Server.after_keeps steps (Underway.refl sound remote)

/-- Reading the charts of a layout fails at the first one that is not stored. -/
theorem fails_readPlaced {entries : List Json}
    (missing : ∃ entry ∈ entries,
      store.documents.get? (Kind.chart.path (store.placed entry).id) = none) :
    ∃ entry ∈ entries, store.documents.get? (Kind.chart.path (store.placed entry).id) = none ∧
      Plan.Fails Store.server answer (entries.mapM readPlaced) store
        (.notFound (Kind.chart.path (store.placed entry).id)) := by
  induction entries with
  | nil => simp at missing
  | cons entry rest ih =>
      rw [List.mapM_cons]
      cases found : store.documents.get? (Kind.chart.path (store.placed entry).id) with
      | none =>
          refine ⟨entry, List.mem_cons_self, found, ?_⟩
          exact (Plan.fails_call (Store.server_get_of_none found)).bind _
      | some document =>
          have later : ∃ entry ∈ rest,
              store.documents.get? (Kind.chart.path (store.placed entry).id) = none := by
            obtain ⟨other, member, absent⟩ := missing
            cases List.mem_cons.mp member with
            | inl here =>
                rw [here, found] at absent
                cases absent
            | inr later => exact ⟨other, later, absent⟩
          obtain ⟨other, member, absent, fails⟩ := ih later
          refine ⟨other, .tail _ member, absent, ?_⟩
          have first : Plan.Ensures Store.server answer (readPlaced entry) store
              fun placed after => placed = store.placed entry ∧ after = store := by
            refine Plan.ensures_call (Store.server_get found) (Plan.ensures_pure ⟨?_, rfl⟩)
            rw [Store.placed] at found ⊢
            simp [found]
          exact Plan.fails_bind first (fails.bind _)

/-- As long as the layout names a chart that is not stored, an update fails and changes nothing. -/
theorem fails_update (valid : dashboard.check = .ok ()) (sound : store.Sound)
    (overrides : Overrides) (alone : store.named .dashboard dashboard.name = [remote])
    (stored : store.resource? .dashboard id = some remote)
    (missing : ∃ chartId ∈ Layout.chartIds remote,
      store.documents.get? (Kind.chart.path chartId) = none) :
    ∃ chartId ∈ Layout.chartIds remote,
      store.documents.get? (Kind.chart.path chartId) = none ∧
      Plan.Fails Store.server answer (dashboard.update overrides) store
        (.notFound (Kind.chart.path chartId)) := by
  have unique : store.named .dashboard dashboard.name = (some remote).toList := alone
  have among : ∀ chartId, chartId ∈ Layout.chartIds remote ↔
      ∃ entry ∈ Layout.entries remote, (store.placed entry).id = chartId := by
    intro chartId
    rw [← Layout.filterMap_entries, List.mem_filterMap]
    refine exists_congr fun entry => and_congr_right fun member => ?_
    rw [Store.chartId?_eq_placed store (List.mem_filter.mp member).2, Option.some_inj]
  have torn : ∃ entry ∈ Layout.entries remote,
      store.documents.get? (Kind.chart.path (store.placed entry).id) = none := by
    obtain ⟨_, onLayout, absent⟩ := missing
    obtain ⟨entry, member, rfl⟩ := (among _).mp onLayout
    exact ⟨entry, member, absent⟩
  have reading : ∃ entry ∈ Layout.entries remote, _ ∧ Plan.Fails Store.server answer
      ((Layout.entries remote).mapM readPlaced) store _ := fails_readPlaced torn
  obtain ⟨entry, member, absent, fails⟩ := reading
  refine ⟨_, (among _).mpr ⟨entry, member, rfl⟩, absent, ?_⟩
  unfold update
  rw [Plan.checked_eq valid, pure_bind]
  apply Plan.fails_bind (Store.ensures_findUnique unique)
  dsimp only
  rw [requireId_eq (sound.id_of_resource? stored).1, pure_bind]
  exact (fails.bind _).bind _

/-- In a store that is consistent, one dashboard has the name of the local one, and no chart name
occurs twice, neither here nor on the stored layout. -/
structure Updatable (dashboard : Dashboard) (store : Store) (id : String) (remote : Json) :
    Prop where
  reachable : store.Reachable
  consistent : store.Consistent
  valid : dashboard.check = .ok ()
  distinct : (dashboard.charts.map (·.name)).Nodup
  stored : store.resource? .dashboard id = some remote
  isNamed : remote.name? = some dashboard.name
  only : ∀ id' other, store.resource? .dashboard id' = some other →
    other.name? = some dashboard.name → id' = id
  remoteDistinct : ((remote.field "charts").items.filterMap store.nameAt?).Nodup

/-- An update that was interrupted is run again. If no chart was deleted before the request that
was refused, it succeeds and makes the dashboard the local one. Otherwise the stored dashboard still
names a deleted chart, and it fails without a change. -/
theorem update_interrupted (updatable : dashboard.Updatable store id remote)
    (overrides : Overrides) (fault : Fault) {place : Nat}
    (early : place <
      ((dashboard.update overrides).run Store.server answer store).requests.length) :
    let before := ((dashboard.update overrides).run Store.server answer store).requests.take place
    let first := (dashboard.update overrides).run (Store.server.interrupted place fault) answer
      (store, 0)
    first.result = .error fault ∧
      ((∀ path, .delete path ∉ before) →
        Plan.Ensures Store.server answer (dashboard.update overrides) first.state.1
          fun reply after => ∃ added,
            dashboard.Converged overrides first.state.1 after id remote reply added) ∧
      ((∃ path, .delete path ∈ before) →
        ∃ path, .delete path ∈ before ∧
          Plan.Fails Store.server answer (dashboard.update overrides) first.state.1
            (.notFound path)) := by
  intro before first
  obtain ⟨reachable, consistent, valid, distinct, stored, isNamed, only, remoteDistinct⟩ :=
    updatable
  have sound := reachable.sound
  have alone := Store.named_eq_singleton sound.ordered stored isNamed only
  obtain ⟨refused, underway⟩ :=
    underway_of_interrupted valid sound consistent overrides alone stored fault early
  have dashboards : ∀ id, first.state.1.resource? .dashboard id = store.resource? .dashboard id :=
    underway.resource?_eq (by decide)
  have stored' : first.state.1.resource? .dashboard id = some remote := (dashboards id).trans stored
  have only' : ∀ id' other, first.state.1.resource? .dashboard id' = some other →
      other.name? = some dashboard.name → id' = id :=
    fun id' other found => only id' other (dashboards id' ▸ found)
  refine ⟨refused, fun kept => ?_, fun ⟨path, deleted⟩ => ?_⟩
  · have names : (remote.field "charts").items.filterMap first.state.1.nameAt? =
        (remote.field "charts").items.filterMap store.nameAt? :=
      List.filterMap_congr fun entry member =>
        underway.nameAt?_eq kept (consistent.placed id remote stored) member
    exact ensures_update_of_sound underway.sound (underway.consistent kept consistent) valid
      distinct overrides stored' isNamed only' (names ▸ remoteDistinct)
  · obtain ⟨chartId, onLayout, rfl, absent⟩ := underway.gone path deleted
    obtain ⟨lost, named, missing, fails⟩ := fails_update valid underway.sound overrides
      (Store.named_eq_singleton underway.sound.ordered stored' isNamed only') stored'
      ⟨chartId, onLayout, absent⟩
    refine ⟨_, ?_, fails⟩
    -- A chart that was on the layout and is not there any more was deleted.
    by_contra still
    obtain ⟨old, there⟩ :=
      Option.isSome_iff_exists.mp (consistent.placed id remote stored lost named)
    obtain ⟨new, found, -⟩ := underway.kept lost old (Store.get?_of_resource? there) still
    rw [missing] at found
    cases found

/-- The dashboard of `oldStore` can be updated. -/
theorem exists_updatable_newBoard : ∃ remote, newBoard.Updatable oldStore "id-4" remote := by
  have reachable : oldStore.Reachable := .request _ .empty
  have alone : ∀ other ∈ oldStore.under Kind.dashboard.endpoint, other.id? = some "id-4" := by
    decide +kernel
  refine ⟨_, reachable, ?_, rfl, by decide, rfl, by decide +kernel, ?_, by decide +kernel⟩
  · exact reachable.sound.consistent (by decide +kernel) (by decide +kernel)
  · intro id' other stored _
    have identified := (reachable.sound.id_of_resource? stored).1
    have member := (Store.mem_under_iff reachable.sound.ordered ..).mpr ⟨id', stored⟩
    exact Option.some.inj (identified.symm.trans (alone other member))

/-- The update of `oldStore` is refused when it is about to delete a chart. One chart was revised by
then, and another one created that is on no layout. -/
theorem update_interrupted_newBoard :
    ∃ remote, newBoard.Updatable oldStore "id-4" remote ∧
      6 < ((newBoard.update {}).run Store.server (fun _ => false) oldStore).requests.length ∧
      let first := (newBoard.update {}).run (Store.server.interrupted 6 .unauthorized)
        (fun _ => false) (oldStore, 0)
      first.result = .error .unauthorized ∧
        Plan.Ensures Store.server (fun _ => false) (newBoard.update {}) first.state.1
          fun reply after => ∃ added,
            newBoard.Converged {} first.state.1 after "id-4" remote reply added := by
  obtain ⟨remote, updatable⟩ := exists_updatable_newBoard
  have early : 6 <
      ((newBoard.update {}).run Store.server (fun _ => false) oldStore).requests.length := by
    decide +kernel
  have kept : ∀ request ∈
      ((newBoard.update {}).run Store.server (fun _ => false) oldStore).requests.take 6,
      request.method ≠ "DELETE" := by decide +kernel
  obtain ⟨refused, resumed, -⟩ := update_interrupted updatable {} .unauthorized early
  exact ⟨remote, updatable, early, refused, resumed fun path deleted => kept _ deleted rfl⟩

/-- If it is refused one request later, when it is about to write the dashboard, the update cannot
be resumed: the chart that was deleted is on the stored layout. -/
theorem not_resumed_newBoard :
    ∃ remote, newBoard.Updatable oldStore "id-4" remote ∧
      7 < ((newBoard.update {}).run Store.server (fun _ => false) oldStore).requests.length ∧
      let first := (newBoard.update {}).run (Store.server.interrupted 7 .unauthorized)
        (fun _ => false) (oldStore, 0)
      first.result = .error .unauthorized ∧
        ((newBoard.update {}).run Store.server (fun _ => false) first.state.1).result =
          .error (.notFound "/chart/id-2") := by
  obtain ⟨remote, updatable⟩ := exists_updatable_newBoard
  exact ⟨remote, updatable, by decide +kernel, by decide +kernel, by decide +kernel⟩

end Dashboard

end SignalBoard
