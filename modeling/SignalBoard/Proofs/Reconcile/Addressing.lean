/-
# To which document a body is written

The path of a `PUT` and the identifier in its body come from different sources. The path is made of
what a search, a layout or a reply has told; the body is a stored document with something laid over
it, and has the identifier of that document as long as nothing with one is laid over it. A store
that is reached by its own operations tells the identifier under which it keeps a document, so the
two agree. Only a chart on a dashboard that is pinned to an identifier takes it along when it is
written over the stored chart of its name.
-/

import SignalBoard.Proofs.Plan.Relying
import SignalBoard.Proofs.Reconcile.Converge
import SignalBoard.Proofs.Store.Replies
import SignalBoard.Reconcile.Resource

namespace SignalBoard

open Plan

namespace Request

/-- The identifier in the body is that of the document at the path. -/
def Addressed : Request → Prop
  | put path body => body.id? = some (Store.lastSegment path)
  | _ => True

instance : DecidablePred Addressed
  | put path body => inferInstanceAs (Decidable (body.id? = some (Store.lastSegment path)))
  | search _ _ | get _ | post _ _ _ | delete _ => isTrue trivial

/-- One of the charts is written over a stored chart, with the identifier that it is pinned to. -/
def Pinned (charts : List Chart) : Request → Prop
  | put path body => ∃ chart ∈ charts, ∃ pin, chart.id = some pin ∧ body.id? = some pin ∧
      ∃ id, path = Kind.chart.path id
  | _ => False

/-- The request names the document that it writes, unless it writes a pinned chart. -/
def Named (charts : List Chart) (request : Request) : Prop :=
  request.Addressed ∨ request.Pinned charts

variable {charts : List Chart}

theorem named_search (kind : Kind) (name : String) : (search kind name).Named charts := .inl trivial

theorem named_get (path : String) : (get path).Named charts := .inl trivial

theorem named_post (path : String) (query : List (String × String)) (body : Json) :
    (post path query body).Named charts := .inl trivial

theorem named_delete (path : String) : (delete path).Named charts := .inl trivial

theorem named_put {kind : Kind} {id : String} {body : Json} (clean : '/' ∉ id.toList)
    (named : body.id? = some id) : (put (kind.path id) body).Named charts := by
  left
  rw [Addressed, named, Kind.path, Store.lastSegment_append _ clean]

end Request

/-- What writes no identifier leaves that of the document. -/
theorem Overrides.id?_applied (overrides : Overrides) {document : Json}
    (object : document.isObject = true) : (overrides.applied document).id? = document.id? := by
  rw [Json.id?, overrides.get?_applied object (by decide) (by decide), Json.id?]

/-- The identifier of what is laid over a document takes the place of the document's own. -/
theorem Json.id?_overlay {base upper : Json} (object : base.isObject = true)
    (record : upper.IsRecord) :
    (base.overlay upper).id? = ((upper.get? "id").or (base.get? "id")).bind Json.string? := by
  rw [Json.id?, Json.get?_overlay object record]

/-- What has no identifier of its own may be laid over a document. -/
theorem Json.id?_overlay_of_none {base upper : Json} (object : base.isObject = true)
    (record : upper.IsRecord) (unnamed : upper.get? "id" = none) :
    (base.overlay upper).id? = base.id? := by
  rw [Json.id?_overlay object record, unnamed, Option.none_or, Json.id?]

/-- What is found by name has an identifier without slashes, if it has one. -/
theorem relies_findUnique_clean {allowed : Request → Prop} {kind : Kind} {name : String}
    (admitted : allowed (.search kind name)) :
    (findUnique kind name).Relies Request.Honest allowed fun found =>
      ∀ document, found = some document → ∀ id, document.id? = some id → '/' ∉ id.toList := by
  apply (relies_findUnique admitted).mono
  rintro found among document isFound
  obtain ⟨reply, told, member⟩ := among document isFound
  exact told document member

namespace Chart

variable {charts : List Chart} (chart : Chart)

/-- A chart's document has the identifier that the chart is pinned to. -/
theorem get?_id_document : chart.document.get? "id" = chart.id.map Json.str := by
  rw [document, Json.get?_record (by simp)]
  rfl

/-- Over a chart that is read, the local one is written under its identifier, unless it is
pinned. -/
theorem relies_updateById (member : chart ∈ charts) (id : String) :
    (updateById id chart).Relies Request.Honest (Request.Named charts) fun _ => True := by
  apply relies_bind (relies_checked _)
  intro payload passed
  obtain rfl := document_of_payload passed
  apply relies_bind (relies_call (Request.named_get _) fun reply told => relies_pure told)
  intro remote (read : remote.id? = some (Store.lastSegment (Kind.chart.path id)))
  have laid := Json.id?_overlay (Json.isObject_of_id? read) chart.isRecord_document
  rw [get?_id_document] at laid
  refine relies_call ?_ fun _ _ => relies_pure trivial
  cases pinned : chart.id with
  | none =>
      left
      rw [pinned] at laid
      exact laid.trans read
  | some pin =>
      right
      rw [pinned] at laid
      exact ⟨chart, member, pin, pinned, laid, id, rfl⟩

/-- The stored chart that a chart stands for has the identifier that the chart is pinned to, unless
that is no single segment of a path. -/
theorem relies_find :
    chart.find.Relies Request.Honest (Request.Named charts) fun found =>
      ∀ remote, found = some remote → ∀ id, remote.id? = some id → '/' ∉ id.toList ∧
        ∀ pin, chart.id = some pin → '/' ∉ pin.toList → pin = id := by
  unfold find
  cases pinned : chart.id with
  | none =>
      apply (relies_findUnique_clean (Request.named_search ..)).mono
      exact fun found clean remote isFound id identified =>
        ⟨clean remote isFound id identified, nofun⟩
  | some pin =>
      refine ⟨Request.named_get _, fun remote told => relies_pure ?_⟩
      rintro _ ⟨⟩ id identified
      obtain rfl := Option.some.inj (told.symm.trans identified)
      refine ⟨Store.slash_not_mem_lastSegment _, ?_⟩
      rintro _ ⟨⟩ clean
      exact (Store.lastSegment_append _ clean).symm

/-- A chart that is updated by itself is found by its identifier, if it is pinned to one. -/
theorem relies_update (stray : ∀ pin, chart.id = some pin → '/' ∈ pin.toList → chart ∈ charts)
    (overrides : Overrides) :
    (chart.update overrides).Relies Request.Honest (Request.Named charts) fun _ => True := by
  apply relies_bind (relies_checked _)
  intro payload passed
  obtain rfl := document_of_payload passed
  apply relies_bind chart.relies_find
  rintro (_ | remote) found
  · simp only [overrides.apply_eq chart.isObject_document, pure_bind]
    exact relies_call (Request.named_post ..) fun _ _ => relies_pure trivial
  · apply relies_bind (relies_requireId remote)
    intro id identified
    obtain ⟨clean, isPin⟩ := found remote rfl id identified
    have laid := Json.id?_overlay (Json.isObject_of_id? identified) chart.isRecord_document
    have object := Json.isObject_overlay chart.isObject_document remote
    rw [get?_id_document, ← overrides.id?_applied object] at laid
    simp only [overrides.apply_eq object, pure_bind]
    refine relies_call ?_ fun _ _ => relies_pure trivial
    cases pinned : chart.id with
    | none =>
        rw [pinned] at laid
        exact Request.named_put clean (laid.trans identified)
    | some pin =>
        rw [pinned] at laid
        by_cases slash : '/' ∈ pin.toList
        · exact .inr ⟨chart, stray pin pinned slash, pin, pinned, laid, id, rfl⟩
        · obtain rfl := isPin pin pinned slash
          exact Request.named_put clean laid

end Chart

namespace Dashboard

variable {charts : List Chart} (dashboard : Dashboard)

/-- Settings have no identifier. -/
theorem id?_withSettings {document : Json} (object : document.isObject = true) :
    (dashboard.withSettings document).id? = document.id? := by
  rw [Json.id?, dashboard.get?_withSettings object (by decide), Json.id?]

/-- What is written for a dashboard in the end has the identifier of the document it is written
over. -/
theorem relies_putSettings {document : Json} {id : String} (clean : '/' ∉ id.toList)
    (identified : document.id? = some id) (overrides : Overrides) :
    (do
      let document ← overrides.apply (dashboard.withSettings document)
      Plan.put (Kind.dashboard.path id) document).Relies Request.Honest (Request.Named charts)
        fun _ => True := by
  have object := Json.isObject_of_id? identified
  have laid := dashboard.isObject_withSettings object
  rw [overrides.apply_eq laid, pure_bind]
  refine relies_call (Request.named_put clean ?_) fun _ _ => relies_pure trivial
  rw [overrides.id?_applied laid, dashboard.id?_withSettings object, identified]

theorem relies_createUnguarded (overrides : Overrides) :
    (dashboard.createUnguarded overrides).Relies Request.Honest (Request.Named charts)
      fun _ => True := by
  apply relies_bind (relies_checked _)
  intro payload _
  apply relies_bind (relies_call (Request.named_post ..) fun reply told => relies_pure told)
  intro created told
  split
  · exact relies_pure trivial
  · apply relies_bind (relies_requireId created)
    exact fun id identified =>
      dashboard.relies_putSettings (told id identified) identified overrides

/-- The missing charts are created, which addresses no document. -/
theorem relies_addCharts (missing : List Chart) (row : UInt64) :
    (addCharts missing row).Relies Request.Honest (Request.Named charts) fun _ => True := by
  induction missing generalizing row with
  | nil => exact relies_pure trivial
  | cons chart rest ih =>
      have create : chart.createUnguarded.Relies Request.Honest (Request.Named charts)
          fun _ => True := by
        apply relies_bind (relies_checked _)
        exact fun _ _ => relies_call (Request.named_post ..) fun _ _ => relies_pure trivial
      apply relies_bind create
      intro created _
      apply relies_bind (relies_requireId created)
      intro id _
      apply relies_bind (ih _)
      exact fun _ _ => relies_pure trivial

theorem relies_reconcileCharts (within : ∀ chart ∈ dashboard.charts, chart ∈ charts)
    (layout : List Json) :
    (dashboard.reconcileCharts layout).Relies Request.Honest (Request.Named charts)
      fun _ => True := by
  have reads : (layout.mapM readPlaced).Relies Request.Honest (Request.Named charts)
      fun placed => ∀ chart ∈ placed, True :=
    relies_mapM fun entry _ => relies_bind
      (relies_call (Request.named_get _) fun _ _ => relies_pure trivial)
      fun _ (_ : True) => relies_pure trivial
  apply relies_bind reads
  intro placed _
  have updates : (placed.forM dashboard.updatePlaced).Relies Request.Honest (Request.Named charts)
      fun _ => True := by
    refine relies_forM fun chart _ => ?_
    unfold updatePlaced
    split
    case h_1 own isOwn =>
      have member := within own (List.mem_of_find?_eq_some isOwn)
      exact relies_bind (own.relies_updateById member _) fun _ _ => relies_pure trivial
    case h_2 => exact relies_pure trivial
  apply relies_bind updates
  intro _ _
  apply relies_bind (relies_addCharts _ _)
  intro added _
  apply relies_bind (relies_forM fun chart _ =>
    relies_call (Request.named_delete _) fun _ _ => relies_pure trivial)
  exact fun _ _ => relies_pure trivial

theorem relies_update (within : ∀ chart ∈ dashboard.charts, chart ∈ charts)
    (overrides : Overrides) :
    (dashboard.update overrides).Relies Request.Honest (Request.Named charts) fun _ => True := by
  apply relies_bind (relies_checked _)
  intro _ _
  apply relies_bind (relies_findUnique_clean (Request.named_search ..))
  rintro (_ | remote) clean
  · exact dashboard.relies_createUnguarded overrides
  · apply relies_bind (relies_requireId remote)
    intro id identified
    apply relies_bind (dashboard.relies_reconcileCharts within _)
    intro entries _
    apply relies_bind (relies_assign _ _ _)
    intro document assigned
    have object := Json.isObject_of_id? identified
    rw [Json.assign_eq object] at assigned
    obtain rfl := Except.ok.inj assigned
    apply dashboard.relies_putSettings (clean remote rfl id identified)
    rw [Json.id?, Json.get?_withField object, if_neg (by decide), ← Json.id?, identified]

/-- Deleting a dashboard with its charts addresses no body. -/
theorem relies_deleteChartsOf (id : String) :
    (deleteChartsOf id).Relies Request.Honest (Request.Named charts) fun _ => True := by
  apply relies_bind (relies_call (Request.named_get _) fun _ _ => relies_pure trivial)
  intro remote (_ : True)
  exact relies_forM fun chartId _ =>
    relies_call (Request.named_delete _) fun _ _ => relies_pure trivial

theorem relies_deleteById (id : String) :
    (deleteById id).Relies Request.Honest (Request.Named charts) fun _ => True := by
  apply relies_bind (relies_deleteChartsOf id)
  exact fun _ _ => relies_call (Request.named_delete _) fun _ _ => relies_pure trivial

end Dashboard

namespace DashboardGroup

variable {charts : List Chart} (group : DashboardGroup)

theorem relies_cloneInto (groupId id : String) :
    (cloneInto groupId id).Relies Request.Honest (Request.Named charts) fun _ => True :=
  relies_call (Request.named_post ..) fun _ _ => relies_pure trivial

theorem relies_removeSources (target : String) (sources : List Placement) :
    (removeSources target sources).Relies Request.Honest (Request.Named charts) fun _ => True := by
  refine relies_forM fun ⟨groupId, ids⟩ _ => ?_
  apply relies_bind (relies_call (Request.named_get _) fun _ _ => relies_pure trivial)
  intro document (_ : True)
  split
  · apply relies_bind (relies_forM fun id _ => Dashboard.relies_deleteChartsOf id)
    exact fun _ _ => relies_call (Request.named_delete _) fun _ _ => relies_pure trivial
  · exact relies_forM fun id _ => Dashboard.relies_deleteById id

variable {group}

theorem relies_placements
    (within : ∀ dashboard ∈ group.dashboards, ∀ chart ∈ dashboard.charts, chart ∈ charts) :
    (group.dashboards.mapM placeDashboard).Relies Request.Honest (Request.Named charts)
      fun placements => ∀ placement ∈ placements, True := by
  refine relies_mapM fun dashboard member => ?_
  apply relies_bind (dashboard.relies_update (within dashboard member) {})
  intro remote _
  apply relies_bind (relies_requireId remote)
  exact fun _ _ => relies_pure trivial

theorem relies_createUnguarded
    (within : ∀ dashboard ∈ group.dashboards, ∀ chart ∈ dashboard.charts, chart ∈ charts)
    (overrides : Overrides) :
    (group.createUnguarded overrides).Relies Request.Honest (Request.Named charts)
      fun _ => True := by
  apply relies_bind (relies_checked _)
  intro payload passed
  have object : payload.isObject = true := by
    rcases valid : group.check with cause | ⟨⟩
    · simp [DashboardGroup.payload, valid, bind, Except.bind] at passed
    · rw [payload_eq valid] at passed
      obtain rfl := Except.ok.inj passed
      exact (Json.isRecord_record _).isObject
  rw [overrides.apply_eq object, pure_bind]
  apply relies_bind (relies_call (Request.named_post ..) fun reply told => relies_pure told)
  intro created told
  split
  · exact relies_pure trivial
  apply relies_bind (relies_requireId created)
  intro id _
  apply relies_bind (relies_placements within)
  intro placements _
  apply relies_bind (relies_forM fun placement _ =>
    relies_bind (relies_cloneInto id _) fun _ _ => relies_pure trivial)
  intro _ _
  apply relies_bind (relies_removeSources id placements)
  intro _ _
  have removal : ((members created).head?.forM Dashboard.deleteById).Relies Request.Honest
      (Request.Named charts) fun _ => True := by
    cases (members created).head? with
    | none => exact relies_pure trivial
    | some first => exact Dashboard.relies_deleteById first
  apply relies_bind removal
  exact fun _ _ => relies_call (Request.named_get _) fun _ _ => relies_pure trivial

theorem relies_reconcileDashboards
    (within : ∀ dashboard ∈ group.dashboards, ∀ chart ∈ dashboard.charts, chart ∈ charts)
    (id : String) :
    (group.reconcileDashboards id).Relies Request.Honest (Request.Named charts)
      fun _ => True := by
  apply relies_bind (relies_placements within)
  intro placements _
  have settles : (placements.mapM (settle id)).Relies Request.Honest (Request.Named charts)
      fun kept => ∀ member ∈ kept, True := by
    refine relies_mapM fun placement _ => ?_
    unfold settle
    split
    · exact relies_pure trivial
    · exact relies_bind (relies_cloneInto _ _) fun _ _ =>
        (relies_requireId _).mono fun _ _ => trivial
  apply relies_bind settles
  intro kept _
  apply relies_bind (relies_removeSources id placements)
  intro _ _
  apply relies_bind (relies_call (Request.named_get _) fun _ _ => relies_pure trivial)
  intro current (_ : True)
  apply relies_bind (relies_forM fun member _ => Dashboard.relies_deleteById member)
  exact fun _ _ => relies_pure trivial

theorem relies_update
    (within : ∀ dashboard ∈ group.dashboards, ∀ chart ∈ dashboard.charts, chart ∈ charts)
    (overrides : Overrides) :
    (group.update overrides).Relies Request.Honest (Request.Named charts) fun _ => True := by
  apply relies_bind (relies_checked _)
  rintro ⟨⟩ valid
  apply relies_bind (relies_findUnique_clean (Request.named_search ..))
  rintro (_ | remote) clean
  · exact relies_createUnguarded within overrides
  apply relies_bind (relies_requireId remote)
  intro id identified
  have object := Json.isObject_of_id? identified
  obtain ⟨fields, passed, record, foreign⟩ := unnamedPayload_eq valid
  have write : ∀ document : Json, document.id? = some id → (do
      let fields ← checked group.unnamedPayload
      let document ← overrides.apply (document.overlay fields)
      Plan.put (Kind.group.path id) document).Relies Request.Honest (Request.Named charts)
        fun _ => True := by
    intro document kept
    have laid := Json.isObject_overlay record.isObject document
    simp only [checked_bind passed, overrides.apply_eq laid, pure_bind]
    refine relies_call (Request.named_put (clean remote rfl id identified) ?_)
      fun _ _ => relies_pure trivial
    rw [overrides.id?_applied laid, Json.id?_overlay_of_none (Json.isObject_of_id? kept) record
      (foreign "id" (by decide)), kept]
  dsimp only
  split
  case isTrue => exact write remote identified
  case isFalse =>
    apply relies_bind (relies_reconcileDashboards within id)
    intro kept _
    apply relies_bind (relies_assign _ _ _)
    intro document assigned
    apply write
    rw [Json.assign_eq object] at assigned
    obtain rfl := Except.ok.inj assigned
    rw [Json.id?, Json.get?_withField object, if_neg (by decide), ← Json.id?, identified]

end DashboardGroup

namespace Detector

variable {charts : List Chart} (detector : Detector)

theorem relies_update (overrides : Overrides) :
    (detector.update overrides).Relies Request.Honest (Request.Named charts) fun _ => True := by
  apply relies_bind (relies_checked _)
  intro payload passed
  obtain rfl := document_of_payload passed
  apply relies_bind (relies_findUnique_clean (Request.named_search ..))
  rintro (_ | remote) clean
  · simp only [overrides.apply_eq detector.isObject_document, pure_bind]
    exact relies_call (Request.named_post ..) fun _ _ => relies_pure trivial
  · apply relies_bind (relies_requireId remote)
    intro id identified
    have laid := Json.isObject_overlay detector.isObject_document remote
    have unnamed : detector.document.get? "id" = none := by
      rw [document, Json.get?_record (by simp)]
      rfl
    simp only [overrides.apply_eq laid, pure_bind]
    refine relies_call (Request.named_put (clean remote rfl id identified) ?_)
      fun _ _ => relies_pure trivial
    rw [overrides.id?_applied laid, Json.id?_overlay_of_none (Json.isObject_of_id? identified)
      detector.isRecord_document unnamed, identified]

end Detector

namespace Resource

/-- The charts of a resource that may be written with an identifier that is not that of the document
at the path: those on dashboards, and a chart that is pinned to what is no single segment of a
path. -/
def unbound : Resource → List Chart
  | chart c => [c].filter fun c => c.id.any (·.toList.contains '/')
  | dashboard d => d.charts
  | group g => g.dashboards.flatMap Dashboard.charts
  | detector _ => []

theorem relies_update (resource : Resource) (overrides : Overrides) :
    (resource.update overrides).Relies Request.Honest (Request.Named resource.unbound)
      fun _ => True := by
  cases resource with
  | chart c => exact c.relies_update (fun pin pinned slash => by simp [unbound, pinned, slash]) _
  | dashboard d => exact d.relies_update (fun _ member => member) _
  | group g =>
      exact g.relies_update
        (fun _ hosted _ member => List.mem_flatMap.mpr ⟨_, hosted, member⟩) _
  | detector t => exact t.relies_update _

theorem relies_create (resource : Resource) (options : CreateOptions) :
    (resource.create options).Relies Request.Honest (Request.Named resource.unbound)
      fun _ => True := by
  have guarded : ∀ kind name, (guardCreate kind name options).Relies Request.Honest
      (Request.Named resource.unbound) fun _ => True :=
    fun kind name => relies_guardCreate options (Request.named_search ..)
  cases resource with
  | chart c =>
      apply relies_bind (relies_checked _)
      intro _ _
      apply relies_bind (guarded _ _)
      exact fun _ _ => relies_call (Request.named_post ..) fun _ _ => relies_pure trivial
  | dashboard d =>
      apply relies_bind (relies_checked _)
      intro _ _
      apply relies_bind (guarded _ _)
      exact fun _ _ => d.relies_createUnguarded {}
  | group g =>
      apply relies_bind (relies_checked _)
      intro _ _
      apply relies_bind (guarded _ _)
      intro _ _
      exact g.relies_createUnguarded
        (fun _ hosted _ member => List.mem_flatMap.mpr ⟨_, hosted, member⟩) {}
  | detector t =>
      apply relies_bind (relies_checked _)
      intro _ _
      apply relies_bind (guarded _ _)
      exact fun _ _ => relies_call (Request.named_post ..) fun _ _ => relies_pure trivial

/-- Every `PUT` of an update or a create has the identifier in its body that its path ends with,
unless it writes a pinned chart of a dashboard over the stored chart of its name: then the body has
the identifier that the chart is pinned to. -/
theorem addressed {store : Store} (reachable : store.Reachable) (resource : Resource)
    (answer : Question → Bool) :
    (∀ overrides, ∀ request ∈
        ((resource.update overrides).run Store.server answer store).requests,
      request.Named resource.unbound) ∧
    ∀ options, ∀ request ∈ ((resource.create options).run Store.server answer store).requests,
      request.Named resource.unbound := by
  have keeps : ∀ request (store : Store), store.Sound → (Store.server request store).2.Sound :=
    Store.sound_server
  have tells : ∀ request (store : Store) reply after, store.Sound →
      Store.server request store = (.ok reply, after) → request.Honest reply :=
    fun _ _ _ _ sound answered => sound.honest answered
  exact ⟨fun overrides => (resource.relies_update overrides).requests keeps tells reachable.sound,
    fun options => (resource.relies_create options).requests keeps tells reachable.sound⟩

/-- The charts of `newBoard` are not pinned, so whatever is written when it is updated or created
names the document at its path. -/
theorem addressed_newBoard :
    (∀ request ∈ (((Resource.dashboard .newBoard).update {}).run Store.server (fun _ => false)
        Dashboard.oldStore).requests, request.Addressed) ∧
      ∀ request ∈ (((Resource.dashboard .newBoard).create { force := true }).run Store.server
        (fun _ => false) Dashboard.oldStore).requests, request.Addressed := by
  have reachable : Dashboard.oldStore.Reachable := .request _ .empty
  have unpinned : ∀ request : Request, request.Named (Resource.dashboard .newBoard).unbound →
      request.Addressed := by
    rintro request (addressed | pinned)
    · exact addressed
    cases request with
    | put path body =>
        obtain ⟨chart, member, pin, isPin, -⟩ := pinned
        have unpinned : ∀ chart ∈ Dashboard.newBoard.charts, chart.id = none := by decide
        rw [unpinned chart member] at isPin
        cases isPin
    | _ => exact pinned.elim
  obtain ⟨updates, creates⟩ := addressed reachable (.dashboard .newBoard) fun _ => false
  exact ⟨fun request sent => unpinned request (updates {} request sent),
    fun request sent => unpinned request (creates { force := true } request sent)⟩

end Resource

/-- A chart of the name of a stored one, pinned to the identifier of another. -/
def Chart.pinnedAway : Chart := { id := some "id-2", name := "kept", options := .text "y" }

/-- What is written over the chart `id-3` of a dashboard says that it is `id-2`. -/
theorem Resource.misaddressed_pinnedAway :
    Dashboard.oldStore.Reachable ∧
      Request.put "/chart/id-3" Chart.pinnedAway.document ∈
        (((Resource.dashboard { name := "board", charts := [.pinnedAway] }).update {}).run
          Store.server (fun _ => false) Dashboard.oldStore).requests ∧
      ¬ (Request.put "/chart/id-3" Chart.pinnedAway.document).Addressed :=
  ⟨.request _ .empty, by decide +kernel, by decide +kernel⟩

end SignalBoard
