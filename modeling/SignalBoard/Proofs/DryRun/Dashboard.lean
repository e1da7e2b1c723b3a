/-
# Dashboards in a dry run

An update of a dashboard reads charts again after it has changed some of them. The dry run still
reads them as they were, so the two see different documents. What they write is the same none the
less: a stored chart is only ever changed by laying the local chart of its name over it, and doing
so twice is doing so once.
-/

import SignalBoard.Proofs.DryRun.Single
import SignalBoard.Proofs.Reconcile.Charts

namespace SignalBoard

/-- Laying a chart over a document that it was laid over already. -/
theorem Chart.overlay_revise (chart : Chart) {id : String} {old : Json}
    (stamped : old.Stamped id) :
    (chart.revise id old).overlay chart.document = old.overlay chart.document := by
  have once := chart.isRecord_document
  rw [revise]
  cases document : chart.document with
  | obj upper =>
      rw [document] at once
      cases old with
      | obj base =>
          have same : Table.insert "id" (.str id) base = base := Json.obj.inj stamped.2
          simp only [Json.overlay, Json.withField]
          by_cases member : "id" ∈ upper.map Prod.fst
          · rw [Table.insertAll_insert_of_mem member, Table.insertAll_insertAll]
          · rw [Table.insertAll_insert_of_not_mem member, Table.insertAll_insertAll,
              ← Table.insertAll_insert_of_not_mem member, same]
      | _ => cases stamped.1
  | _ =>
      rw [document] at once
      exact once.elim

namespace DryRun

variable {answer : Question → Bool} {origin store : Store} {count : Nat} {run : DryRun}
  {dashboard : Dashboard}

/-- What a dashboard writes keeps its identifiers in a dry run. -/
structure SteadyDashboard (origin : Store) (count : Nat) (dashboard : Dashboard) : Prop where
  charts : ∀ chart ∈ dashboard.charts, Steady origin count chart.document
  settings : ∀ settings ∈ dashboard.settingsPayload?, Steady origin count settings

/-- Settings are laid over a document in the same way in a dry run. -/
theorem SteadyDashboard.renameIds_withSettings (steady : SteadyDashboard origin count dashboard)
    (document : Json) :
    (dashboard.withSettings document).renameIds (dryName origin count) =
      dashboard.withSettings (document.renameIds (dryName origin count)) := by
  cases present : dashboard.settingsPayload? with
  | none => simp only [Dashboard.withSettings, present]
  | some settings =>
      simp only [Dashboard.withSettings, present, Json.renameIds_overlay]
      rw [steady.settings settings present]

/-- Entries that are added to a layout, renamed. -/
theorem renameIds_added (rename : String → String) (id : String) (row : UInt64) :
    (Layout.added id row).renameIds rename = Layout.added (rename id) row := by
  rw [Layout.added, Json.renameIds_record]
  rfl

/-- The entries on the layout of a document that keeps its identifiers. -/
theorem Steady.entries {remote entry : Json} (steady : Steady origin count remote)
    (member : entry ∈ Layout.entries remote) : Steady origin count entry := by
  have field : (remote.renameIds (dryName origin count)).field "charts" = _ :=
    Json.field_renameIds remote "charts"
  rw [steady] at field
  have among := (List.mem_filter.mp member).1
  cases held : remote.field "charts" with
  | arr items =>
      rw [held] at field among
      have same := Json.arr.inj field
      rw [Json.renameItems_eq_map] at same
      exact (List.map_inj_left.mp (same.symm.trans (List.map_id items).symm)) entry among
  | _ =>
      rw [held] at among
      cases among

/-- Reading for every item of a list before the first change. -/
theorem mirrors_mapM {ι α : Type} {read : ι → Plan α} {holds : α → Prop} {items : List ι}
    (each : ∀ item ∈ items, ∀ run, Mirrored origin origin run →
      Mirrors answer origin count (read item) (read item) origin run
        fun value value' after => after = origin ∧ value' = value ∧ holds value)
    (mirrored : Mirrored origin origin run) :
    Mirrors answer origin count (items.mapM read) (items.mapM read) origin run
      fun values values' after => after = origin ∧ values' = values ∧
        ∀ value ∈ values, holds value := by
  induction items generalizing run with
  | nil => exact mirrors_pure mirrored ⟨rfl, rfl, fun _ member => nomatch member⟩
  | cons item rest ih =>
      rw [List.mapM_cons]
      refine mirrors_bind (each item List.mem_cons_self _ mirrored) ?_
      rintro _ value origin noted mirroredToo ⟨rfl, rfl, here⟩
      refine mirrors_bind (ih (fun other later => each other (.tail _ later)) mirroredToo) ?_
      rintro _ values origin last mirroredLast ⟨rfl, rfl, there⟩
      exact mirrors_pure mirroredLast ⟨rfl, rfl, List.forall_mem_cons.mpr ⟨here, there⟩⟩

/-- A placed chart is stored before the run, under the name that was read. -/
def ReadFrom (origin : Store) (placed : PlacedChart) : Prop :=
  ∃ old, origin.documents.get? (Kind.chart.path placed.id) = some old ∧
    placed.name = old.name?.getD ""

/-- The charts of a layout are read before the first change. -/
theorem mirrors_readPlaced (mirrored : Mirrored origin origin run) (layout : List Json) :
    Mirrors answer origin count (layout.mapM Dashboard.readPlaced)
      (layout.mapM Dashboard.readPlaced) origin run
      fun placed placed' after => after = origin ∧ placed' = placed ∧
        ∀ chart ∈ placed, ReadFrom origin chart := by
  refine mirrors_mapM (fun entry _ run mirroredToo => ?_) mirrored
  refine mirrors_bind (mirrors_get mirroredToo mirroredToo.sound fun document stored =>
    by rw [stored]; rfl) ?_
  rintro chart chart' origin noted mirroredLast ⟨rfl, stored, stored'⟩
  obtain rfl := Option.some.inj (stored.symm.trans stored')
  exact mirrors_pure mirroredLast ⟨rfl, rfl, chart, stored, rfl⟩

/-- Every stored document is as before the run, or the local chart of its name has been laid over
it. -/
def Revised (dashboard : Dashboard) (origin store : Store) : Prop :=
  ∀ path now, store.documents.get? path = some now →
    ∃ old, origin.documents.get? path = some old ∧ (now = old ∨
      ∃ chart, dashboard.chartNamed? (old.name?.getD "") = some chart ∧
        now = chart.revise (Store.lastSegment path) old)

theorem revised_self (dashboard : Dashboard) (origin : Store) :
    Revised dashboard origin origin := fun _ now stored => ⟨now, stored, .inl rfl⟩

/-- A placed chart is updated if there is a local one of its name. -/
theorem mirrors_updatePlaced (settled : Settled origin count)
    (steady : SteadyDashboard origin count dashboard) (mirrored : Mirrored origin store run)
    (revised : Revised dashboard origin store) {placed : PlacedChart}
    (read : ReadFrom origin placed) :
    Mirrors answer origin count (dashboard.updatePlaced placed) (dashboard.updatePlaced placed)
      store run fun _ _ after => Revised dashboard origin after := by
  unfold Dashboard.updatePlaced
  split
  case h_2 => exact mirrors_pure mirrored revised
  case h_1 chart isNamed =>
    obtain ⟨old, stored, name⟩ := read
    suffices updates : Mirrors answer origin count (Chart.updateById placed.id chart)
        (Chart.updateById placed.id chart) store run
        fun _ _ after => Revised dashboard origin after from
      mirrors_bind updates fun _ _ _ _ mirroredToo still => mirrors_pure mirroredToo still
    refine mirrors_checked fun payload passed => ?_
    obtain rfl := Chart.document_of_payload passed
    refine mirrors_bind (mirrors_get mirrored settled.sound fun _ _ => by rw [stored]; rfl) ?_
    rintro now _ store noted mirroredToo ⟨rfl, found, stored'⟩
    obtain rfl := Option.some.inj (stored.symm.trans stored')
    obtain ⟨endpoint, n, atPath, stamped, -, given⟩ := settled.sound.issued _ _ stored
    have last : Store.lastSegment (Kind.chart.path placed.id) = Store.ident n := by
      rw [atPath, Store.lastSegment_append endpoint (Store.slash_not_mem_ident n)]
    -- Whether the chart has been updated before makes no difference to what is laid over it.
    have same : now.overlay chart.document = old.overlay chart.document := by
      obtain ⟨before, storedBefore, now_eq⟩ := revised _ now found
      obtain rfl := Option.some.inj (stored.symm.trans storedBefore)
      rcases now_eq with rfl | ⟨other, named, rfl⟩
      · rfl
      · rw [← name, isNamed] at named
        obtain rfl := Option.some.inj named
        rw [last]
        exact chart.overlay_revise stamped
    rw [same]
    let body := old.overlay chart.document
    have steadyBody : Steady origin count body := by
      rw [Steady, Json.renameIds_overlay, settled.steady _ _ stored,
        steady.charts chart (List.mem_of_find?_eq_some isNamed)]
    have puts : Mirrors answer origin count (Plan.put (Kind.chart.path placed.id) body)
        (Plan.put (Kind.chart.path placed.id) (body.renameIds (dryName origin count))) store
        noted _ :=
      mirrors_put mirroredToo (Json.isObject_overlay chart.isObject_document old) fun _ _ =>
        (renamePath_eq_self settled.sound (Nat.le_refl _) count stored).symm
    rw [steadyBody] at puts
    refine puts.mono ?_
    rintro _ _ after ⟨-, rfl⟩ path document found'
    rw [Store.get?_set] at found'
    split at found'
    case isTrue here =>
      subst here
      exact ⟨old, stored, .inr ⟨chart, name ▸ isNamed, (Option.some.inj found').symm⟩⟩
    case isFalse elsewhere => exact revised path document found'

/-- Charts are created, and their entries differ by the identifiers. -/
theorem mirrors_addCharts {charts : List Chart}
    (steady : ∀ chart ∈ charts, Steady origin count chart.document) (row : UInt64)
    (mirrored : Mirrored origin store run) :
    Mirrors answer origin count (Dashboard.addCharts charts row) (Dashboard.addCharts charts row)
      store run fun entries entries' _ =>
        entries' = entries.map (Json.renameIds (dryName origin count)) := by
  induction charts generalizing row store run with
  | nil => exact mirrors_pure mirrored rfl
  | cons chart rest ih =>
      have creates : Mirrors answer origin count chart.createUnguarded chart.createUnguarded store
          run fun created created' _ => created' = created.renameIds (dryName origin count) := by
        refine mirrors_checked fun payload passed => ?_
        obtain rfl := Chart.document_of_payload passed
        have posts : Mirrors answer origin count
            (Plan.post Kind.chart.endpoint [] chart.document)
            (Plan.post Kind.chart.endpoint []
              (chart.document.renameIds (dryName origin count))) store run _ :=
          mirrors_post mirrored (by decide) chart.isObject_document
        rw [steady chart List.mem_cons_self] at posts
        exact posts.mono fun _ _ _ ⟨renamed, _⟩ => renamed
      unfold Dashboard.addCharts
      refine mirrors_bind creates ?_
      rintro created _ between noted mirroredToo rfl
      refine mirrors_bind (mirrors_requireId mirroredToo created) ?_
      rintro id _ _ next mirroredNext ⟨rfl, -, rfl⟩
      refine mirrors_bind (ih (fun other later => steady other (.tail _ later)) _ mirroredNext) ?_
      rintro entries _ after last mirroredLast rfl
      refine mirrors_pure mirroredLast ?_
      rw [List.map_cons, renameIds_added]

/-- The charts of a stored layout are made the local ones. -/
theorem mirrors_reconcileCharts (settled : Settled origin count)
    (steady : SteadyDashboard origin count dashboard) (mirrored : Mirrored origin origin run)
    {layout : List Json} (steadyLayout : ∀ entry ∈ layout, Steady origin count entry) :
    Mirrors answer origin count (dashboard.reconcileCharts layout)
      (dashboard.reconcileCharts layout) origin run
      fun entries entries' _ =>
        entries' = entries.map (Json.renameIds (dryName origin count)) := by
  unfold Dashboard.reconcileCharts
  refine mirrors_bind (mirrors_readPlaced mirrored layout) ?_
  rintro _ placed _ noted mirroredNoted ⟨same, rfl, read⟩
  obtain rfl := same.symm
  refine mirrors_bind (mirrors_forM (fun chart member store run mirroredToo revised =>
    mirrors_updatePlaced settled steady mirroredToo revised (read chart member)) mirroredNoted
    (revised_self dashboard origin)) ?_
  intro _ _ updated next mirroredNext _
  refine mirrors_bind (mirrors_addCharts (fun chart member =>
    steady.charts chart (List.mem_filter.mp member).1) _ mirroredNext) ?_
  rintro added _ between last mirroredLast rfl
  have deletes : Mirrors answer origin count
      ((dashboard.stale placed).forM fun chart => Chart.deleteById chart.id)
      ((dashboard.stale placed).forM fun chart => Chart.deleteById chart.id) between last
      fun _ _ _ => True := by
    refine mirrors_forM (fun chart member store run mirroredToo _ => ?_) mirroredLast trivial
    obtain ⟨old, stored, -⟩ := read chart (List.mem_filter.mp member).1
    exact (mirrors_delete mirroredToo fun _ _ =>
      (renamePath_eq_self settled.sound (Nat.le_refl _) count stored).symm).mono
      fun _ _ _ _ => trivial
  refine mirrors_bind deletes ?_
  intro _ _ after done mirroredDone _
  refine mirrors_pure mirroredDone ?_
  rw [List.map_append]
  congr 1
  refine (List.map_id _).symm.trans (List.map_inj_left.mpr fun entry member => ?_)
  exact (steadyLayout entry (List.mem_filter.mp member).1).symm

/-- The documents of charts that all pass their check. -/
theorem map_document_of_chartsPayload {payloads : List Json}
    (passed : dashboard.chartsPayload = .ok payloads) :
    payloads = dashboard.charts.map Chart.document := by
  rw [Dashboard.chartsPayload] at passed
  generalize dashboard.charts = charts at passed ⊢
  induction charts generalizing payloads with
  | nil => exact (Except.ok.inj passed).symm
  | cons chart rest ih =>
      rw [List.mapM_cons] at passed
      rcases first : chart.payload with cause | payload
      · simp [first, bind, Except.bind] at passed
      rcases others : rest.mapM Chart.payload with cause | documents
      · simp [first, others, bind, Except.bind] at passed
      simp only [first, others, bind, Except.bind, pure, Except.pure, Except.ok.injEq] at passed
      rw [← passed, List.map_cons, ih others, Chart.document_of_payload first]

/-- A dashboard is created, and its settings are written afterwards if it has any. -/
theorem mirrors_createUnguarded (steady : SteadyDashboard origin count dashboard)
    (mirrored : Mirrored origin store run) (overrides : Overrides) :
    Mirrors answer origin count (dashboard.createUnguarded overrides)
      (dashboard.createUnguarded overrides) store run
      fun value value' _ => value' = value.renameIds (dryName origin count) := by
  refine mirrors_checked fun payloads passed => ?_
  obtain rfl := map_document_of_chartsPayload passed
  have objects : ∀ document ∈ dashboard.charts.map Chart.document, document.isObject = true := by
    intro document member
    obtain ⟨chart, -, rfl⟩ := List.mem_map.mp member
    exact chart.isObject_document
  have posts : Mirrors answer origin count _ _ store run _ :=
    mirrors_post_simple mirrored objects (overrides.name.getD dashboard.name)
  have still : (dashboard.charts.map Chart.document).map (Json.renameIds (dryName origin count)) =
      dashboard.charts.map Chart.document := by
    rw [List.map_map]
    exact List.map_congr_left fun chart member => steady.charts chart member
  rw [still] at posts
  refine mirrors_bind posts ?_
  rintro created _ between noted mirroredToo ⟨rfl, n, identified⟩
  split
  · exact mirrors_pure mirroredToo rfl
  refine mirrors_bind (mirrors_requireId mirroredToo created) ?_
  rintro id _ _ next mirroredNext ⟨rfl, identified', rfl⟩
  obtain rfl := Option.some.inj (identified.symm.trans identified')
  have object : (dashboard.withSettings created).isObject = true :=
    Dashboard.isObject_withSettings dashboard (Json.isObject_of_id? identified)
  have object' : (dashboard.withSettings
      (created.renameIds (dryName origin count))).isObject = true := by
    rw [← steady.renameIds_withSettings]
    simpa
  simp only [Overrides.apply_eq overrides object, Overrides.apply_eq overrides object', pure_bind]
  rw [← steady.renameIds_withSettings, ← Overrides.renameIds_applied]
  refine (mirrors_put mirroredNext (by simpa) fun _ _ => ?_).mono fun _ _ _ ⟨renamed, _⟩ => renamed
  rw [Kind.path, Kind.path, renamePath_append _ _ (Store.slash_not_mem_ident n)]

/-- A dashboard is created. -/
theorem mirrors_dashboard_create (steady : SteadyDashboard origin count dashboard)
    (mirrored : Mirrored origin origin run) (options : CreateOptions) :
    Mirrors answer origin count (dashboard.create options) (dashboard.create options) origin run
      fun value value' _ => value' = value.renameIds (dryName origin count) := by
  refine mirrors_checked fun _ _ => ?_
  refine mirrors_bind (mirrors_guardCreate mirrored _ _ _) ?_
  rintro _ _ origin noted mirroredToo rfl
  exact mirrors_createUnguarded steady mirroredToo {}

/-- A dashboard is updated. -/
theorem mirrors_dashboard_update (settled : Settled origin count)
    (steady : SteadyDashboard origin count dashboard) (mirrored : Mirrored origin origin run)
    (overrides : Overrides) :
    Mirrors answer origin count (dashboard.update overrides) (dashboard.update overrides) origin
      run fun value value' _ => value' = value.renameIds (dryName origin count) := by
  refine mirrors_checked fun _ _ => ?_
  refine mirrors_bind (mirrors_findUnique mirrored _ _) ?_
  rintro _ found origin noted mirroredNoted ⟨rfl, rfl, stored⟩
  cases found with
  | none => exact mirrors_createUnguarded steady mirroredNoted overrides
  | some remote =>
      obtain ⟨path, atPath⟩ := stored remote rfl
      have steadyRemote := settled.steady path remote atPath
      have object := settled.sound.isObject atPath
      refine mirrors_bind (mirrors_requireId_stored settled mirroredNoted atPath) ?_
      rintro _ id origin next mirroredNext ⟨rfl, rfl, still⟩
      refine mirrors_bind (mirrors_reconcileCharts settled steady mirroredNext fun entry member =>
        steadyRemote.entries member) ?_
      rintro entries _ between last mirroredLast rfl
      have assigns : ∀ entries, Plan.assign "charts" (.arr entries) remote =
          pure (remote.withField "charts" (.arr entries)) := fun _ => Plan.assign_eq object _ _
      have laid : ∀ entries, (dashboard.withSettings
          (remote.withField "charts" (.arr entries))).isObject = true := fun entries =>
        Dashboard.isObject_withSettings dashboard (by simpa)
      have renamed : remote.withField "charts"
          (.arr (entries.map (Json.renameIds (dryName origin count)))) =
          (remote.withField "charts" (.arr entries)).renameIds (dryName origin count) := by
        rw [Json.renameIds_withField, steadyRemote, ← Json.renameItems_eq_map]
        rfl
      simp only [assigns, pure_bind, Overrides.apply_eq overrides (laid _)]
      rw [renamed, ← steady.renameIds_withSettings, ← Overrides.renameIds_applied]
      exact (mirrors_put mirroredLast (by simpa using laid entries) fun _ _ =>
        (still .dashboard).symm).mono fun _ _ _ same => same.1

/-- A dashboard is deleted with its charts. -/
theorem mirrors_dashboard_delete (settled : Settled origin count)
    (mirrored : Mirrored origin origin run) :
    Mirrors answer origin count dashboard.delete dashboard.delete origin run
      fun _ _ _ => True := by
  refine mirrors_bind (mirrors_requireUnique mirrored _ _) ?_
  rintro _ remote origin noted mirroredToo ⟨rfl, rfl, path, stored⟩
  refine mirrors_bind (mirrors_requireId_stored settled mirroredToo stored) ?_
  rintro _ id origin next mirroredNext ⟨rfl, rfl, -⟩
  have deletesCharts : Mirrors answer origin count (Dashboard.deleteChartsOf id)
      (Dashboard.deleteChartsOf id) origin next
      fun _ _ after => after.allocated ≤ origin.allocated := by
    refine mirrors_bind (mirrors_get mirroredNext mirroredNext.sound fun document stored =>
      by rw [stored]; rfl) ?_
    rintro remote remote' _ last mirroredLast ⟨same, stored, stored'⟩
    obtain rfl := same.symm
    obtain rfl := Option.some.inj (stored.symm.trans stored')
    exact mirrors_forM (fun chartId _ store run mirroredNow earlier =>
      mirrors_delete_stored mirroredNow earlier _) mirroredLast (Nat.le_refl _)
  refine mirrors_bind deletesCharts ?_
  intro _ _ after last mirroredLast earlier
  exact (mirrors_delete_stored mirroredLast earlier _).mono fun _ _ _ _ => trivial

end DryRun

end SignalBoard
