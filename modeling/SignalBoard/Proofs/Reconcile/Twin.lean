/-
# Two runs of one update

An update that finds the same on two stores writes the same documents, but under the identifiers
that each store gives. So what it leaves in one store is what it leaves in the other with these
identifiers renamed, as long as what it reads keeps its names.
-/

import SignalBoard.Proofs.Reconcile.Settled
import SignalBoard.Proofs.Store.Exchange

namespace SignalBoard

/-- The second store has at the renamed place what the first one has, renamed. -/
def Store.MirrorsAt (rename : Equiv.Perm String) (first second : Store) (kind : Kind)
    (id : String) : Prop :=
  second.documents.get? (kind.path (rename id)) =
    (first.documents.get? (kind.path id)).map (Json.renameRefs rename)

namespace Store.MirrorsAt

variable {rename : Equiv.Perm String} {first second : Store} {kind : Kind} {id : String}

theorem of_none (absent : first.documents.get? (kind.path id) = none)
    (absent' : second.documents.get? (kind.path (rename id)) = none) :
    MirrorsAt rename first second kind id := by
  rw [MirrorsAt, absent, absent', Option.map_none]

theorem of_some {document renamed : Json}
    (stored : first.documents.get? (kind.path id) = some document)
    (stored' : second.documents.get? (kind.path (rename id)) = some renamed)
    (same : document.renameRefs rename = renamed) : MirrorsAt rename first second kind id := by
  rw [MirrorsAt, stored, stored', Option.map_some, same]

/-- Charts that are stored under other identifiers. -/
theorem of_charts {charts : List Chart} {ids : List String}
    (each : List.Forall₂ (fun chart id => first.documents.get? (Kind.chart.path id) =
      some (Chart.storedAs chart id)) charts ids)
    (each' : List.Forall₂ (fun chart id => second.documents.get? (Kind.chart.path id) =
      some (Chart.storedAs chart id)) charts (ids.map rename))
    (member : id ∈ ids) : MirrorsAt rename first second .chart id := by
  have both := List.Forall₂.mp (fun _ _ => And.intro) each (List.forall₂_map_right_iff.mp each')
  obtain ⟨chart, -, stored, stored'⟩ := exists_of_forall₂_right both member
  exact .of_some stored stored' (chart.renameRefs_storedAs id)

end Store.MirrorsAt

/-- The charts on the layout of a dashboard are the same in both stores. -/
def Store.SameLayout (before other : Store) (remote : Json) : Prop :=
  ∀ chartId ∈ Layout.chartIds remote, other.documents.get? (Kind.chart.path chartId) =
    before.documents.get? (Kind.chart.path chartId)

namespace Resource

variable {rename : Equiv.Perm String} {resource : Resource} {found : Option Json}
  {before after other last : Store}

/-- The charts on the layout of the dashboard that was found are the same in both stores. -/
def SameCharts (resource : Resource) (found : Option Json) (before other : Store) : Prop :=
  resource.kind = .dashboard → ∀ remote ∈ found, before.SameLayout other remote

/-- What an update reads keeps its names. -/
structure Keeps (rename : Equiv.Perm String) (resource : Resource) (found : Option Json)
    (store : Store) : Prop where
  document : ∀ remote ∈ found, remote.renameRefs rename = remote
  own : ∀ remote ∈ found, ∀ id, remote.id? = some id → rename id = id
  charts : resource.kind = .dashboard → ∀ remote ∈ found, ∀ chartId ∈ Layout.chartIds remote,
    rename chartId = chartId ∧ ∀ chart,
      store.documents.get? (Kind.chart.path chartId) = some chart → chart.renameRefs rename = chart

/-- Renaming takes the places where an update may write to those where it may write when it takes
the renamed identifiers. -/
theorem Keeps.touches_iff (keeps : resource.Keeps rename found before) (ids : List String)
    (kind : Kind) (id : String) :
    resource.Touches found (ids.map rename) kind (rename id) ↔
      resource.Touches found ids kind id := by
  have fixed : ∀ {text}, rename text = text → ∀ id, rename id = text ↔ id = text :=
    fun {text} kept id => by rw [← kept, rename.injective.eq_iff, kept]
  have own : ∀ remote ∈ found, (remote.id? = some (rename id) ↔ remote.id? = some id) := by
    intro remote isFound
    cases identified : remote.id? with
    | none => simp
    | some text =>
        have kept := fixed (keeps.own remote isFound text identified) id
        simp only [Option.some.injEq, eq_comm (a := text), kept]
  have charts : resource.kind = .dashboard → ∀ remote ∈ found,
      (rename id ∈ Layout.chartIds remote ↔ id ∈ Layout.chartIds remote) := by
    intro isDashboard remote isFound
    constructor
    · intro member
      have kept := (keeps.charts isDashboard remote isFound _ member).1
      rwa [rename.injective kept] at member
    · intro member
      rwa [(keeps.charts isDashboard remote isFound _ member).1]
  simp only [Touches]
  refine or_congr (List.mem_map_of_injective rename.injective) (exists_congr fun remote =>
    and_congr_right fun isFound => or_congr (and_congr_right fun _ => own remote isFound) ?_)
  exact and_congr_right fun isDashboard => and_congr_right fun _ =>
    charts isDashboard remote isFound

end Resource

open Store (MirrorsAt)

variable {rename : Equiv.Perm String} {found : Option Json} {before after other last : Store}

/-- Two updates of a detector that find the same. -/
theorem Detector.Settled.mirrors {detector : Detector}
    (settled : detector.Settled found before after) (settled' : detector.Settled found other last)
    (sound : before.Sound) (sound' : other.Sound)
    (keeps : (Resource.detector detector).Keeps rename found before)
    (fresh : (before.freshIds ((Resource.detector detector).taken found before)).map rename =
      other.freshIds ((Resource.detector detector).taken found before)) {kind : Kind} {id : String}
    (touches : (Resource.detector detector).Touches found
      (before.freshIds ((Resource.detector detector).taken found before)) kind id) :
    MirrorsAt rename after last kind id := by
  cases found with
  | none =>
      obtain ⟨remote, isFound, -⟩ | member := touches.symm
      · cases isFound
      have moved :
          rename (Store.ident (before.allocated + 1)) = Store.ident (other.allocated + 1) :=
        (List.cons.inj fresh).1
      obtain rfl : id = Store.ident (before.allocated + 1) := List.mem_singleton.mp member
      obtain rfl : after = _ := settled
      obtain rfl : last = _ := settled'
      by_cases isDetector : kind = .detector
      · subst isDetector
        refine .of_some ((Store.get?_set ..).trans (if_pos rfl)) ?_
          (detector.unbound_document.renameRefs_withField _)
        rw [moved, Store.get?_set, if_pos rfl]
      · apply MirrorsAt.of_none
        · rw [Store.get?_set, if_neg (Kind.path_ne isDetector _ _)]
          exact sound.get?_of_mem_freshIds member kind
        · rw [moved, Store.get?_set, if_neg (Kind.path_ne isDetector _ _)]
          exact sound'.get?_fresh (Nat.lt_succ_self _) _
  | some remote =>
      obtain ⟨own, stored, rfl⟩ := settled
      obtain ⟨own', stored', rfl⟩ := settled'
      have identified := (sound.id_of_resource? stored).1
      obtain rfl := Option.some.inj (identified.symm.trans (sound'.id_of_resource? stored').1)
      have kept := keeps.own remote rfl own identified
      rcases touches with member | ⟨_, ⟨rfl⟩, ⟨isKind, same⟩ | ⟨isDashboard, -⟩⟩
      · cases member
      · obtain rfl : kind = .detector := isKind
        obtain rfl := Option.some.inj (same.symm.trans identified)
        refine .of_some ((Store.get?_set ..).trans (if_pos rfl)) ?_
          (detector.unbound_document.renameRefs_overlay
            (sound.isObject (Store.get?_of_resource? stored)) _)
        rw [kept, Store.get?_set, if_pos rfl, keeps.document remote rfl]
      · cases isDashboard

namespace Dashboard

variable {dashboard : Dashboard}

/-- Two dashboards that are created from the same charts. -/
theorem Added.mirrors {groupId id groupId' id' : String} {chartIds chartIds' : List String}
    (added : dashboard.Added {} groupId chartIds id before after)
    (added' : dashboard.Added {} groupId' chartIds' id' other last) (sound : before.Sound)
    (sound' : other.Sound) (fresh : (before.freshIds (dashboard.charts.length + 2)).map rename =
      other.freshIds (dashboard.charts.length + 2)) {kind : Kind} {taken : String}
    (member : taken ∈ before.freshIds (dashboard.charts.length + 2)) :
    MirrorsAt rename after last kind taken := by
  have absent := sound.get?_of_mem_freshIds member kind
  have absent' : other.documents.get? (kind.path (rename taken)) = none :=
    sound'.get?_of_mem_freshIds (fresh ▸ List.mem_map_of_mem member) kind
  rw [added.ids, added'.ids, List.map_cons, List.map_append] at fresh
  obtain ⟨rfl, rest⟩ := List.cons.inj fresh
  obtain ⟨rfl, single⟩ := List.append_inj' rest rfl
  obtain rfl : rename id = id' := (List.cons.inj single).1
  by_cases created : kind.path taken ∈
      Kind.group.path groupId :: Kind.dashboard.path id :: Kind.chart.paths chartIds
  case pos =>
    rcases Kind.path_mem_created_iff.mp created with ⟨rfl, rfl⟩ | ⟨rfl, rfl⟩ | ⟨rfl, isChart⟩
    · exact .of_some added.group added'.group (Store.renameRefs_groupDocument ..)
    · refine .of_some added.own added'.own ?_
      rw [renameRefs_finish _ _ (Store.sorted_dashboardDocument ..).isRecord.isObject,
        Store.renameRefs_dashboardDocument, Store.map_renamePlaced_placedEntries]
    · exact .of_charts added.charts added'.charts isChart
  case neg =>
    have away := fun moved => created (Kind.path_mem_created_iff.mpr moved)
    apply MirrorsAt.of_none
    · rw [added.elsewhere _ created, absent]
    · rw [added'.elsewhere, absent']
      rw [Kind.path_mem_created_iff, rename.injective.eq_iff, rename.injective.eq_iff,
        List.mem_map_of_injective rename.injective]
      exact away

variable {remote : Json}

/-- The same charts are placed by the same entries. -/
theorem placed_eq_of_same (same : before.SameLayout other remote) :
    ∀ entry ∈ Layout.entries remote, other.placed entry = before.placed entry := by
  intro entry member
  obtain ⟨among, named⟩ := List.mem_filter.mp member
  obtain ⟨chartId, isChart⟩ := Option.isSome_iff_exists.mp named
  simp only [Store.placed, isChart, Option.getD_some,
    same chartId (List.mem_filterMap.mpr ⟨entry, among, isChart⟩)]

/-- The same charts are missing. -/
theorem absent_eq_of_same (dashboard : Dashboard) (same : before.SameLayout other remote) :
    dashboard.absent other (Layout.entries remote) =
      dashboard.absent before (Layout.entries remote) := by
  rw [absent, absent, List.map_congr_left (placed_eq_of_same same)]

/-- The same entries are kept. -/
theorem kept_eq_of_same (dashboard : Dashboard) (same : before.SameLayout other remote) :
    dashboard.kept other (Layout.entries remote) =
      dashboard.kept before (Layout.entries remote) :=
  List.filter_congr fun entry member => by rw [placed_eq_of_same same entry member]

/-- The entries of a layout that keeps its names keep theirs. -/
theorem mapFields_eq_of_renameRefs (kept : remote.renameRefs rename = remote) :
    ∀ entry ∈ Layout.entries remote, entry.mapFields (Json.renamePlaced rename) = entry := by
  intro entry member
  have among := (List.mem_filter.mp member).1
  have charts := congrArg (Json.get? "charts") kept
  rw [Json.renameRefs, Json.get?_mapFields] at charts
  cases held : remote.get? "charts" with
  | none => simp [Json.field, held, Json.items, Json.items?] at among
  | some value =>
      rw [held, Option.map_some] at charts
      have same : value.mapItems (Json.mapFields (Json.renamePlaced rename)) = value :=
        Option.some.inj charts
      rw [Json.field_of_get? held] at among
      cases value with
      | arr items =>
          have whole : items.map (Json.mapFields (Json.renamePlaced rename)) = items.map id :=
            (Json.arr.inj same).trans (List.map_id items).symm
          exact List.map_inj_left.mp whole entry among
      | _ => cases among

/-- What is written in the end for a dashboard that was found, under other identifiers. -/
theorem renameRefs_updated {own : String} (object : remote.isObject = true)
    (same : before.SameLayout other remote) (kept : remote.renameRefs rename = remote)
    (keptOwn : rename own = own)
    (fresh : (before.freshIds (dashboard.absent before (Layout.entries remote)).length).map rename =
      other.freshIds (dashboard.absent before (Layout.entries remote)).length) :
    (dashboard.updated {} before own remote).renameRefs rename =
      dashboard.updated {} other own remote := by
  have entries : (dashboard.kept before (Layout.entries remote)).map
      (Json.mapFields (Json.renamePlaced rename)) =
        dashboard.kept before (Layout.entries remote) :=
    (List.map_congr_left fun entry member => mapFields_eq_of_renameRefs kept entry
      (List.mem_filter.mp member).1).trans (List.map_id _)
  have layout : (dashboard.relaid before (Layout.entries remote)).map
      (Json.mapFields (Json.renamePlaced rename)) =
        dashboard.relaid other (Layout.entries remote) := by
    rw [relaid, List.map_append, entries, Layout.map_renamePlaced_stacked, fresh, relaid,
      dashboard.kept_eq_of_same same, dashboard.absent_eq_of_same same]
  show (dashboard.finish {} own (remote.withField "charts"
    (.arr (dashboard.relaid before (Layout.entries remote))))).renameRefs rename = _
  rw [renameRefs_finish _ _ (by simpa), renameRefs_withField_charts, layout, kept, keptOwn]
  rfl

/-- Under a fresh identifier nothing but a chart is stored. -/
theorem Reconciled.get?_of_fresh {own id : String} {between : Store} {layout : List Json}
    (reconciled : dashboard.Reconciled layout before between) (sound : before.Sound)
    (stored : before.resource? .dashboard own = some remote) {count : Nat}
    (member : id ∈ before.freshIds count) {kind : Kind} (notChart : kind ≠ .chart)
    (document : Json) :
    (between.set (Kind.dashboard.path own) document).documents.get? (kind.path id) = none := by
  have notOwn : kind.path id ≠ Kind.dashboard.path own := by
    intro here
    obtain ⟨-, rfl⟩ := Kind.path_inj here
    exact Store.not_mem_freshIds sound (Store.get?_of_resource? stored) _ member
  rw [Store.get?_set, if_neg notOwn,
    reconciled.elsewhere _ (Kind.path_not_mem_paths notChart _ _)]
  exact sound.get?_of_mem_freshIds member kind

/-- A chart on the layout is revised the same way, or is gone, in both stores. -/
theorem Reconciled.mirrorsAt_chart {id own : String} {between between' : Store}
    (reconciled : dashboard.Reconciled (Layout.entries remote) before between)
    (reconciled' : dashboard.Reconciled (Layout.entries remote) other between')
    (sound : before.Sound) (consistent : before.Consistent)
    (stored : before.resource? .dashboard own = some remote)
    (same : before.SameLayout other remote)
    (keeps : (Resource.dashboard dashboard).Keeps rename (some remote) before)
    (onLayout : id ∈ Layout.chartIds remote) : MirrorsAt rename between between' .chart id := by
  obtain ⟨keptId, keptChart⟩ := keeps.charts rfl remote rfl id onLayout
  obtain ⟨entry, among, isChart⟩ := List.mem_filterMap.mp onLayout
  have member : entry ∈ Layout.entries remote := List.mem_filter.mpr ⟨among, by rw [isChart]; rfl⟩
  have isPlaced : (before.placed entry).id = id := by simp [Store.placed, isChart]
  have isPlaced' := placed_eq_of_same same entry member
  obtain ⟨old, isOld⟩ :=
    Option.isSome_iff_exists.mp (consistent.placed own remote stored id onLayout)
  have atPath := Store.get?_of_resource? isOld
  cases isNamed : dashboard.chartNamed? (before.placed entry).name with
  | some chart =>
      have revised := reconciled.revised entry member chart isNamed old (by rw [isPlaced, atPath])
      have revised' := reconciled'.revised entry member chart (by rw [isPlaced', isNamed]) old
        (by rw [isPlaced', isPlaced, same id onLayout, atPath])
      rw [isPlaced', isPlaced] at revised'
      rw [isPlaced] at revised
      refine .of_some revised (by rw [keptId, revised']) ?_
      rw [chart.renameRefs_revise id (sound.isObject atPath), keptId, keptChart old atPath]
  | none =>
      have gone := reconciled.gone entry member isNamed
      have gone' := reconciled'.gone entry member (by rw [isPlaced', isNamed])
      rw [isPlaced', isPlaced] at gone'
      rw [isPlaced] at gone
      exact .of_none gone (by rw [keptId, gone'])

/-- Two updates of a dashboard that find the same, with the same charts. -/
theorem Reconciled.mirrors {id own : String} {between between' : Store}
    (reconciled : dashboard.Reconciled (Layout.entries remote) before between)
    (reconciled' : dashboard.Reconciled (Layout.entries remote) other between')
    (sound : before.Sound) (sound' : other.Sound) (consistent : before.Consistent)
    (stored : before.resource? .dashboard own = some remote)
    (stored' : other.resource? .dashboard own = some remote)
    (same : before.SameLayout other remote)
    (keeps : (Resource.dashboard dashboard).Keeps rename (some remote) before)
    (fresh : (before.freshIds (dashboard.absent before (Layout.entries remote)).length).map rename =
      other.freshIds (dashboard.absent before (Layout.entries remote)).length) {kind : Kind}
    (touches : (Resource.dashboard dashboard).Touches (some remote)
      (before.freshIds (dashboard.absent before (Layout.entries remote)).length) kind id) :
    MirrorsAt rename
      (between.set (Kind.dashboard.path own) (dashboard.updated {} before own remote))
      (between'.set (Kind.dashboard.path own) (dashboard.updated {} other own remote)) kind id := by
  have identified := (sound.id_of_resource? stored).1
  have object := sound.isObject (Store.get?_of_resource? stored)
  have keptOwn := keeps.own remote rfl own identified
  -- The dashboard is written last and changes no chart.
  have charts : MirrorsAt rename between between' .chart id → MirrorsAt rename
      (between.set (Kind.dashboard.path own) (dashboard.updated {} before own remote))
      (between'.set (Kind.dashboard.path own) (dashboard.updated {} other own remote))
      .chart id := by
    intro mirrors
    rwa [MirrorsAt, Store.get?_set, Store.get?_set, if_neg (Kind.path_ne (by decide) _ _),
      if_neg (Kind.path_ne (by decide) _ _)]
  rcases touches with member | ⟨_, ⟨rfl⟩, ⟨isKind, isOwn⟩ | ⟨-, rfl, onLayout⟩⟩
  · by_cases isChart : kind = .chart
    · subst isChart
      have created := reconciled'.created
      rw [dashboard.absent_eq_of_same same, ← fresh] at created
      exact charts (.of_charts reconciled.created created member)
    · have member' : rename id ∈
          other.freshIds (dashboard.absent before (Layout.entries remote)).length :=
        fresh ▸ List.mem_map_of_mem member
      exact .of_none (reconciled.get?_of_fresh sound stored member isChart _)
        (reconciled'.get?_of_fresh sound' stored' member' isChart _)
  · obtain rfl : kind = .dashboard := isKind
    obtain rfl := Option.some.inj (isOwn.symm.trans identified)
    refine .of_some ((Store.get?_set ..).trans (if_pos rfl)) ?_
      (renameRefs_updated object same (keeps.document remote rfl) keptOwn fresh)
    rw [keptOwn, Store.get?_set, if_pos rfl]
  · exact charts
      (reconciled.mirrorsAt_chart reconciled' sound consistent stored same keeps onLayout)

end Dashboard

namespace Resource

variable {resource : Resource}

/-- Both updates take as many identifiers. -/
theorem taken_eq_of_same (same : resource.SameCharts found before other) :
    resource.taken found other = resource.taken found before := by
  cases resource with
  | dashboard d =>
      cases found with
      | none => rfl
      | some remote =>
          exact congrArg List.length (d.absent_eq_of_same (same rfl remote rfl))
  | detector d => cases found <;> rfl
  | _ => rfl

/-- Two updates that find the same, with the same charts, leave the same where they write, under the
identifiers that they take. -/
theorem Settled.mirrors (settled : resource.Settled found before after)
    (settled' : resource.Settled found other last) (sound : before.Sound) (sound' : other.Sound)
    (consistent : before.Consistent) (same : resource.SameCharts found before other)
    (keeps : resource.Keeps rename found before)
    (fresh : (before.freshIds (resource.taken found before)).map rename =
      other.freshIds (resource.taken found before)) {kind : Kind} {id : String}
    (touches : resource.Touches found (before.freshIds (resource.taken found before)) kind id) :
    MirrorsAt rename after last kind id := by
  cases resource with
  | dashboard d =>
      cases found with
      | none =>
          obtain ⟨remote, isFound, -⟩ | member := touches.symm
          · cases isFound
          · obtain ⟨groupId, chartIds, own, added⟩ := settled
            obtain ⟨groupId', chartIds', own', added'⟩ := settled'
            exact added.mirrors added' sound sound' fresh member
      | some remote =>
          obtain ⟨own, stored, between, reconciled, rfl⟩ := settled
          obtain ⟨own', stored', between', reconciled', rfl⟩ := settled'
          obtain rfl := Option.some.inj
            ((sound.id_of_resource? stored).1.symm.trans (sound'.id_of_resource? stored').1)
          exact reconciled.mirrors reconciled' sound sound' consistent stored stored'
            (same rfl remote rfl) keeps fresh touches
  | detector d => exact Detector.Settled.mirrors settled settled' sound sound' keeps fresh touches
  | _ => exact settled.elim

end Resource

end SignalBoard
