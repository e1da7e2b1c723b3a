/-
# Where created charts are placed

An update that finds the stored dashboard writes a layout for it: of the stored entries those whose
charts are still wanted, as they are, and below them one for each chart that was created. Stored
entries may hold anything and stand in any order, and rows are words of 64 bits. The row of the
first created chart is the maximum of where the others end, and from there on the row grows by the
height of one chart; as long as no entry of the layout ends beyond the last row, nothing wraps
around, and no created chart overlaps another chart.
-/

import SignalBoard.Proofs.Reconcile.Careful
import SignalBoard.Proofs.Reconcile.Told

namespace SignalBoard

open Plan (Turns)

/-! ## Rows -/

namespace Layout

/-- The row where an entry starts. -/
def top (entry : Json) : Nat := (word "row" entry).toNat

/-- The first row below an entry, as if rows had no end. -/
def foot (entry : Json) : Nat := top entry + (word "height" entry).toNat

/-- The entry ends before rows do. -/
def Fits (entry : Json) : Prop := foot entry < 2 ^ 64

/-- The entries that are added stand below those that are kept, and each below the one before. -/
structure Below (kept added : List Json) : Prop where
  kept : ∀ old ∈ kept, ∀ new ∈ added, foot old ≤ top new
  apart : added.Pairwise fun upper lower => foot upper ≤ top lower

variable {entry : Json} {kept : List Json} {ids : List String} {row : UInt64}

/-- Where an entry ends does not wrap around if the entry fits. -/
theorem toNat_bottomOf (fits : Fits entry) : (bottomOf entry).toNat = foot entry := by
  rw [bottomOf, UInt64.toNat_add]
  exact Nat.mod_eq_of_lt fits

theorem toNat_max (first second : UInt64) :
    (max first second).toNat = max first.toNat second.toNat := by
  show (if first ≤ second then second else first).toNat = _
  split
  case isTrue ordered => exact (max_eq_right (UInt64.le_iff_toNat_le.mp ordered)).symm
  case isFalse reversed =>
    exact (max_eq_left (not_le.mp fun le => reversed (UInt64.le_iff_toNat_le.mpr le)).le).symm

/-- The bottom of entries is not above where any of them ends. -/
theorem foot_le_bottom (fits : Fits entry) (among : entry ∈ kept) :
    foot entry ≤ (bottom kept).toNat := by
  -- What the entries before have come to is a start like any other.
  have lowest (entries : List Json) (start : UInt64) :
      let last := entries.foldl (fun lowest entry => max lowest (bottomOf entry)) start
      start.toNat ≤ last.toNat ∧
        ∀ entry ∈ entries, (bottomOf entry).toNat ≤ last.toNat := by
    induction entries generalizing start with
    | nil => exact ⟨le_rfl, by simp⟩
    | cons first rest ih =>
        obtain ⟨started, each⟩ := ih (max start (bottomOf first))
        rw [toNat_max] at started
        refine ⟨(le_max_left _ _).trans started, ?_⟩
        rintro entry (_ | ⟨_, later⟩)
        · exact (le_max_right _ _).trans started
        · exact each entry later
  rw [← toNat_bottomOf fits]
  exact (lowest kept 0).2 entry among

theorem top_added (id : String) (row : UInt64) : top (added id row) = row.toNat := by
  have fits : fitsWord row.toNat = true := (fitsWord_iff _).mpr row.toNat_lt
  have written : (added id row).field "row" = .int (.ofNat row.toNat) := by
    rw [Json.field, added, Json.get?_record (by simp)]
    rfl
  simp [top, word, written, Json.word?, fits]

theorem foot_added (id : String) (row : UInt64) : foot (added id row) = row.toNat + 3 := by
  have written : (added id row).field "height" = .int 3 := by
    rw [Json.field, added, Json.get?_record (by simp)]
    rfl
  rw [foot, top_added, word, written]
  rfl

/-- Entries that are stacked from a row on start there or below, each below the one before. -/
theorem stacked_below (fits : ∀ entry ∈ stacked ids row, Fits entry) :
    (∀ entry ∈ stacked ids row, row.toNat ≤ top entry) ∧
      (stacked ids row).Pairwise fun upper lower => foot upper ≤ top lower := by
  induction ids generalizing row with
  | nil => exact ⟨nofun, .nil⟩
  | cons id rest ih =>
      rw [stacked, List.forall_mem_cons] at fits
      obtain ⟨here, later⟩ := fits
      obtain ⟨start, apart⟩ := ih later
      rw [Fits, foot_added] at here
      have next : (row + addedHeight).toNat = row.toNat + 3 := by
        rw [UInt64.toNat_add]
        exact Nat.mod_eq_of_lt here
      rw [next] at start
      constructor
      · rw [stacked, List.forall_mem_cons, top_added]
        exact ⟨le_rfl, fun entry among => (Nat.le_add_right _ _).trans (start entry among)⟩
      · rw [stacked, List.pairwise_cons, foot_added]
        exact ⟨start, apart⟩

/-- Entries that are stacked below others stand below them, if all of them fit. -/
theorem below_stacked (ids : List String)
    (fits : ∀ entry ∈ kept ++ stacked ids (bottom kept), Fits entry) :
    Below kept (stacked ids (bottom kept)) := by
  rw [List.forall_mem_append] at fits
  obtain ⟨start, apart⟩ := stacked_below fits.2
  exact ⟨fun old among new added =>
    (foot_le_bottom (fits.1 old among) among).trans (start new added), apart⟩

end Layout

/-! ## What the exchanges tell -/

/-- The entry is for the chart of the exchange: it has the identifier that the reply gives, and the
place at the left, over half of the width. -/
structure Layout.AddedFor (exchange : Request × Json) (entry : Json) : Prop where
  names : ∃ id, exchange.2.id? = some id ∧ Layout.chartId? entry = some id
  column : entry.get? "column" = some (.int 0)
  width : entry.get? "width" = some (.int 6)
  height : entry.get? "height" = some (.int 3)

theorem Layout.addedFor_added {exchange : Request × Json} {id : String}
    (identified : exchange.2.id? = some id) (row : UInt64) : AddedFor exchange (added id row) := by
  refine ⟨⟨id, identified, chartId?_added id row⟩, ?_, ?_, ?_⟩ <;>
    rw [added, Json.get?_record (by simp)] <;> rfl

namespace Dashboard

variable {dashboard : Dashboard} {layout : List Json} {placed : List PlacedChart}
  {reads before after : History}

/-- The chart was read, by a name that is not local. -/
def Discards (dashboard : Dashboard) (reads : History) (id : String) : Prop :=
  ∃ exchange ∈ reads, exchange.1 = .get (Kind.chart.path id) ∧
    ∀ chart ∈ dashboard.charts, chart.name ≠ exchange.2.name?.getD ""

/-- The entry names a chart, and that was read by local names only. -/
def Survives (dashboard : Dashboard) (reads : History) (entry : Json) : Prop :=
  ∃ id ∈ Layout.chartId? entry, ¬ dashboard.Discards reads id

instance (dashboard : Dashboard) (reads : History) (id : String) :
    Decidable (dashboard.Discards reads id) :=
  inferInstanceAs (Decidable (∃ exchange ∈ reads, _ ∧ _))

instance (dashboard : Dashboard) (reads : History) (entry : Json) :
    Decidable (dashboard.Survives reads entry) :=
  inferInstanceAs (Decidable (∃ id ∈ Layout.chartId? entry, _))

/-- The local charts by whose name none was read. -/
def unread (dashboard : Dashboard) (reads : History) : List Chart :=
  dashboard.charts.filter fun chart => ∀ exchange ∈ reads, exchange.2.name?.getD "" ≠ chart.name

/-- How the charts of a stored dashboard are arranged by an update. All charts that its layout names
are read, then some revised, then the local charts created by whose name none was read, then some
deleted; and the new layout has the entries that survive, as they were, and after them those of the
created charts, which are placed below all the others. -/
inductive Arranged (dashboard : Dashboard) (remote : Json) : History → List Json → Prop
  | arranged {reads revises creates deletes : History} {added : List Json}
      (read : reads.map Prod.fst =
        (Layout.chartIds remote).map fun id => .get (Kind.chart.path id))
      (revised : ∀ exchange ∈ revises, exchange.1.Revises)
      (created : creates.map Prod.fst =
        (dashboard.unread reads).map fun chart => .post Kind.chart.endpoint [] chart.document)
      (deleted : ∀ exchange ∈ deletes, ∃ id, dashboard.Discards reads id ∧
        exchange.1 = .delete (Kind.chart.path id))
      (placed : List.Forall₂ Layout.AddedFor creates added)
      (below : let kept := (remote.field "charts").items.filter (dashboard.Survives reads)
        (∀ entry ∈ kept ++ added, Layout.Fits entry) → Layout.Below kept added) :
      Arranged dashboard remote (reads ++ revises ++ creates ++ deletes)
        ((remote.field "charts").items.filter (dashboard.Survives reads) ++ added)

/-- The turns of reading charts are exchanges, which give the charts their names. -/
theorem exists_reads (turns : Turns ReadTurn layout placed before after) :
    ∃ reads : History, after = before ++ reads ∧
      layout.filterMap Layout.chartId? = placed.map (·.id) ∧
      reads.map (fun exchange => (exchange.1, exchange.2.name?.getD "")) =
        placed.map fun chart => (.get (Kind.chart.path chart.id), chart.name) := by
  induction turns with
  | nil => exact ⟨[], by simp⟩
  | cons head tail ih =>
      obtain ⟨id, chart, names, rfl, rfl⟩ := head
      obtain ⟨reads, rfl, ids, same⟩ := ih
      exact ⟨(.get (Kind.chart.path id), chart) :: reads, by simp,
        by simp [List.filterMap_cons_some names, ids], by simp [same]⟩

/-- The turns of creating charts are exchanges, which give the charts their identifiers. -/
theorem exists_creates {charts : List Chart} {ids : List String}
    (turns : Turns CreateTurn charts ids before after) :
    ∃ creates : History, after = before ++ creates ∧
      creates.map Prod.fst = charts.map (fun chart =>
        .post Kind.chart.endpoint [] chart.document) ∧
      ∀ row, List.Forall₂ Layout.AddedFor creates (Layout.stacked ids row) := by
  induction turns with
  | nil => exact ⟨[], by simp, rfl, fun _ => .nil⟩
  | @cons chart rest id ids _ _ _ head tail ih =>
      obtain ⟨reply, identified, rfl⟩ := head
      obtain ⟨creates, rfl, same, added⟩ := ih
      refine ⟨(.post Kind.chart.endpoint [] chart.document, reply) :: creates, by simp,
        by simp [same], fun row => ?_⟩
      exact .cons (Layout.addedFor_added identified row) (added _)

section Readings

variable (dashboard) (same : reads.map (fun exchange => (exchange.1, exchange.2.name?.getD "")) =
  placed.map fun chart => (.get (Kind.chart.path chart.id), chart.name))
include same

/-- What is read with a name is a placed chart. -/
theorem exists_read_iff (holds : Request → String → Prop) :
    (∃ exchange ∈ reads, holds exchange.1 (exchange.2.name?.getD "")) ↔
      ∃ chart ∈ placed, holds (.get (Kind.chart.path chart.id)) chart.name := by
  have pairs : (∃ pair ∈ reads.map fun exchange => (exchange.1, exchange.2.name?.getD ""),
      holds pair.1 pair.2) ↔ ∃ pair ∈ placed.map fun chart =>
        (Request.get (Kind.chart.path chart.id), chart.name), holds pair.1 pair.2 := by
    rw [same]
  simpa only [List.mem_map, exists_exists_and_eq_and] using pairs

/-- What is stale was read by a name that is not local. -/
theorem discards_iff (id : String) :
    dashboard.Discards reads id ↔ ∃ chart ∈ dashboard.stale placed, chart.id = id := by
  have isPath {other : String} : Request.get (Kind.chart.path other) = .get (Kind.chart.path id) ↔
      other = id :=
    ⟨fun same => (Kind.path_inj (Request.get.inj same)).2, fun same => by rw [same]⟩
  rw [Discards, exists_read_iff same fun request name => request = .get (Kind.chart.path id) ∧
    ∀ chart ∈ dashboard.charts, chart.name ≠ name]
  simp only [stale, List.mem_filter, Option.isNone_iff_eq_none, chartNamed?, List.find?_eq_none,
    decide_eq_true_eq, isPath, ne_eq, and_assoc]
  exact exists_congr fun chart => and_congr_right fun _ => and_comm

/-- What is missing was not read. -/
theorem unread_eq : dashboard.unread reads = dashboard.missing placed := by
  rw [unread, missing]
  apply List.filter_congr
  intro chart _
  have unnamed := not_congr (exists_read_iff same fun _ name => name = chart.name)
  rw [Bool.eq_iff_iff]
  simpa using unnamed

/-- The layout without what is stale has the entries that survive. -/
theorem without_stale_eq (remote : Json) :
    Layout.without ((dashboard.stale placed).map (·.id)) (Layout.entries remote) =
      (remote.field "charts").items.filter (dashboard.Survives reads) := by
  rw [Layout.without, Layout.entries, List.filter_filter]
  apply List.filter_congr
  intro entry _
  rw [Bool.eq_iff_iff]
  cases names : Layout.chartId? entry with
  | none => simp [Survives, names]
  | some id =>
      have survives : dashboard.Survives reads entry ↔
          ∀ chart ∈ dashboard.stale placed, id ≠ chart.id := by
        simp [Survives, names, discards_iff dashboard same, @eq_comm _ id]
      simp [survives]

end Readings

/-- The exchanges of a reconciliation tell how the charts are arranged. -/
theorem ChartsTold.arranged {remote : Json} {own : History} {written : List Json}
    (told : dashboard.ChartsTold (Layout.entries remote) [] written own) :
    dashboard.Arranged remote own written := by
  obtain ⟨turns, revises, creates, deletes⟩ := told
  obtain ⟨reads, rfl, ids, same⟩ := exists_reads turns
  obtain ⟨revises, rfl, revised⟩ := revises
  obtain ⟨creates, rfl, created, added⟩ := exists_creates creates
  obtain ⟨deletes, rfl, deleted⟩ := deletes
  rw [renewed, without_stale_eq dashboard same]
  refine .arranged ?_ revised (by rw [created, unread_eq dashboard same]) ?_ (added _)
    (Layout.below_stacked _)
  · have requests := congrArg (List.map Prod.fst) same
    rw [List.map_map, List.map_map] at requests
    rw [← Layout.filterMap_entries, ids, List.map_map]
    exact requests
  · intro exchange among
    obtain ⟨chart, isStale, isDelete⟩ := deleted exchange among
    have discards := (discards_iff dashboard same chart.id).mpr ⟨chart, isStale, rfl⟩
    exact ⟨chart.id, discards, isDelete⟩

/-- After a search, a stored dashboard was replaced by one last request, with the layout that the
exchanges before it tell. -/
def Rearranged (dashboard : Dashboard) (remote reply : Json) (own : History) : Prop :=
  ∃ (exchanges : History) (id : String) (body : Json) (written : List Json),
    own = exchanges ++ [(.put (Kind.dashboard.path id) body, reply)] ∧ remote.id? = some id ∧
      body.get? "charts" = some (.arr written) ∧ dashboard.Arranged remote exchanges written

/-- Settings and overrides leave the layout that is written as it is. -/
theorem get?_charts_written (dashboard : Dashboard) (overrides : Overrides) {remote : Json}
    (object : remote.isObject = true) (charts : Json) :
    (overrides.applied (dashboard.withSettings (remote.withField "charts" charts))).get? "charts" =
      some charts := by
  have changed : (remote.withField "charts" charts).isObject = true := by simpa
  rw [overrides.get?_applied (dashboard.isObject_withSettings changed) (by decide) (by decide),
    dashboard.get?_withSettings changed (by decide), Json.get?_withField object, if_pos rfl]

/-- What an update tells when it ends. -/
theorem guarded_update_rearranged (dashboard : Dashboard) (overrides : Overrides) :
    (dashboard.update overrides).Guarded (fun _ _ => True) (fun reply after =>
      ∃ searched own, after = (.search .dashboard dashboard.name, searched) :: own ∧
        ∀ remote, matching dashboard.name searched.items = [remote] →
          dashboard.Rearranged remote reply own) [] := by
  unfold update
  apply Plan.guarded_checked
  intro _ _
  apply Plan.guarded_bind (Plan.guarded_findUnique trivial)
  rintro found _ ⟨searched, rfl, matched⟩
  rw [List.nil_append, ← List.append_nil [_]]
  apply Plan.Guarded.after
  cases found with
  | none =>
      apply (Plan.guarded_true _ []).mono
      intro reply own _
      refine ⟨searched, own, rfl, fun remote one => ?_⟩
      rw [matched] at one
      cases one
  | some remote =>
      apply Plan.guarded_requireId
      intro id identified
      have object := Json.isObject_of_id? identified
      have named : ∀ entry ∈ Layout.entries remote, (Layout.chartId? entry).isSome :=
        fun entry among => (List.mem_filter.mp among).2
      apply Plan.guarded_bind (guarded_reconcileCharts_told dashboard named [])
      intro charts exchanges told
      have settled :
          (dashboard.withSettings (remote.withField "charts" (.arr charts))).isObject = true :=
        dashboard.isObject_withSettings (by simpa)
      rw [Plan.assign_eq object, pure_bind, overrides.apply_eq settled, pure_bind]
      refine ⟨trivial, fun reply => ⟨searched, _, rfl, fun other one => ?_⟩⟩
      rw [matched] at one
      obtain rfl := List.singleton_inj.mp one
      exact ⟨exchanges, id, _, charts, rfl, identified,
        dashboard.get?_charts_written overrides object _, told.arranged⟩

/-- An update that found the stored dashboard and succeeds replaces it by one with a layout that
has the entries that survive, and below them one for each chart that was created: whatever the
stored entries hold, and whatever the API answers on the way. -/
theorem update_rearranges {σ : Type} (server : Server σ) (answer : Question → Bool) (state : σ)
    (dashboard : Dashboard) (overrides : Overrides) {remote reply : Json}
    (ended : ((dashboard.update overrides).run server answer state).result = .ok reply)
    (found : dashboard.Found ((dashboard.update overrides).trace server answer state) [remote]) :
    ∃ (searched : Json) (own : History),
      (dashboard.update overrides).trace server answer state =
        History.trace ((.search .dashboard dashboard.name, searched) :: own) ∧
      dashboard.Rearranged remote reply own := by
  obtain ⟨history, told, searched, own, rfl, rearranges⟩ :=
    (guarded_update_rearranged dashboard overrides).promised ended
  obtain ⟨searched', rest, split, one⟩ := found
  obtain rfl : searched = searched' := by
    rw [told] at split
    exact Except.ok.inj (Prod.mk.inj (List.cons.inj split).1).2
  exact ⟨searched, own, told, rearranges remote one⟩

/-- A layout in no order: one entry names no chart, one has no row, one is for a chart that is
gone. The two charts that are created stand below the lowest of the others. -/
theorem update_rearranges_ragged :
    let board : Dashboard := { name := "board", charts := [{ name := "one", options := .text "x" },
      { name := "kept", options := .text "y" }, { name := "two", options := .text "z" }] }
    let place (id : String) (fields : List (String × Option Json)) : Json :=
      .record (("chartId", some (.str id)) :: fields)
    let kept := [place "a" [("row", some (.int 7)), ("height", some (.int 2))],
      place "c" [("row", some (.str "top"))]]
    let remote : Json := .record [("id", some (.str "d")), ("name", some (.str "board")),
      ("charts", some (.arr (.null :: place "b" [("row", some (.int (-1)))] :: kept)))]
    let written : List Json := kept ++ [Layout.added "e" 9, Layout.added "f" 12]
    let document (id name : String) : Json :=
      .record [("id", some (.str id)), ("name", some (.str name))]
    let replies : List (Except Fault Json) := [.ok (.arr [remote]), .ok (document "b" "gone"),
      .ok (document "a" "kept"), .ok (document "c" "kept"), .ok (document "a" "kept"), .ok .null,
      .ok (document "c" "kept"), .ok .null, .ok (document "e" "one"), .ok (document "f" "two"),
      .ok .null, .ok .null]
    let trace := (board.update {}).trace Server.scripted (fun _ => false) replies
    ((board.update {}).run Server.scripted (fun _ => false) replies).result = .ok .null ∧
      board.Found trace [remote] ∧
      trace.getLast? = some (.put (Kind.dashboard.path "d") (.record [("id", some (.str "d")),
        ("name", some (.str "board")), ("charts", some (.arr written))]), .ok .null) ∧
      (∀ entry ∈ written, Layout.Fits entry) ∧
      ∃ (searched : Json) (own : History),
        trace = History.trace ((.search .dashboard "board", searched) :: own) ∧
        board.Rearranged remote .null own := by
  intro board place kept remote written document replies trace
  have ended : ((board.update {}).run Server.scripted (fun _ => false) replies).result =
      .ok .null := by decide +kernel
  have found : board.Found trace [remote] :=
    ⟨.arr [remote], trace.tail, by decide +kernel, by decide +kernel⟩
  have fits : ∀ entry ∈ written, Layout.foot entry < 2 ^ 64 := by decide +kernel
  exact ⟨ended, found, by decide +kernel, fits,
    update_rearranges Server.scripted (fun _ => false) replies board {} ended found⟩

end Dashboard

end SignalBoard
