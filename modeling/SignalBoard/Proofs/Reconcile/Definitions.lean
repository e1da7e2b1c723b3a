/-
# What becomes of local definitions

An update matches local and stored charts by their names, and of several local charts of one name it
always takes the first. So where the stored layout shows the name, only the first of them is used;
where it does not, all of them are created. Names that are told apart lose nothing.
-/

import SignalBoard.Proofs.Reconcile.Again
import SignalBoard.Proofs.Reconcile.Created

namespace SignalBoard

/-- The document has every field that is sent for the chart, but for the identifier. -/
def Chart.Describes (chart : Chart) (document : Json) : Prop :=
  ∀ key value, key ≠ "id" → chart.document.get? key = some value → document.get? key = some value

/-- An entry on the layout of a dashboard places a stored chart with the fields of a local one. -/
def Store.Defines (store : Store) (dashboard : Json) (chart : Chart) : Prop :=
  ∃ entry ∈ (dashboard.field "charts").items, ∃ chartId document,
    Layout.chartId? entry = some chartId ∧ store.resource? .chart chartId = some document ∧
      chart.Describes document

/-- A chart that was created has the fields that were sent. -/
theorem Chart.describes_storedAs (chart : Chart) (id : String) :
    chart.Describes (chart.storedAs id) := by
  intro key value notId sent
  rw [storedAs, Json.get?_withField chart.isObject_document, if_neg notId, sent]

/-- A chart that was revised has the fields that were sent, whatever it had before. -/
theorem Chart.describes_revise (chart : Chart) (id : String) {old : Json}
    (object : old.isObject = true) : chart.Describes (chart.revise id old) := by
  intro key value notId sent
  have laid := Json.isObject_overlay chart.isObject_document old
  rw [revise, Json.get?_withField laid, if_neg notId,
    Json.get?_overlay object chart.isRecord_document, sent, Option.some_or]

namespace Dashboard

variable {answer : Question → Bool} {dashboard : Dashboard} {overrides : Overrides}
  {store after between : Store} {id groupId : String} {chartIds : List String}
  {remote reply : Json} {chart : Chart}

/-- Charts that entries were added for are defined. -/
theorem defines_of_forall₂ {charts : List Chart} {entries : List Json}
    (added : List.Forall₂ (fun chart entry => ∃ chartId, Layout.chartId? entry = some chartId ∧
      after.resource? .chart chartId = some (Chart.storedAs chart chartId)) charts entries)
    (placed : ∀ entry ∈ entries, entry ∈ (reply.field "charts").items) (member : chart ∈ charts) :
    after.Defines reply chart := by
  obtain ⟨entry, among, chartId, names, stored⟩ := Store.exists_of_forall₂_left added member
  exact ⟨entry, placed entry among, chartId, _, names, stored, chart.describes_storedAs chartId⟩

/-- A dashboard that was created defines all local charts, however they are named. -/
theorem Created.defines
    (created : dashboard.Created overrides groupId id chartIds reply store after)
    (member : chart ∈ dashboard.charts) : after.Defines reply chart :=
  defines_of_forall₂ (Store.forall₂_placedEntries created.shown 0)
    (fun _ among => by rwa [created.charts_reply]) member

namespace Reconciled

variable (reconciled : dashboard.Reconciled (Layout.entries remote) store between)
  (sound : store.Sound) (consistent : store.Consistent)
  (stored : store.resource? .dashboard id = some remote) (overrides : Overrides)
include reconciled sound stored

/-- A local chart that no stored chart of the layout matches is created. -/
theorem defines_absent (member : chart ∈ dashboard.absent store (Layout.entries remote)) :
    let reply := dashboard.updated overrides store id remote
    (between.set (Kind.dashboard.path id) reply).Defines reply chart := by
  intro reply
  have fresh := (reconciled.created_fresh sound id reply).imp fun _ _ created => created.2
  refine defines_of_forall₂ (Layout.forall₂_stacked fresh
    (Layout.bottom (dashboard.kept store (Layout.entries remote)))) ?_ member
  intro entry among
  rw [charts_updated overrides id (sound.isObject (Store.get?_of_resource? stored))]
  exact List.mem_append_right _ among

include consistent

/-- The first local chart of a name revises the stored charts of that name. -/
theorem defines_first {entry : Json} (among : entry ∈ Layout.entries remote)
    (first : dashboard.chartNamed? (store.placed entry).name = some chart) :
    let reply := dashboard.updated overrides store id remote
    (between.set (Kind.dashboard.path id) reply).Defines reply chart := by
  intro reply
  have placeable := consistent.placeable sound stored
  have named := placeable.mem_ids among
  obtain ⟨old, atPath, -⟩ := placeable.stored _ named
  rw [Layout.filterMap_entries] at named
  have clean : '/' ∉ (store.placed entry).id.toList := by
    obtain ⟨old, found⟩ :=
      Option.isSome_iff_exists.mp (consistent.placed id remote stored _ named)
    exact Store.clean_of_resource? found
  refine ⟨entry, ?_, _, _, placeable.chartId?_eq among, ?_,
    chart.describes_revise (store.placed entry).id (sound.isObject atPath)⟩
  · rw [charts_updated overrides id (sound.isObject (Store.get?_of_resource? stored))]
    exact List.mem_append_left _ (List.mem_filter.mpr ⟨among, by rw [first]; rfl⟩)
  · rw [resource?_chart_set clean]
    exact reconciled.revised entry among chart first old atPath

end Reconciled

/-- An update loses no local chart that is the first of its name, and none whose name the stored
layout does not show. -/
theorem ensures_update_defines (reachable : store.Reachable) (consistent : store.Consistent)
    (valid : dashboard.check = .ok ()) {found : Option Json}
    (alone : store.named .dashboard dashboard.name = found.toList) (overrides : Overrides) :
    Plan.Ensures Store.server answer (dashboard.update overrides) store
      fun reply after => (∃ id, after.resource? .dashboard id = some reply) ∧
        ∀ chart ∈ dashboard.charts,
          (dashboard.chartNamed? chart.name = some chart ∨
            ∀ remote ∈ found, some chart.name ∉ (remote.field "charts").items.map store.nameAt?) →
          after.Defines reply chart := by
  have sound := reachable.sound
  cases found with
  | none =>
      unfold update
      rw [Plan.checked_eq valid, pure_bind]
      apply Plan.ensures_bind (Store.ensures_findUnique alone)
      rintro _ store ⟨rfl, rfl⟩
      apply (ensures_createUnguarded_created sound valid overrides).mono
      rintro reply after ⟨groupId, id, chartIds, created⟩
      exact ⟨⟨id, created.stored⟩, fun chart member _ => created.defines member⟩
  | some remote =>
      obtain ⟨id, stored, -⟩ := sound.exists_of_named alone
      have placeable := consistent.placeable sound stored
      apply (ensures_update_stored valid sound overrides alone stored placeable).mono
      rintro _ _ ⟨rfl, between, reconciled, rfl⟩
      refine ⟨⟨id, ?_⟩, fun chart member known => ?_⟩
      · rw [Store.resource?_of_clean (Store.clean_of_resource? stored), Store.get?_set, if_pos rfl]
      by_cases shown : chart ∈ dashboard.unmatched store remote
      case pos =>
        rw [← absent_eq_unmatched valid consistent stored] at shown
        exact reconciled.defines_absent sound stored overrides shown
      case neg =>
        obtain ⟨entry, among, named⟩ :
            ∃ entry ∈ (remote.field "charts").items, store.nameAt? entry = some chart.name := by
          simpa [unmatched, member] using shown
        have first : dashboard.chartNamed? chart.name = some chart :=
          known.resolve_right fun none =>
            none remote rfl (List.mem_map.mpr ⟨entry, among, named⟩)
        have names : (Layout.chartId? entry).isSome := by
          cases held : Layout.chartId? entry with
          | none => simp [Store.nameAt?, held] at named
          | some chartId => rfl
        have among' : entry ∈ Layout.entries remote := List.mem_filter.mpr ⟨among, names⟩
        refine reconciled.defines_first sound consistent stored overrides among' ?_
        rw [placed_name consistent stored among', named]
        exact first

/-- A dashboard with two charts of one name. -/
def twinBoard (name : String) : Dashboard where
  name := "board"
  charts := [{ name, options := .text "first" }, { name, options := .text "second" }]

theorem consistent_oldStore : oldStore.Reachable ∧ oldStore.Consistent :=
  have reachable : oldStore.Reachable := .request _ .empty
  ⟨reachable, reachable.sound.consistent (by decide +kernel) (by decide +kernel)⟩

/-- Two charts whose name the stored layout does not show are both created. -/
theorem ensures_update_defines_twinBoard :
    Plan.Ensures Store.server (fun _ => false) ((twinBoard "added").update {}) oldStore
      fun reply after => ∀ chart ∈ (twinBoard "added").charts, after.Defines reply chart := by
  obtain ⟨reachable, consistent⟩ := consistent_oldStore
  let found := (oldStore.named .dashboard "board").head?
  have alone : oldStore.named .dashboard "board" = found.toList := by decide +kernel
  have hidden : ∀ remote ∈ found,
      some "added" ∉ (remote.field "charts").items.map oldStore.nameAt? := by decide +kernel
  have valid : (twinBoard "added").check = .ok () := rfl
  apply (ensures_update_defines reachable consistent valid alone {}).mono
  rintro reply after ⟨-, defined⟩ chart member
  have named : chart.name = "added" := by
    simp only [twinBoard, List.mem_cons, List.not_mem_nil, or_false] at member
    rcases member with rfl | rfl <;> rfl
  exact defined chart member (.inr (named ▸ hidden))

/-- Of two charts whose name the stored layout shows, the second is lost. -/
theorem not_defines_twinBoard :
    let run := ((twinBoard "kept").update {}).run Store.server (fun _ => false) oldStore
    oldStore.Reachable ∧ oldStore.Consistent ∧ (twinBoard "kept").check = .ok () ∧
      (oldStore.named .dashboard (twinBoard "kept").name).length = 1 ∧
      ∃ reply, run.result = .ok reply ∧
        ∃ chart ∈ (twinBoard "kept").charts, ¬ run.state.Defines reply chart := by
  intro run
  obtain ⟨reachable, consistent⟩ := consistent_oldStore
  let second : Chart := { name := "kept", options := .text "second" }
  have differ : ∀ reply ∈ run.result.toOption, ∀ entry ∈ (reply.field "charts").items,
      ∀ document ∈ (Layout.chartId? entry).bind (run.state.resource? .chart),
        document.get? "options" ≠ second.document.get? "options" := by
    decide +kernel
  have succeeds : run.result.isOk := by decide +kernel
  refine ⟨reachable, consistent, rfl, by decide +kernel, ?_⟩
  cases ended : run.result with
  | error fault =>
      rw [ended] at succeeds
      cases succeeds
  | ok reply =>
      refine ⟨reply, rfl, second, by simp [twinBoard, second], ?_⟩
      rintro ⟨entry, among, chartId, document, names, stored, described⟩
      refine differ reply (by rw [ended]; rfl) entry among document ?_ ?_
      · rw [names]
        exact stored
      · exact described "options" _ (by decide) rfl

end Dashboard

end SignalBoard
