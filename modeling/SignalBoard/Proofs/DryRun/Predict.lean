/-
# What a dry run predicts

If an operation succeeds on a store, a dry run of it succeeds as well. It notes the requests that
would change something in their order, gives the same reply, and leaves the store as it is, all
under the identifiers of the dry run. This is so for every chart, dashboard or detector, for every
store, and however often the operation reads what it has changed.

The i-th identifier of the real run is told from its name alone, so the statement needs that the
resource and the store do not mention it under that name already. A resource that does is sent as
it is.
-/

import SignalBoard.CommandLine.Run
import SignalBoard.Proofs.DryRun.Dashboard
import SignalBoard.Proofs.Reconcile.Converge

namespace SignalBoard

/-- What a dashboard writes besides its name. -/
def Dashboard.documents (dashboard : Dashboard) : List Json :=
  dashboard.charts.map Chart.document ++ dashboard.settingsPayload?.toList

/-- What a resource writes besides names. -/
def Resource.documents : Resource → List Json
  | chart c => [c.document]
  | dashboard d => d.documents
  | group g => g.payload.toOption.toList ++ g.dashboards.flatMap Dashboard.documents
  | detector t => [t.document]

/-- What a resource and a store mention under the keys of identifiers. -/
def Resource.mentions (resource : Resource) (store : Store) : List String :=
  (resource.documents ++ store.documents.map (·.2)).flatMap Json.idTexts

namespace DryRun

variable {answer : Question → Bool} {store : Store}

/-- If the plan ends with a value on the store, then so it does in a dry run, with the same value
and the same changes noted, under the identifiers of the dry run, and the store stays. -/
def Predicts (answer : Question → Bool) (plan : Plan Json) (store : Store) : Prop :=
  let real := plan.run Store.server answer store
  let dry := plan.run (server Store.server) answer (store, {})
  let dryName := rename (store.freshIds (real.state.allocated - store.allocated))
  ∀ value, real.result = .ok value →
    dry.result = .ok (value.renameIds dryName) ∧
    dry.state.2.planned = (real.requests.filter (·.mutates)).map (Request.renameIds dryName) ∧
    dry.state.1 = store

/-- Two runs that mirror each other from the start. -/
theorem Mirrors.predicts {plan : Plan Json} (sound : store.Sound)
    (mirrors : ∀ count, count = (plan.run Store.server answer store).state.allocated -
      store.allocated → Mirrored store store {} → Mirrors answer store count plan plan store {}
        fun value value' _ => value' = value.renameIds (dryName store count)) :
    Predicts answer plan store := by
  intro value ended
  have lower : store.allocated ≤ (plan.run Store.server answer store).state.allocated :=
    allocated_le_run plan store
  obtain ⟨_, after, ended', state, planned, -, rfl⟩ :=
    mirrors _ rfl ⟨sound, rfl, apart_empty⟩ value ended (by omega)
  refine ⟨ended', ?_, ?_⟩
  · rw [state, planned]
    rfl
  · rw [state]

/-- A dry run of a command for a resource that is no group predicts the real run, when neither
the resource nor the store mentions an identifier that the run is given. -/
theorem predicts_command (reachable : store.Reachable) (command : CommandLine.Command)
    {resource : Resource} (single : resource.kind ≠ .group)
    (unmentioned : ∀ id ∈ resource.mentions store,
      id ∉ store.freshIds (((command.plan resource).run Store.server answer store).state.allocated
        - store.allocated)) :
    Predicts answer (command.plan resource) store := by
  have sound := reachable.sound
  refine Mirrors.predicts sound fun count enough mirrored => ?_
  rw [← enough] at unmentioned
  have steady : ∀ document ∈ resource.documents ++ store.documents.map (·.2),
      Steady store count document := fun document member =>
    Json.renameIds_eq_self document fun text mentioned =>
      rename_of_not_mem (unmentioned text (List.mem_flatMap.mpr ⟨document, member, mentioned⟩))
  have settled : Settled store count := by
    refine ⟨sound, fun path document stored => steady document (List.mem_append_right _ ?_)⟩
    exact List.mem_map.mpr ⟨(path, document), sound.ordered.mem_iff.mpr stored, rfl⟩
  have own : ∀ document ∈ resource.documents, Steady store count document := fun document member =>
    steady document (List.mem_append_left _ member)
  -- A deletion has no reply of its own.
  have deletes : ∀ plan : Plan Unit, Mirrors answer store count plan plan store {}
      (fun _ _ _ => True) → Mirrors answer store count ((fun _ => Json.null) <$> plan)
        ((fun _ => Json.null) <$> plan) store {}
        fun value value' _ => value' = value.renameIds (dryName store count) := by
    intro plan mirrors
    exact mirrors_bind mirrors fun _ _ _ _ mirroredToo _ => mirrors_pure mirroredToo rfl
  cases resource with
  | group group => exact absurd rfl single
  | chart chart =>
      have written := own chart.document (List.mem_singleton.mpr rfl)
      cases command with
      | create options => exact mirrors_chart_create mirrored written options
      | update overrides => exact mirrors_chart_update settled mirrored written overrides
      | read => exact mirrors_chart_read settled mirrored
      | delete => exact deletes _ (mirrors_chart_delete settled mirrored)
  | dashboard dashboard =>
      have written : SteadyDashboard store count dashboard := by
        constructor
        · intro chart member
          exact own _ (List.mem_append_left _ (List.mem_map_of_mem member))
        · intro settings present
          exact own _ (List.mem_append_right _ (Option.mem_toList.mpr present))
      cases command with
      | create options => exact mirrors_dashboard_create written mirrored options
      | update overrides => exact mirrors_dashboard_update settled written mirrored overrides
      | read => exact mirrors_requireUnique_read settled mirrored _ _
      | delete => exact deletes _ (mirrors_dashboard_delete settled mirrored)
  | detector detector =>
      have written := own detector.document (List.mem_singleton.mpr rfl)
      cases command with
      | create options => exact mirrors_detector_create mirrored written options
      | update overrides => exact mirrors_detector_update settled mirrored written overrides
      | read => exact mirrors_requireUnique_read settled mirrored _ _
      | delete => exact deletes _ (mirrors_detector_delete settled mirrored)

/-- An update of a dashboard that keeps, adds and drops a chart. -/
theorem predicts_command_newBoard :
    Predicts (fun _ => false)
      ((CommandLine.Command.update {}).plan (.dashboard Dashboard.newBoard))
      Dashboard.oldStore :=
  predicts_command (.request _ .empty) (.update {}) (by decide) (by decide +kernel)

/-- A chart with an identifier of its own, which is the first one that a store gives. -/
def pinnedChart : Chart := { id := some "id-1", name := "pinned", options := .text "x" }

/-- What a resource mentions is not renamed, even if the store gives it away. -/
theorem not_predicts_pinnedChart :
    ¬ Predicts (fun _ => false)
      ((CommandLine.Command.create { force := true }).plan (.chart pinnedChart)) {} := by
  intro predicts
  have planned := (predicts _ rfl).2.1
  exact absurd planned (by decide +kernel)

end DryRun

end SignalBoard
