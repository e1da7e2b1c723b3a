/-
# Which dashboards can still be updated and deleted

Whatever has been done before, and however it ended, a dashboard whose name identifies it can be
updated, and it can be deleted, exactly as long as all charts of its layout are stored. Commands
that succeed keep them stored, unless a chart is deleted by itself: then the dashboard that shows it
can be neither updated nor deleted any more.
-/

import SignalBoard.Proofs.Integrity.Orderly
import SignalBoard.Proofs.Integrity.Run

namespace SignalBoard

open Store (Orderly)

variable {answer : Question → Bool} {store : Store} {dashboard : Dashboard} {id : String}
  {remote : Json}

namespace Dashboard

/-- An update needs all charts of the layout, and no more. -/
theorem isOk_update_iff (valid : dashboard.check = .ok ()) (orderly : store.Orderly)
    (overrides : Overrides) (alone : store.named .dashboard dashboard.name = [remote]) :
    ((dashboard.update overrides).run Store.server answer store).result.isOk ↔
      store.Whole remote := by
  obtain ⟨id, stored, -⟩ := orderly.sound.exists_of_named alone
  constructor
  · intro succeeded
    by_contra torn
    obtain ⟨_, -, -, fails⟩ := fails_update valid orderly.sound overrides alone stored
      (orderly.exists_missing stored torn)
    exact fails.not_isOk succeeded
  · intro whole
    exact (ensures_update_stored valid orderly.sound overrides alone stored
      (orderly.placeable stored whole)).isOk

/-- A dashboard is deleted after its charts, if these are all stored. -/
theorem ensures_deleteById_whole (orderly : store.Orderly)
    (stored : store.resource? .dashboard id = some remote) (whole : store.Whole remote) :
    Plan.Ensures Store.server answer (deleteById id) store fun _ _ => True := by
  have atPath := Store.get?_of_resource? stored
  have charts : ∀ chartId ∈ Layout.chartIds remote, store.HasChart chartId := by
    intro chartId shown
    obtain ⟨chart, found⟩ := Option.isSome_iff_exists.mp (whole chartId shown)
    exact ⟨chart, Store.get?_of_resource? found, (orderly.sound.id_of_resource? found).1⟩
  apply Plan.ensures_bind ((ensures_deleteChartsOf atPath (orderly.laid id remote stored).once
    charts).keeping Store.sound_server orderly.sound)
  rintro _ between ⟨deleted, sound⟩
  have still : between.documents.get? (Kind.dashboard.path id) = some remote := by
    rw [deleted.elsewhere _ (Kind.path_not_mem_paths (by decide) _ _), atPath]
  obtain ⟨after, answered, -⟩ := Store.exists_delete_dashboard sound still
    (orderly.sound.id_of_resource? stored).1 rfl
  exact Plan.ensures_call answered (Plan.ensures_pure trivial)

/-- A deletion needs all charts of the layout, and no more. -/
theorem isOk_delete_iff (orderly : store.Orderly)
    (alone : store.named .dashboard dashboard.name = [remote]) :
    (dashboard.delete.run Store.server answer store).result.isOk ↔ store.Whole remote := by
  obtain ⟨id, stored, -⟩ := orderly.sound.exists_of_named alone
  have identified := (orderly.sound.id_of_resource? stored).1
  have clean := Store.clean_of_resource? stored
  have finds : Plan.Ensures Store.server answer (requireUnique .dashboard dashboard.name) store
      fun found after => found = remote ∧ after = store := Store.ensures_requireUnique alone
  constructor
  · have needs : Plan.Yields Store.server answer dashboard.delete store
        fun _ _ => store.Whole remote := by
      apply Plan.yields_bind finds.yields
      rintro _ _ ⟨rfl, rfl⟩
      rw [requireId_eq identified, pure_bind]
      apply Plan.yields_bind (Store.yields_deleteChartsOf clean)
      rintro _ _ ⟨-, charts, -⟩
      refine Plan.yields_call fun _ _ _ => Plan.yields_pure fun chartId shown => ?_
      rw [Store.resource?_of_clean ((orderly.laid id _ stored).clean chartId shown)]
      exact charts chartId (Store.layoutOf_eq stored ▸ shown)
    intro succeeded
    obtain ⟨_, whole⟩ := needs.of_isOk succeeded
    exact whole
  · intro whole
    have deletes : Plan.Ensures Store.server answer dashboard.delete store fun _ _ => True := by
      apply Plan.ensures_bind finds
      rintro _ _ ⟨rfl, rfl⟩
      rw [requireId_eq identified, pure_bind]
      exact ensures_deleteById_whole orderly stored whole
    exact deletes.isOk

end Dashboard

namespace Store

/-- The stores that commands leave, one after the other, however they end. -/
inductive Operated : Store → Prop
  | empty : Operated {}
  | command {store : Store} (operated : Operated store) (answer : Question → Bool)
      (command : CommandLine.Command) (resource : Resource) :
      Operated ((command.plan resource).run server answer store).state

theorem Operated.orderly (operated : store.Operated) : store.Orderly := by
  induction operated with
  | empty => exact orderly_empty
  | command _ answer command resource ih => exact command.leaves_orderly ih resource

/-- Whatever was done before, a dashboard that its name identifies can be updated, and can be
deleted, exactly if all charts of its layout are stored. They are if nothing has failed and no chart
was deleted by itself. -/
theorem Operated.usable_iff (operated : store.Operated) (valid : dashboard.check = .ok ())
    (alone : store.named .dashboard dashboard.name = [remote]) (answer : Question → Bool) :
    (((dashboard.update {}).run server answer store).result.isOk ↔ store.Whole remote) ∧
      ((dashboard.delete.run server answer store).result.isOk ↔ store.Whole remote) ∧
      (store.Kept → store.Whole remote) := by
  refine ⟨Dashboard.isOk_update_iff valid operated.orderly {} alone,
    Dashboard.isOk_delete_iff operated.orderly alone, fun kept => ?_⟩
  obtain ⟨id, stored, -⟩ := operated.orderly.sound.exists_of_named alone
  obtain ⟨_, intact⟩ := kept.intact
  exact intact.consistent.placed id remote stored

/-- A dashboard that was created with a chart can be updated, and it can be deleted. -/
theorem Operated.usable_iff_loadBoard :
    let created := (((CommandLine.Command.create {}).plan (.dashboard loadBoard)).run server
      (fun _ => false) {}).state
    (created.named .dashboard loadBoard.name).length = 1 ∧
      ((loadBoard.update {}).run server (fun _ => false) created).result.isOk ∧
      (loadBoard.delete.run server (fun _ => false) created).result.isOk := by
  intro created
  have operated : created.Operated := Operated.empty.command _ (.create {}) (.dashboard loadBoard)
  have kept : created.Kept := .command .empty _ _ _ (by decide) (by decide +kernel)
  have one : (created.named .dashboard loadBoard.name).length = 1 := by decide +kernel
  obtain ⟨remote, alone⟩ := List.length_eq_one_iff.mp one
  have usable := operated.usable_iff (by decide +kernel) alone fun _ => false
  have whole := usable.2.2 kept
  exact ⟨one, usable.1.mpr whole, usable.2.1.mpr whole⟩

/-- Once its chart has been deleted by itself, the dashboard can be neither updated nor deleted. -/
theorem not_usable_loadBoard :
    let created := ((CommandLine.Command.create {}).plan (.dashboard loadBoard)).run server
      (fun _ => false) {}
    let deleted := (CommandLine.Command.delete.plan
      (.chart { name := "load", options := .text "x" })).run server (fun _ => false) created.state
    created.result.isOk ∧ deleted.result.isOk ∧ loadBoard.check = .ok () ∧
      (deleted.state.named .dashboard loadBoard.name).length = 1 ∧
      ¬ ((loadBoard.update {}).run server (fun _ => false) deleted.state).result.isOk ∧
      ¬ (loadBoard.delete.run server (fun _ => false) deleted.state).result.isOk := by
  decide +kernel

end Store

end SignalBoard
