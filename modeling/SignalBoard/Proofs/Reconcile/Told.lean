/-
# Reconciliations as their exchanges tell them

What a reconciliation comes to depends on what it was answered, and on nothing else. Its loops take
their turns in the exchanges: charts on a layout are read one after the other, those that are
missing are created in their order and get the identifiers of the replies; the dashboards of a group
are updated one after the other, and each stays where the reply says it is or is cloned from there.
So the layout and the list of dashboards that a reconciliation gives can be read off its exchanges,
whatever the API answers.
-/

import SignalBoard.Proofs.Group.Conduct
import SignalBoard.Proofs.Integrity.Orderly

namespace SignalBoard

open Plan (Turns)

/-! ## The charts of a dashboard -/

/-- The request reads or replaces a chart. -/
inductive Request.Revises : Request → Prop
  | read (path : String) : Revises (.get path)
  | write (id : String) (body : Json) : Revises (.put (Kind.chart.path id) body)

namespace Dashboard

/-- The chart of an entry was read, and has the name that the reply gives. -/
def ReadTurn (entry : Json) (placed : PlacedChart) (before after : History) : Prop :=
  ∃ id chart, Layout.chartId? entry = some id ∧ placed = ⟨id, chart.name?.getD ""⟩ ∧
    after = before ++ [(.get (Kind.chart.path id), chart)]

/-- A chart was created, and has the identifier that the reply gives. -/
def CreateTurn (chart : Chart) (id : String) (before after : History) : Prop :=
  ∃ reply : Json, reply.id? = some id ∧
    after = before ++ [(.post Kind.chart.endpoint [] chart.document, reply)]

/-- The layout without the charts that are stale, and below the others those that were created. -/
def renewed (dashboard : Dashboard) (placed : List PlacedChart) (ids : List String)
    (layout : List Json) : List Json :=
  let kept := Layout.without ((dashboard.stale placed).map (·.id)) layout
  kept ++ Layout.stacked ids (Layout.bottom kept)

/-- The charts of a layout were reconciled with the local ones, and this is the new layout. -/
inductive ChartsTold (dashboard : Dashboard) (layout : List Json) (before : History) :
    List Json → History → Prop
  /-- The charts were read, those with a local name revised, those that were missing created and
  those that were stale deleted. -/
  | told {placed : List PlacedChart} {ids : List String} {read revised created after : History}
      (reads : Turns ReadTurn layout placed before read)
      (revises : read.Grown Request.Revises revised)
      (creates : Turns CreateTurn (dashboard.missing placed) ids revised created)
      (deletes : created.Grown (fun request => ∃ chart ∈ dashboard.stale placed,
        request = .delete (Kind.chart.path chart.id)) after) :
      dashboard.ChartsTold layout before (dashboard.renewed placed ids layout) after

variable {dashboard : Dashboard} {history : History}

/-- Reading the charts of a layout takes its turns. -/
theorem guarded_readPlaced_turns {layout : List Json}
    (named : ∀ entry ∈ layout, (Layout.chartId? entry).isSome) :
    (layout.mapM readPlaced).Guarded (fun _ _ => True)
      (fun placed after => Turns ReadTurn layout placed history after) history := by
  apply Plan.guarded_mapM_turns
  intro entry member history
  obtain ⟨id, names⟩ := Option.isSome_iff_exists.mp (named entry member)
  rw [readPlaced, names]
  exact ⟨trivial, fun chart => ⟨id, chart, names, rfl, rfl⟩⟩

/-- Creating charts takes its turns, and the entries have the identifiers that were given. -/
theorem guarded_addCharts_turns (charts : List Chart) (row : UInt64) (history : History) :
    (addCharts charts row).Guarded (fun _ _ => True)
      (fun entries after => ∃ ids, entries = Layout.stacked ids row ∧
        Turns CreateTurn charts ids history after) history := by
  induction charts generalizing row history with
  | nil => exact ⟨[], rfl, .nil⟩
  | cons chart rest ih =>
      rw [addCharts, Chart.createUnguarded, bind_assoc]
      apply Plan.guarded_checked
      intro payload passed
      obtain rfl := Chart.document_of_payload passed
      refine ⟨trivial, fun created => ?_⟩
      apply Plan.guarded_requireId
      intro id identified
      apply Plan.guarded_bind (ih _ _)
      rintro _ after ⟨ids, rfl, tail⟩
      exact Plan.guarded_pure ⟨id :: ids, rfl, .cons ⟨created, identified, rfl⟩ tail⟩

/-- The exchanges of a reconciliation of charts tell the new layout. -/
theorem guarded_reconcileCharts_told (dashboard : Dashboard) {layout : List Json}
    (named : ∀ entry ∈ layout, (Layout.chartId? entry).isSome) (history : History) :
    (dashboard.reconcileCharts layout).Guarded (fun _ _ => True)
      (fun charts after => dashboard.ChartsTold layout history charts after) history := by
  unfold reconcileCharts
  apply Plan.guarded_bind (guarded_readPlaced_turns named)
  intro placed read reads
  have updates : Plan.Sends Request.Revises (placed.forM dashboard.updatePlaced) :=
    Plan.sends_forM fun chart _ => sends_updatePlaced .read .write chart
  apply Plan.guarded_bind (updates.grown read)
  intro _ revised revises
  apply Plan.guarded_bind (guarded_addCharts_turns _ _ revised)
  rintro _ created ⟨ids, rfl, creates⟩
  have removes : Plan.Sends (fun request => ∃ chart ∈ dashboard.stale placed,
      request = .delete (Kind.chart.path chart.id))
      ((dashboard.stale placed).forM fun chart => Chart.deleteById chart.id) :=
    Plan.sends_forM fun chart isStale =>
      Plan.sends_call ⟨chart, isStale, rfl⟩ fun _ => Plan.sends_pure ()
  apply Plan.guarded_bind (removes.grown created)
  exact fun _ after deletes => Plan.guarded_pure (.told reads revises creates deletes)

end Dashboard

/-! ## The dashboards of a group -/

namespace DashboardGroup

/-- A dashboard was updated, and is where the reply that the update ended with says. -/
def PlaceTurn (dashboard : Dashboard) (placement : Placement) (before after : History) : Prop :=
  ∃ searched own reply, Dashboard.Completed own reply ∧
    reply.id? = some placement.dashboardId ∧
    (reply.field "groupId").string?.getD "" = placement.groupId ∧
    after = before ++ (.search .dashboard dashboard.name, searched) :: own

/-- A dashboard of the target group is kept. Any other was cloned into the target, and the clone has
the identifier that the reply gives. -/
def SettleTurn (target : String) (placement : Placement) (id : String) (before after : History) :
    Prop :=
  if placement.groupId = target then id = placement.dashboardId ∧ after = before
  else ∃ reply : Json, reply.id? = some id ∧
    after = before ++ [(.clone target placement.dashboardId, reply)]

/-- The dashboards of a stored group were reconciled with the local ones, and these are their
identifiers. -/
inductive DashboardsTold (group : DashboardGroup) (target : String) (before : History) :
    List String → History → Prop
  /-- All were updated, and then kept or cloned; after that nothing but reading and deleting was
  done. -/
  | told {placements : List Placement} {ids : List String} {placed settled after : History}
      (places : Turns PlaceTurn group.dashboards placements before placed)
      (settles : Turns (SettleTurn target) placements ids placed settled)
      (removes : settled.Grown Request.Removes after) :
      group.DashboardsTold target before ids after

variable {group : DashboardGroup} {history : History}

/-- Placing a dashboard is a turn. -/
theorem guarded_placeDashboard_turn (dashboard : Dashboard) (history : History) :
    (placeDashboard dashboard).Guarded (fun _ _ => True)
      (fun placement after => PlaceTurn dashboard placement history after) history := by
  have updates : (dashboard.update {}).Guarded (fun _ _ => True)
      (fun reply after => ∃ searched own, Dashboard.Completed own reply ∧
        after = history ++ (.search .dashboard dashboard.name, searched) :: own)
      (history ++ []) := by
    apply Plan.Guarded.after
    apply ((dashboard.guarded_update {}).mono _).weaken
    · exact fun _ _ _ => trivial
    · rintro reply _ ⟨searched, own, rfl, completed⟩
      exact ⟨searched, own, completed, rfl⟩
  rw [List.append_nil] at updates
  apply Plan.guarded_bind updates
  rintro reply after ⟨searched, own, completed, same⟩
  apply Plan.guarded_requireId
  intro id identified
  exact Plan.guarded_pure ⟨searched, own, reply, completed, identified, rfl, same⟩

/-- Bringing a dashboard into the target is a turn. -/
theorem guarded_settle_turn (target : String) (placement : Placement) (history : History) :
    (settle target placement).Guarded (fun _ _ => True)
      (fun id after => SettleTurn target placement id history after) history := by
  unfold settle SettleTurn
  split
  case isTrue => exact Plan.guarded_pure ⟨rfl, rfl⟩
  case isFalse =>
    refine ⟨trivial, fun reply => ?_⟩
    show (requireId reply).Guarded _ _ _
    rw [← bind_pure (requireId reply)]
    apply Plan.guarded_requireId
    exact fun id identified => Plan.guarded_pure ⟨reply, identified, rfl⟩

/-- The exchanges of a reconciliation of dashboards tell the identifiers. -/
theorem guarded_reconcileDashboards_told (group : DashboardGroup) (target : String)
    (history : History) :
    (group.reconcileDashboards target).Guarded (fun _ _ => True)
      (fun ids after => group.DashboardsTold target history ids after) history := by
  unfold reconcileDashboards
  apply Plan.guarded_bind
    (Plan.guarded_mapM_turns fun dashboard _ => guarded_placeDashboard_turn dashboard)
  intro placements placed places
  apply Plan.guarded_bind
    (Plan.guarded_mapM_turns fun placement _ => guarded_settle_turn target placement)
  intro ids settled settles
  have removes : Plan.Sends Request.Removes (do
      removeSources target placements
      let current ← Plan.get (Kind.group.path target)
      ((members current).filter fun member => !ids.contains member).forM Dashboard.deleteById) := by
    apply Plan.sends_bind (sends_removeSources .read .delete target placements)
    intro _
    apply Plan.sends_bind (Plan.sends_call (.read _) Plan.sends_pure)
    exact fun current => Plan.sends_forM fun id _ => Dashboard.sends_deleteById .read .delete id
  have ends (after : History) (removed : settled.Grown Request.Removes after) :
      (pure ids : Plan (List String)).Guarded (fun _ _ => True)
        (fun ids after => group.DashboardsTold target history ids after) after :=
    Plan.guarded_pure (.told places settles removed)
  simpa only [bind_assoc] using Plan.guarded_bind (removes.grown settled) fun _ => ends

end DashboardGroup

end SignalBoard
