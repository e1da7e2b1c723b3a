/-
# What an update of a dashboard may send

Whatever is answered, an update keeps to an order: it searches, then it creates a dashboard or
reconciles the one that was found, and in a reconciliation all charts are read, revised and created
before the first is deleted. The order is told as a guard, which says for the exchanges so far what
may be sent next. What a trace looks like is then read off the guard, for the API need not be
consistent, nor answer twice alike.
-/

import SignalBoard.Proofs.Plan.Trace
import SignalBoard.Proofs.Reconcile.Converge

namespace SignalBoard.Dashboard

variable {dashboard : Dashboard}

/-- A chart was read, revised, or created with an identifier. -/
inductive ChartExchange : Request × Json → Prop
  | read (id : String) (chart : Json) : ChartExchange (.get (Kind.chart.path id), chart)
  | revise (id : String) (body reply : Json) :
      ChartExchange (.put (Kind.chart.path id) body, reply)
  | create (body reply : Json) (identified : reply.id?.isSome) :
      ChartExchange (.post Kind.chart.endpoint [] body, reply)

/-- So far charts were only read, revised and created. -/
def Calm (history : History) : Prop := ∀ exchange ∈ history, ChartExchange exchange

/-- So far charts were read, revised, created and deleted. -/
def Clearing (history : History) : Prop :=
  ∀ exchange ∈ history, ChartExchange exchange ∨
    ∃ id reply, exchange = (.delete (Kind.chart.path id), reply)

/-- A chart on the layout of the dashboard was read, and has no local name. -/
def Discarded (dashboard : Dashboard) (remote : Json) (history : History) (path : String) : Prop :=
  ∃ id ∈ Layout.chartIds remote, path = Kind.chart.path id ∧
    ∃ chart, (.get path, chart) ∈ history ∧
      ∀ other ∈ dashboard.charts, chart.name? ≠ some other.name

/-- What may be sent while a dashboard is created. -/
def AdmitsCreation : History → Request → Prop
  | [], request => ∃ query body, request = .post "/dashboard/simple" query body
  | [_], request => ∃ id body, request = .put (Kind.dashboard.path id) body
  | _, _ => False

/-- What may be sent while a stored dashboard is reconciled. -/
def AdmitsReconciliation (dashboard : Dashboard) (remote : Json) (history : History) :
    Request → Prop
  | .search _ _ => False
  | .get path => Calm history ∧ ∃ id, path = Kind.chart.path id
  | .post path _ _ => Calm history ∧ path = Kind.chart.endpoint
  | .put path _ => (Calm history ∧ ∃ id, path = Kind.chart.path id) ∨
      (Clearing history ∧ ∃ id, remote.id? = some id ∧ path = Kind.dashboard.path id)
  | .delete path => Clearing history ∧ dashboard.Discarded remote history path

/-- What may be sent when dashboards of exactly the local name were found. -/
def AdmitsAfter (dashboard : Dashboard) : List Json → History → Request → Prop
  | [], history, request => AdmitsCreation history request
  | [remote], history, request => dashboard.AdmitsReconciliation remote history request
  | _, _, _ => False

/-- What an update may send: a search, and then what its result calls for. -/
def Admits (dashboard : Dashboard) : History → Request → Prop
  | [], request => request = .search .dashboard dashboard.name
  | (_, reply) :: rest, request =>
      dashboard.AdmitsAfter (matching dashboard.name reply.items) rest request

theorem Calm.clearing {history : History} (calm : Calm history) : Clearing history :=
  fun exchange member => .inl (calm exchange member)

theorem Calm.append {history : History} (calm : Calm history) {exchange : Request × Json}
    (chart : ChartExchange exchange) : Calm (history ++ [exchange]) := by
  intro other member
  cases List.mem_append.mp member with
  | inl earlier => exact calm other earlier
  | inr last => exact List.mem_singleton.mp last ▸ chart

theorem Clearing.append {history : History} (clearing : Clearing history) (id : String)
    (reply : Json) : Clearing (history ++ [(.delete (Kind.chart.path id), reply)]) := by
  intro other member
  cases List.mem_append.mp member with
  | inl earlier => exact clearing other earlier
  | inr last => exact .inr ⟨id, reply, List.mem_singleton.mp last⟩

/-- The dashboard was not written while charts are cleared away. -/
theorem Clearing.not_written {history : History} (clearing : Clearing history) (id : String)
    (body reply : Json) : (.put (Kind.dashboard.path id) body, reply) ∉ history := by
  intro written
  cases clearing _ written with
  | inl chart =>
      generalize isPath : Kind.dashboard.path id = path at chart
      cases chart with
      | revise other => exact Kind.path_ne (by decide) _ _ isPath
  | inr deleted =>
      obtain ⟨_, _, same⟩ := deleted
      cases same

/-- After the search, a call belongs to a creation or to a reconciliation. -/
theorem AdmitsAfter.cases {found : List Json} {history : History}
    {request : Request} (admitted : dashboard.AdmitsAfter found history request) :
    (found = [] ∧ AdmitsCreation history request) ∨
      ∃ remote, found = [remote] ∧ dashboard.AdmitsReconciliation remote history request := by
  match found with
  | [] => exact .inl ⟨rfl, admitted⟩
  | [remote] => exact .inr ⟨remote, rfl, admitted⟩
  | _ :: _ :: _ => exact admitted.elim

/-- A creation is one POST, after which at most the dashboard is written. -/
theorem AdmitsCreation.cases {history : History} {request : Request}
    (admitted : AdmitsCreation history request) :
    (history = [] ∧ ∃ query body, request = .post "/dashboard/simple" query body) ∨
      ∃ id body, request = .put (Kind.dashboard.path id) body := by
  match history with
  | [] => exact .inl ⟨rfl, admitted⟩
  | [_] => exact .inr admitted
  | _ :: _ :: _ => exact admitted.elim

/-- The exchanges of an update after its search, and the reply that it ends with. -/
inductive Completed : History → Json → Prop
  | created (query : List (String × String)) (body reply : Json) :
      Completed [(.post "/dashboard/simple" query body, reply)] reply
  | settled (query : List (String × String)) (body created : Json) (id : String)
      (document reply : Json) : Completed [(.post "/dashboard/simple" query body, created),
        (.put (Kind.dashboard.path id) document, reply)] reply
  | reconciled {history : History} (clearing : Clearing history) (id : String)
      (document reply : Json) :
      Completed (history ++ [(.put (Kind.dashboard.path id) document, reply)]) reply

/-- Creating a dashboard keeps to the guard. -/
theorem guarded_createUnguarded (dashboard : Dashboard) (overrides : Overrides) :
    (dashboard.createUnguarded overrides).Guarded AdmitsCreation
      (fun reply after => Completed after reply) [] := by
  unfold createUnguarded
  apply Plan.guarded_checked
  intro charts _
  refine ⟨⟨_, _, rfl⟩, fun created => ?_⟩
  show Plan.Guarded _ _ (if _ then _ else _) _
  split
  case isTrue => exact Completed.created ..
  case isFalse =>
    apply Plan.guarded_requireId
    intro id _
    apply Plan.guarded_apply
    intro document
    exact ⟨⟨id, document, rfl⟩, fun _ => Completed.settled ..⟩

/-- What is known of the placed charts that were read so far. -/
def Read (remote : Json) (placed : List PlacedChart) (history : History) : Prop :=
  ∀ chart ∈ placed, chart.id ∈ Layout.chartIds remote ∧
    ∃ document, (.get (Kind.chart.path chart.id), document) ∈ history ∧
      document.name?.getD "" = chart.name

theorem Read.append {remote : Json} {placed : List PlacedChart} {history : History}
    (read : Read remote placed history) (exchange : Request × Json) :
    Read remote placed (history ++ [exchange]) := by
  intro chart member
  obtain ⟨onLayout, document, earlier, named⟩ := read chart member
  exact ⟨onLayout, document, List.mem_append_left _ earlier, named⟩

/-- A chart that was read and has no local name may be deleted. -/
theorem Read.discarded {remote : Json} {placed : List PlacedChart} {history : History}
    (read : Read remote placed history) {chart : PlacedChart}
    (isStale : chart ∈ dashboard.stale placed) :
    dashboard.Discarded remote history (Kind.chart.path chart.id) := by
  obtain ⟨member, unnamed⟩ := List.mem_filter.mp isStale
  obtain ⟨onLayout, document, earlier, named⟩ := read chart member
  refine ⟨chart.id, onLayout, rfl, document, earlier, fun other isLocal same => ?_⟩
  have found : (dashboard.chartNamed? chart.name).isSome := by
    rw [chartNamed?_isSome_iff, ← named, same, Option.getD_some]
    exact List.mem_map_of_mem isLocal
  simp [Option.isNone_iff_eq_none.mp unnamed] at found

variable {remote : Json} {history : History}

/-- Reading the charts of a layout keeps to the guard. -/
theorem guarded_readPlaced (calm : Calm history) :
    ((Layout.entries remote).mapM readPlaced).Guarded (dashboard.AdmitsReconciliation remote)
      (fun placed after => Calm after ∧ Read remote placed after) history := by
  apply Plan.guarded_mapM (fun _ placed after => Calm after ∧ Read remote placed after) [] []
  · rintro entry member _ found history ⟨calm, read⟩
    obtain ⟨id, names⟩ := Option.isSome_iff_exists.mp (List.mem_filter.mp member).2
    have onLayout : id ∈ Layout.chartIds remote :=
      List.mem_filterMap.mpr ⟨entry, (List.mem_filter.mp member).1, names⟩
    rw [readPlaced, names]
    refine ⟨⟨calm, id, rfl⟩, fun chart => ⟨calm.append (.read id chart), ?_⟩⟩
    intro other among
    cases List.mem_append.mp among with
    | inl earlier => exact read.append _ other earlier
    | inr last =>
        obtain rfl := List.mem_singleton.mp last
        exact ⟨onLayout, chart, by simp, rfl⟩
  · exact ⟨calm, by simp [Read]⟩

/-- Updating a placed chart keeps to the guard. -/
theorem guarded_updatePlaced {placed : List PlacedChart} (calm : Calm history)
    (read : Read remote placed history) (chart : PlacedChart) :
    (dashboard.updatePlaced chart).Guarded (dashboard.AdmitsReconciliation remote)
      (fun _ after => Calm after ∧ Read remote placed after) history := by
  unfold updatePlaced
  split
  case h_1 other _ =>
    rw [Chart.updateById, bind_assoc]
    apply Plan.guarded_checked
    intro payload _
    refine ⟨⟨calm, chart.id, rfl⟩, fun old => ?_⟩
    have calm := calm.append (.read chart.id old)
    refine ⟨.inl ⟨calm, chart.id, rfl⟩, fun reply => ?_⟩
    exact ⟨calm.append (.revise ..), (read.append _).append _⟩
  case h_2 => exact ⟨calm, read⟩

/-- Creating charts keeps to the guard. -/
theorem guarded_addCharts {placed : List PlacedChart} (calm : Calm history)
    (read : Read remote placed history) (charts : List Chart) (row : UInt64) :
    (addCharts charts row).Guarded (dashboard.AdmitsReconciliation remote)
      (fun _ after => Calm after ∧ Read remote placed after) history := by
  induction charts generalizing row history with
  | nil => exact ⟨calm, read⟩
  | cons chart rest ih =>
      rw [addCharts, Chart.createUnguarded, bind_assoc]
      apply Plan.guarded_checked
      intro payload _
      refine ⟨⟨calm, rfl⟩, fun created => ?_⟩
      apply Plan.guarded_requireId
      intro id identified
      have calm := calm.append (.create payload created (by simp [identified]))
      apply Plan.guarded_bind (ih calm (read.append _) _)
      exact fun entries after holds => holds

/-- Deleting stale charts keeps to the guard. -/
theorem guarded_deleteCharts {placed : List PlacedChart} (clearing : Clearing history)
    (read : Read remote placed history) :
    ((dashboard.stale placed).forM fun chart => Chart.deleteById chart.id).Guarded
      (dashboard.AdmitsReconciliation remote) (fun _ after => Clearing after) history := by
  have keeps : ((dashboard.stale placed).forM fun chart => Chart.deleteById chart.id).Guarded
      (dashboard.AdmitsReconciliation remote)
      (fun _ after => Clearing after ∧ Read remote placed after) history := by
    apply Plan.guarded_forM (fun _ after => Clearing after ∧ Read remote placed after) [] ?_
      ⟨clearing, read⟩
    rintro chart isStale _ history ⟨clearing, read⟩
    refine ⟨⟨clearing, read.discarded isStale⟩, fun reply => ?_⟩
    exact ⟨clearing.append chart.id reply, read.append _⟩
  exact keeps.mono fun _ _ holds => holds.1

/-- Reconciling the charts of a dashboard keeps to the guard. -/
theorem guarded_reconcileCharts (calm : Calm history) :
    (dashboard.reconcileCharts (Layout.entries remote)).Guarded
      (dashboard.AdmitsReconciliation remote) (fun _ after => Clearing after) history := by
  unfold reconcileCharts
  apply Plan.guarded_bind (guarded_readPlaced calm)
  rintro placed history ⟨calm, read⟩
  have updates : (placed.forM dashboard.updatePlaced).Guarded
      (dashboard.AdmitsReconciliation remote)
      (fun _ after => Calm after ∧ Read remote placed after) history :=
    Plan.guarded_forM (fun _ after => Calm after ∧ Read remote placed after) []
      (fun chart _ _ _ holds => guarded_updatePlaced holds.1 holds.2 chart) ⟨calm, read⟩
  apply Plan.guarded_bind updates
  rintro _ history ⟨calm, read⟩
  apply Plan.guarded_bind (guarded_addCharts calm read _ _)
  rintro added history ⟨calm, read⟩
  apply Plan.guarded_bind (guarded_deleteCharts calm.clearing read)
  exact fun _ _ clearing => clearing

/-- An update keeps to the guard, whatever is answered. -/
theorem guarded_update (dashboard : Dashboard) (overrides : Overrides) :
    (dashboard.update overrides).Guarded dashboard.Admits (fun reply after =>
      ∃ searched own, after = (.search .dashboard dashboard.name, searched) :: own ∧
        Completed own reply) [] := by
  unfold update
  apply Plan.guarded_checked
  intro _ _
  apply Plan.guarded_bind (Plan.guarded_findUnique rfl)
  rintro found _ ⟨reply, rfl, matched⟩
  have goesOn : ∀ {plan : Plan Json} {guard : History → Request → Prop},
      (dashboard.AdmitsAfter found.toList = guard) →
      plan.Guarded guard (fun value own => Completed own value) [] →
      plan.Guarded dashboard.Admits (fun value after => ∃ searched own,
        after = (.search .dashboard dashboard.name, searched) :: own ∧ Completed own value)
        ([(.search .dashboard dashboard.name, reply)] ++ []) := by
    intro plan guard same guarded
    apply Plan.Guarded.after
    subst same
    apply (guarded.mono fun value own completed => ⟨reply, own, rfl, completed⟩).weaken
    intro history request admitted
    show dashboard.AdmitsAfter (matching dashboard.name reply.items) history request
    rwa [matched]
  cases found with
  | none => exact goesOn rfl (guarded_createUnguarded dashboard overrides)
  | some remote =>
      apply goesOn rfl
      apply Plan.guarded_requireId
      intro id identified
      apply Plan.guarded_bind (guarded_reconcileCharts (by simp [Calm]))
      intro charts history clearing
      apply Plan.guarded_assign
      intro document
      apply Plan.guarded_apply
      intro document
      exact ⟨.inr ⟨clearing, id, identified, rfl⟩, fun _ => .reconciled clearing ..⟩

end SignalBoard.Dashboard
