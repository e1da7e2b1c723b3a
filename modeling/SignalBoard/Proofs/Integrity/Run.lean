/-
# What successful commands keep

Every command that succeeds leaves the references between dashboards, charts and groups whole,
except that deleting a chart by itself may tear it from a layout. As long as charts are not touched
by themselves, the charts that are on no layout are exactly those that were on the dashboards of
deleted groups: the deletion of a group is the one operation that loses sight of charts. Nothing is
assumed of names, options, answers or overrides.
-/

import SignalBoard.Proofs.Integrity.Group
import SignalBoard.Proofs.Integrity.Single
import SignalBoard.Proofs.Reconcile.Names

namespace SignalBoard

open Store (Intact)

variable {answer : Question → Bool} {store : Store} {loose : String → Prop}

namespace CommandLine.Command

variable {command : Command} {resource : Resource}

/-- A command for a dashboard or a group keeps a store intact, unless it deletes a group. -/
theorem yields_intact (shared : resource.kind ∈ [Kind.dashboard, .group])
    (keeps : command = .delete → resource.kind ≠ .group) (intact : Intact loose store) :
    Plan.Yields Store.server answer (command.plan resource) store
      fun _ after => Intact loose after := by
  have reads : ∀ kind name, Plan.Yields Store.server answer (requireUnique kind name) store
      fun _ after => Intact loose after := fun kind name =>
    (intact.sound.yields_requireUnique kind name).mono fun _ _ found => found.1 ▸ intact
  cases resource with
  | chart chart => exact absurd shared (by simp [Resource.kind])
  | detector detector => exact absurd shared (by simp [Resource.kind])
  | dashboard dashboard =>
      cases command with
      | create options => exact dashboard.yields_create_intact intact options
      | update overrides =>
          exact (dashboard.yields_update_lodged intact overrides).mono
            fun _ _ lodged => lodged.intact
      | read => exact reads ..
      | delete =>
          exact Plan.yields_bind (dashboard.yields_delete_intact intact)
            fun _ _ intactAfter => Plan.yields_pure intactAfter
  | group group =>
      cases command with
      | create options => exact group.yields_create_intact intact options
      | update overrides => exact group.yields_update_intact intact overrides
      | read => exact reads ..
      | delete => exact absurd rfl (keeps rfl)

/-- Deleting a group keeps a store intact, in which the charts of its dashboards are loose. -/
theorem yields_delete_group (intact : Intact loose store) (group : DashboardGroup) :
    Plan.Yields Store.server answer (Command.delete.plan (.group group)) store
      fun _ after => ∃ remote, store.named .group group.name = [remote] ∧
        Intact (fun chartId => loose chartId ∨
          chartId ∈ (DashboardGroup.members remote).flatMap store.layoutOf) after :=
  Plan.yields_bind (group.yields_delete_intact intact) fun _ _ deleted => Plan.yields_pure deleted

end CommandLine.Command

namespace Store

/-- The stores that successful commands leave, one after the other, if none deletes a chart by
itself. -/
inductive Kept : Store → Prop
  | empty : Kept {}
  | command {store : Store} (kept : Kept store) (answer : Question → Bool)
      (command : CommandLine.Command) (resource : Resource)
      (spares : command = .delete → resource.kind ≠ .chart)
      (succeeded : ((command.plan resource).run server answer store).result.isOk) :
      Kept ((command.plan resource).run server answer store).state

/-- What successful commands leave is intact. -/
theorem Kept.intact (kept : store.Kept) : ∃ loose, Intact loose store := by
  induction kept with
  | empty => exact ⟨_, intact_empty⟩
  | @command store _ answer command resource spares succeeded ih =>
      by_cases plain : resource.kind ∈ Kind.plain
      case pos => exact command.leaves_intact_of_plain plain spares ih
      obtain ⟨loose, intact⟩ := ih
      have shared : resource.kind ∈ [Kind.dashboard, .group] := by
        cases resource <;> simp_all [Resource.kind, Kind.plain]
      by_cases keeps : command = .delete → resource.kind ≠ .group
      case pos =>
        obtain ⟨_, intactAfter⟩ := (command.yields_intact shared keeps intact).of_isOk succeeded
        exact ⟨loose, intactAfter⟩
      case neg =>
        obtain ⟨rfl, isGroup⟩ : command = .delete ∧ resource.kind = .group := by simpa using keeps
        cases resource with
        | group group =>
            obtain ⟨_, _, -, intactAfter⟩ :=
              (CommandLine.Command.yields_delete_group intact group).of_isOk succeeded
            exact ⟨_, intactAfter⟩
        | chart | dashboard | detector => cases isGroup

/-- All references between the resources of a store lead somewhere, and those between groups and
dashboards lead back. -/
structure Referential (store : Store) : Prop where
  /-- Every entry of a layout names a stored chart. -/
  placed : ∀ id dashboard, store.resource? .dashboard id = some dashboard →
    ∃ entries, dashboard.field "charts" = .arr entries ∧ ∀ entry ∈ entries, ∃ chartId,
      Layout.chartId? entry = some chartId ∧ (store.resource? .chart chartId).isSome
  /-- No two entries of a layout name one chart. -/
  once : ∀ id dashboard, store.resource? .dashboard id = some dashboard →
    (Layout.chartIds dashboard).Nodup
  /-- No two dashboards show one chart. -/
  apart : ∀ id id' dashboard dashboard', store.resource? .dashboard id = some dashboard →
    store.resource? .dashboard id' = some dashboard' → id ≠ id' →
    List.Disjoint (Layout.chartIds dashboard) (Layout.chartIds dashboard')
  /-- Every dashboard names a stored group. -/
  homed : ∀ id dashboard, store.resource? .dashboard id = some dashboard →
    ∃ groupId, dashboard.groupId? = some groupId ∧ (store.resource? .group groupId).isSome
  /-- Every group lists exactly the dashboards that name it. -/
  lists : ∀ groupId group, store.resource? .group groupId = some group →
    ∃ ids, group.Lists ids ∧ ∀ id, id ∈ ids ↔ ∃ dashboard,
      store.resource? .dashboard id = some dashboard ∧ dashboard.groupId? = some groupId

/-- Whichever commands succeed, all references are good, unless a chart is deleted by itself. -/
theorem Kept.referential (kept : store.Kept) : store.Referential := by
  obtain ⟨_, intact⟩ := kept.intact
  constructor
  case placed =>
    intro id dashboard stored
    obtain ⟨entries, isArray, proper⟩ := intact.laid id dashboard stored
    refine ⟨entries, isArray, fun entry member => ?_⟩
    obtain ⟨chartId, names⟩ := Option.isSome_iff_exists.mp (proper entry member)
    refine ⟨chartId, names, intact.consistent.placed id dashboard stored chartId ?_⟩
    rw [Layout.chartIds, isArray]
    exact List.mem_filterMap.mpr ⟨entry, member, names⟩
  case once => exact intact.consistent.once
  case apart => exact intact.consistent.apart
  case homed =>
    intro id dashboard stored
    obtain ⟨groupId, home, isSome⟩ := intact.homed id (by rw [stored]; rfl)
    exact ⟨groupId, (home?_eq stored).symm.trans home, isSome⟩
  case lists =>
    intro groupId group stored
    obtain ⟨ids, lists, mem_iff⟩ := intact.lists groupId group stored
    exact ⟨ids, lists, fun id => (mem_iff id).trans Option.bind_eq_some_iff⟩

/-- A group of one dashboard. -/
def teamOfOne : DashboardGroup where
  name := "team"
  dashboards := [loadBoard]

/-- A dashboard is created, and then moved with its chart into a group of its own. -/
theorem Kept.referential_teamOfOne :
    let create := (CommandLine.Command.create {}).plan (.dashboard loadBoard)
    let first := create.run server (fun _ => false) {}
    let gather := (CommandLine.Command.update { name := some "other" }).plan (.group teamOfOne)
    let second := gather.run server (fun _ => false) first.state
    second.state.documents.length = 3 ∧ second.state.Referential := by
  intro create first gather second
  have spares : ∀ (command : CommandLine.Command) (resource : Resource),
      resource.kind ≠ .chart → command = .delete → resource.kind ≠ .chart :=
    fun _ _ foreign _ => foreign
  have keptFirst : first.state.Kept :=
    .command .empty _ _ _ (spares _ _ (by decide)) (by decide +kernel)
  have kept : second.state.Kept :=
    .command keptFirst _ _ _ (spares _ _ (by decide)) (by decide +kernel)
  exact ⟨by decide +kernel, kept.referential⟩

end Store

/-- The charts that a command leaves on no layout: those on the dashboards of a group that is
deleted. -/
def CommandLine.Command.strands (command : CommandLine.Command) (resource : Resource)
    (store : Store) : List String :=
  match command, resource with
  | .delete, .group group => (store.named .group group.name).flatMap fun remote =>
      (DashboardGroup.members remote).flatMap store.layoutOf
  | _, _ => []

/-- A command for a dashboard or a group leaves the charts loose that it strands, and no others. -/
theorem CommandLine.Command.yields_strands {command : CommandLine.Command} {resource : Resource}
    (shared : resource.kind ∈ [Kind.dashboard, .group]) (intact : Intact loose store) :
    Plan.Yields Store.server answer (command.plan resource) store fun _ after =>
      Intact (fun chartId => loose chartId ∨ chartId ∈ command.strands resource store) after := by
  by_cases keeps : command = .delete → resource.kind ≠ .group
  case pos =>
    apply (command.yields_intact shared keeps intact).mono
    intro _ after intactAfter
    apply intactAfter.congr
    intro chartId
    have none : command.strands resource store = [] := by
      unfold strands
      split
      case h_1 => exact absurd rfl (keeps rfl)
      case h_2 => rfl
    simp [none]
  case neg =>
    obtain ⟨rfl, isGroup⟩ : command = .delete ∧ resource.kind = .group := by simpa using keeps
    cases resource with
    | group group =>
        apply (yields_delete_group intact group).mono
        rintro _ after ⟨remote, alone, intactAfter⟩
        apply intactAfter.congr
        intro chartId
        rw [strands, alone, List.flatMap_singleton]
    | chart | dashboard | detector => cases isGroup

namespace Store

/-- The stores that successful commands for dashboards and groups leave, one after the other, with
the charts that were stranded on the way. -/
inductive Tended : List String → Store → Prop
  | empty : Tended [] {}
  | command {stranded : List String} {store : Store} (tended : Tended stranded store)
      (answer : Question → Bool) (command : CommandLine.Command) (resource : Resource)
      (shared : resource.kind ∈ [Kind.dashboard, .group])
      (succeeded : ((command.plan resource).run server answer store).result.isOk) :
      Tended (stranded ++ command.strands resource store)
        ((command.plan resource).run server answer store).state

variable {stranded : List String}

theorem Tended.intact (tended : Tended stranded store) : Intact (· ∈ stranded) store := by
  induction tended with
  | empty => exact intact_empty.congr fun chartId => by simp
  | command _ answer command resource shared succeeded ih =>
      obtain ⟨_, intact⟩ := (command.yields_strands shared ih).of_isOk succeeded
      exact intact.congr fun chartId => List.mem_append

/-- A chart is on a layout when an entry of a stored dashboard names it. -/
theorem shown_iff_exists_entry {chartId : String} : store.Shown chartId ↔
    ∃ id dashboard, store.resource? .dashboard id = some dashboard ∧
      ∃ entry ∈ (dashboard.field "charts").items, Layout.chartId? entry = some chartId := by
  refine exists_congr fun id => ?_
  cases stored : store.resource? .dashboard id with
  | none => simp [layoutOf, stored]
  | some dashboard => simp [layoutOf_eq stored, Layout.chartIds]

/-- The charts that commands for dashboards and groups leave are on the layouts, but for those that
were on the dashboards of deleted groups: these are still stored and on no layout. -/
theorem Tended.stranded_iff (tended : Tended stranded store) (chartId : String) :
    chartId ∈ stranded ↔ (store.resource? .chart chartId).isSome ∧
      ¬ ∃ id dashboard, store.resource? .dashboard id = some dashboard ∧
        ∃ entry ∈ (dashboard.field "charts").items, Layout.chartId? entry = some chartId := by
  rw [← shown_iff_exists_entry]
  exact tended.intact.loose_iff chartId

/-- A group is created with its dashboard and deleted: the chart that was cloned into it is
stranded, and the one that it was cloned from is gone. -/
theorem Tended.stranded_iff_teamOfOne :
    let created := ((CommandLine.Command.create {}).plan (.group teamOfOne)).run server
      (fun _ => false) {}
    let deleted := (CommandLine.Command.delete.plan (.group teamOfOne)).run server
      (fun _ => false) created.state
    ∀ chartId, chartId ∈ ["id-6"] ↔ (deleted.state.resource? .chart chartId).isSome ∧
      ¬ ∃ id dashboard, deleted.state.resource? .dashboard id = some dashboard ∧
        ∃ entry ∈ (dashboard.field "charts").items, Layout.chartId? entry = some chartId := by
  intro created deleted chartId
  have tendedFirst : Tended [] created.state :=
    Tended.empty.command (fun _ => false) (.create {}) (.group teamOfOne) (by decide)
      (by decide +kernel)
  have tended := tendedFirst.command (fun _ => false) .delete (.group teamOfOne) (by decide)
    (by decide +kernel)
  have stranded : [] ++ CommandLine.Command.delete.strands (.group teamOfOne) created.state =
      ["id-6"] := by
    decide +kernel
  rw [stranded] at tended
  exact tended.stranded_iff chartId

/-- Deleting the group of a dashboard leaves the chart of the dashboard on no layout. -/
theorem not_shown_loadBoard :
    let created := ((CommandLine.Command.create {}).plan (.dashboard loadBoard)).run server
      (fun _ => false) {}
    let deleted := (CommandLine.Command.delete.plan (.group { name := "board" })).run server
      (fun _ => false) created.state
    created.result.isOk ∧ deleted.result.isOk ∧
      ∃ chartId, (deleted.state.resource? .chart chartId).isSome ∧
        ¬ ∃ id dashboard, deleted.state.resource? .dashboard id = some dashboard ∧
          ∃ entry ∈ (dashboard.field "charts").items, Layout.chartId? entry = some chartId := by
  intro created deleted
  refine ⟨by decide +kernel, by decide +kernel, "id-2", by decide +kernel, ?_⟩
  rintro ⟨id, dashboard, stored, -⟩
  have sound : deleted.state.Sound :=
    Plan.run_keeps sound_server _ (Plan.run_keeps sound_server _ sound_empty)
  have none : deleted.state.under Kind.dashboard.endpoint = [] := by decide +kernel
  have member := (mem_under_iff sound.ordered .dashboard dashboard).mpr ⟨id, stored⟩
  rw [none] at member
  cases member

end Store

end SignalBoard
