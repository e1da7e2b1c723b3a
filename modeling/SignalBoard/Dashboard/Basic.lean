/-
# Dashboards and groups of dashboards

A dashboard is a named list of charts with settings of its own; a group is a named list of
dashboards. The service creates a dashboard from its charts alone and takes the settings
separately, so the two have separate documents.
-/

import SignalBoard.Chart.Document
import SignalBoard.Dashboard.Filter
import SignalBoard.Dashboard.Overlay

namespace SignalBoard

/-- A named list of charts. -/
structure Dashboard where
  name : String := ""
  description : Option String := none
  charts : List Chart := []
  filters : Option DashboardFilters := none
  overlays : List EventOverlay := []
  /-- The signals shown from the start. -/
  selected : List EventSignal := []
deriving BEq

namespace Dashboard

/-- Checks the name, then the charts in order. -/
def check (dashboard : Dashboard) : Checked Unit := do
  requireFilled dashboard.name "dashboard name"
  dashboard.charts.forM Chart.check

/-- The documents of the charts, each checked. -/
def chartsPayload (dashboard : Dashboard) : Checked (List Json) :=
  dashboard.charts.mapM Chart.payload

/-- The settings of the dashboard beyond its name and charts. -/
def settings (dashboard : Dashboard) : List (String × Option Json) :=
  [("description", Json.ofString? dashboard.description),
    ("filters", dashboard.filters.map DashboardFilters.document),
    ("eventOverlays", Json.ofItems? EventOverlay.document dashboard.overlays),
    ("selectedEventOverlays", Json.ofItems? EventSignal.selectedDocument dashboard.selected)]

/-- The document of the settings, if there are any. -/
def settingsPayload? (dashboard : Dashboard) : Option Json :=
  if dashboard.settings.all (·.2.isNone) then none else some (.record dashboard.settings)

end Dashboard

/-- A named list of dashboards. -/
structure DashboardGroup where
  name : String := ""
  description : Option String := none
  dashboards : List Dashboard := []
  /-- The teams that may see the group. -/
  teams : List String := []
deriving BEq

namespace DashboardGroup

/-- Checks the name, the teams and then the dashboards in order. -/
def check (group : DashboardGroup) : Checked Unit := do
  requireFilled group.name "dashboard group name"
  group.teams.forM fun team => requireFilled team "team id"
  group.dashboards.forM Dashboard.check

/-- The document of a group that passes its check. Its dashboards are no part of it. -/
def payload (group : DashboardGroup) : Checked Json := do
  group.check
  return .record [("name", some (.str group.name)),
    ("description", Json.ofString? group.description),
    ("teams", Json.ofItems? Json.str group.teams)]

end DashboardGroup

end SignalBoard
