/-
# Operations on dashboards

An update makes the charts of a stored dashboard exactly the local ones, matched by name. It
first reads all stored charts, then updates those with a local name, then creates the missing
ones, and only then deletes the others, so nothing is lost if an earlier request fails. The
dashboard itself is written last.
-/

import SignalBoard.Dashboard.Basic
import SignalBoard.Reconcile.Chart
import SignalBoard.Reconcile.Layout

namespace SignalBoard

/-- A chart on the layout of a stored dashboard. -/
structure PlacedChart where
  id : String
  name : String
deriving DecidableEq

namespace Dashboard

/-- Lays the settings of the dashboard over a document, if there are any. -/
def withSettings (dashboard : Dashboard) (document : Json) : Json :=
  match dashboard.settingsPayload? with
  | some settings => document.overlay settings
  | none => document

/-- Creates a dashboard, whether or not its name is taken. The service creates it from its
charts alone; settings and an overriding description are written afterwards. -/
def createUnguarded (dashboard : Dashboard) (overrides : Overrides) : Plan Json := do
  let charts ← Plan.checked dashboard.chartsPayload
  let name := overrides.name.getD dashboard.name
  let created ← Plan.post (Kind.dashboard.endpoint ++ "/simple") [("name", name)] (.arr charts)
  if dashboard.settingsPayload?.isNone && overrides.description.isNone then return created
  else
    let id ← requireId created
    let document ← overrides.apply (dashboard.withSettings created)
    Plan.put (Kind.dashboard.path id) document

/-- Creates a dashboard unless its name is taken. -/
def create (dashboard : Dashboard) (options : CreateOptions) : Plan Json := do
  Plan.checked dashboard.check
  guardCreate .dashboard dashboard.name options
  dashboard.createUnguarded {}

/-- The first local chart of a name. -/
def chartNamed? (dashboard : Dashboard) (name : String) : Option Chart :=
  dashboard.charts.find? fun chart => chart.name = name

/-- Reads the chart that an entry places. A chart without a name counts as one with an empty
name. -/
def readPlaced (entry : Json) : Plan PlacedChart := do
  let id := (Layout.chartId? entry).getD ""
  let chart ← Plan.get (Kind.chart.path id)
  return ⟨id, chart.name?.getD ""⟩

/-- Updates a stored chart if there is a local one of its name. -/
def updatePlaced (dashboard : Dashboard) (placed : PlacedChart) : Plan Unit :=
  match dashboard.chartNamed? placed.name with
  | some chart => do
      let _ ← Chart.updateById placed.id chart
      return ()
  | none => return ()

/-- The stored charts without a local chart of their name. -/
def stale (dashboard : Dashboard) (placed : List PlacedChart) : List PlacedChart :=
  placed.filter fun chart => (dashboard.chartNamed? chart.name).isNone

/-- The local charts without a stored chart of their name. -/
def missing (dashboard : Dashboard) (placed : List PlacedChart) : List Chart :=
  dashboard.charts.filter fun chart => !placed.any fun other => other.name = chart.name

/-- Creates charts and gives their entries, one below the other from a row on. -/
def addCharts : List Chart → UInt64 → Plan (List Json)
  | [], _ => return []
  | chart :: rest, row => do
      let created ← chart.createUnguarded
      let id ← requireId created
      let entries ← addCharts rest (row + Layout.addedHeight)
      return Layout.added id row :: entries

/-- Makes the charts of a layout the local ones and gives the new layout. -/
def reconcileCharts (dashboard : Dashboard) (layout : List Json) : Plan (List Json) := do
  let placed ← layout.mapM readPlaced
  placed.forM dashboard.updatePlaced
  let stale := dashboard.stale placed
  let kept := Layout.without (stale.map (·.id)) layout
  let added ← addCharts (dashboard.missing placed) (Layout.bottom kept)
  stale.forM fun chart => Chart.deleteById chart.id
  return kept ++ added

/-- Brings the stored dashboard in line with the local one, or creates it. -/
def update (dashboard : Dashboard) (overrides : Overrides) : Plan Json := do
  Plan.checked dashboard.check
  match ← findUnique .dashboard dashboard.name with
  | none => dashboard.createUnguarded overrides
  | some remote =>
      let id ← requireId remote
      let charts ← dashboard.reconcileCharts (Layout.entries remote)
      let document ← Plan.assign "charts" (.arr charts) remote
      let document ← overrides.apply (dashboard.withSettings document)
      Plan.put (Kind.dashboard.path id) document

/-- The stored dashboard. -/
def read (dashboard : Dashboard) : Plan Json := requireUnique .dashboard dashboard.name

/-- Deletes the charts of a stored dashboard. The service would keep them, on no dashboard. -/
def deleteChartsOf (id : String) : Plan Unit := do
  let remote ← Plan.get (Kind.dashboard.path id)
  ((remote.field "charts").items.filterMap Layout.chartId?).forM Chart.deleteById

/-- Deletes a stored dashboard, its charts first. -/
def deleteById (id : String) : Plan Unit := do
  deleteChartsOf id
  Plan.delete (Kind.dashboard.path id)

/-- Deletes the stored dashboard with its charts. -/
def delete (dashboard : Dashboard) : Plan Unit := do
  let remote ← requireUnique .dashboard dashboard.name
  deleteById (← requireId remote)

end Dashboard

end SignalBoard
