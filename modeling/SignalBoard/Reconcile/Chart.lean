/-
# Operations on charts

A chart with an identifier of its own stands for the stored chart of that identifier; any other
chart is found by its name. An update lays the local definition over the stored document, so
fields the definition does not know survive.
-/

import SignalBoard.Chart.Document
import SignalBoard.Reconcile.Lookup

namespace SignalBoard.Chart

/-- Creates a chart whose definition is known to be sound. -/
def createPayload (payload : Json) : Plan Json := Plan.post Kind.chart.endpoint [] payload

/-- Creates a chart unless its name is taken. -/
def create (chart : Chart) (options : CreateOptions) : Plan Json := do
  let payload ← Plan.checked chart.payload
  guardCreate .chart chart.name options
  createPayload payload

/-- The stored chart that a chart stands for, if there is one. -/
def find (chart : Chart) : Plan (Option Json) :=
  match chart.id with
  | some id => do return some (← Plan.get (Kind.chart.path id))
  | none => findUnique .chart chart.name

/-- Brings the stored chart in line with the local one, or creates it. -/
def update (chart : Chart) (overrides : Overrides) : Plan Json := do
  let payload ← Plan.checked chart.payload
  match ← chart.find with
  | none =>
      let payload ← overrides.apply payload
      createPayload payload
  | some remote =>
      let id ← requireId remote
      let document ← overrides.apply (remote.overlay payload)
      Plan.put (Kind.chart.path id) document

/-- The stored chart. -/
def read (chart : Chart) : Plan Json :=
  match chart.id with
  | some id => Plan.get (Kind.chart.path id)
  | none => requireUnique .chart chart.name

/-- Deletes the stored chart of an identifier. -/
def deleteById (id : String) : Plan Unit := Plan.delete (Kind.chart.path id)

/-- Deletes the stored chart. -/
def delete (chart : Chart) : Plan Unit := do
  match chart.id with
  | some id => deleteById id
  | none =>
      let remote ← requireUnique .chart chart.name
      deleteById (← requireId remote)

/-- Brings the stored chart of an identifier in line with a local one. -/
def updateById (id : String) (chart : Chart) : Plan Json := do
  let payload ← Plan.checked chart.payload
  let remote ← Plan.get (Kind.chart.path id)
  Plan.put (Kind.chart.path id) (remote.overlay payload)

/-- Creates a chart, whether or not its name is taken. -/
def createUnguarded (chart : Chart) : Plan Json := do
  let payload ← Plan.checked chart.payload
  createPayload payload

end SignalBoard.Chart
