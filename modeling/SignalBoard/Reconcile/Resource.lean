/-
# Resources

A resource is a chart, a dashboard, a group of dashboards or a detector. The four operations
are the same for all of them.
-/

import SignalBoard.Reconcile.Detector
import SignalBoard.Reconcile.Group

namespace SignalBoard

/-- A resource of any kind. -/
inductive Resource where
  | chart (chart : Chart)
  | dashboard (dashboard : Dashboard)
  | group (group : DashboardGroup)
  | detector (detector : Detector)
deriving BEq

namespace Resource

/-- The kind of a resource. -/
def kind : Resource → Kind
  | chart _ => .chart
  | dashboard _ => .dashboard
  | group _ => .group
  | detector _ => .detector

/-- The name of a resource. -/
def name : Resource → String
  | chart c => c.name
  | dashboard d => d.name
  | group g => g.name
  | detector t => t.name

/-- Checks a resource. -/
def check : Resource → Checked Unit
  | chart c => c.check
  | dashboard d => d.check
  | group g => g.check
  | detector t => t.check

/-- Creates a resource unless its name is taken. -/
def create (resource : Resource) (options : CreateOptions) : Plan Json :=
  match resource with
  | chart c => c.create options
  | dashboard d => d.create options
  | group g => g.create options
  | detector t => t.create options

/-- Brings the stored resource in line with the local one, or creates it. -/
def update (resource : Resource) (overrides : Overrides) : Plan Json :=
  match resource with
  | chart c => c.update overrides
  | dashboard d => d.update overrides
  | group g => g.update overrides
  | detector t => t.update overrides

/-- The stored resource. -/
def read : Resource → Plan Json
  | chart c => c.read
  | dashboard d => d.read
  | group g => g.read
  | detector t => t.read

/-- Deletes the stored resource. -/
def delete : Resource → Plan Unit
  | chart c => c.delete
  | dashboard d => d.delete
  | group g => g.delete
  | detector t => t.delete

end Resource

end SignalBoard
