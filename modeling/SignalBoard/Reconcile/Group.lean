/-
# Operations on groups of dashboards

The dashboards of a group are reconciled one by one wherever they are stored. Those outside the
group are cloned into it, and their originals are removed only after all clones are there. A
group from which every dashboard has been cloned is removed as a whole.
-/

import SignalBoard.Reconcile.Dashboard

namespace SignalBoard

/-- Where a dashboard is stored. -/
structure Placement where
  dashboardId : String
  /-- Empty if the dashboard names no group. -/
  groupId : String
deriving DecidableEq

namespace DashboardGroup

/-- The dashboards that a stored group lists. -/
def members (group : Json) : List String :=
  (group.field "dashboards").items.filterMap Json.string?

/-- Updates or creates a dashboard and notes where it is stored. -/
def placeDashboard (dashboard : Dashboard) : Plan Placement := do
  let remote ← dashboard.update {}
  let id ← requireId remote
  return ⟨id, (remote.field "groupId").string?.getD ""⟩

/-- Clones a stored dashboard into a group. -/
def cloneInto (groupId dashboardId : String) : Plan Json :=
  Plan.post (Request.clonePath groupId) []
    (.record [("sourceDashboard", some (.str dashboardId))])

/-- The groups of placements, in order, each with its dashboards. -/
def byGroup (placements : List Placement) : List (String × List String) :=
  let groups := (placements.map (·.groupId)).eraseDups.mergeSort fun a b => !(decide (b < a))
  groups.map fun group =>
    (group, (placements.filter fun placement => placement.groupId = group).map (·.dashboardId))

/-- Removes cloned dashboards from a group, with the group if it has no others. -/
def removeFrom (groupId : String) (dashboardIds : List String) : Plan Unit := do
  let group ← Plan.get (Kind.group.path groupId)
  if (members group).all dashboardIds.contains then
    dashboardIds.forM Dashboard.deleteChartsOf
    Plan.delete (Kind.group.path groupId)
  else
    dashboardIds.forM Dashboard.deleteById

/-- Removes the originals of dashboards that were cloned into a group. -/
def removeSources (target : String) (sources : List Placement) : Plan Unit :=
  (byGroup (sources.filter fun placement => placement.groupId ≠ target)).forM
    fun (groupId, dashboardIds) => removeFrom groupId dashboardIds

/-- Creates a group, whether or not its name is taken. The service puts an empty dashboard into
every new group; it is removed when the group has dashboards of its own. -/
def createUnguarded (group : DashboardGroup) (overrides : Overrides) : Plan Json := do
  let payload ← Plan.checked group.payload
  let payload ← overrides.apply payload
  let name := (payload.field "name").string?.getD group.name
  let created ← Plan.post Kind.group.endpoint [("name", name)] payload
  if group.dashboards.isEmpty then return created
  else
    let id ← requireId created
    let placements ← group.dashboards.mapM placeDashboard
    placements.forM fun placement => do
      let _ ← cloneInto id placement.dashboardId
      return ()
    removeSources id placements
    (members created).head?.forM Dashboard.deleteById
    Plan.get (Kind.group.path id)

/-- Creates a group unless its name is taken. -/
def create (group : DashboardGroup) (options : CreateOptions) : Plan Json := do
  Plan.checked group.check
  guardCreate .group group.name options
  group.createUnguarded {}

/-- Brings a dashboard into a group and gives its identifier there. One that is in the group
already stays. -/
def settle (target : String) (placement : Placement) : Plan String :=
  if placement.groupId = target then return placement.dashboardId
  else do
    let clone ← cloneInto target placement.dashboardId
    requireId clone

/-- Makes the dashboards of a stored group the local ones and gives their identifiers. -/
def reconcileDashboards (group : DashboardGroup) (id : String) : Plan (List String) := do
  let placements ← group.dashboards.mapM placeDashboard
  let kept ← placements.mapM (settle id)
  removeSources id placements
  let current ← Plan.get (Kind.group.path id)
  ((members current).filter fun member => !kept.contains member).forM Dashboard.deleteById
  return kept

/-- The document of the group without its name, by which it was found. -/
def unnamedPayload (group : DashboardGroup) : Checked Json := do
  match ← group.payload with
  | .obj fields => return .obj (Table.erase "name" fields)
  | other => return other

/-- Brings the stored group in line with the local one, or creates it. The dashboards of a
stored group are left alone if the local one has none. -/
def update (group : DashboardGroup) (overrides : Overrides) : Plan Json := do
  Plan.checked group.check
  match ← findUnique .group group.name with
  | none => group.createUnguarded overrides
  | some remote =>
      let id ← requireId remote
      let document ←
        if group.dashboards.isEmpty then pure remote
        else do
          let kept ← group.reconcileDashboards id
          Plan.assign "dashboards" (Json.ofStrings kept) remote
      let fields ← Plan.checked group.unnamedPayload
      let document ← overrides.apply (document.overlay fields)
      Plan.put (Kind.group.path id) document

/-- The stored group. -/
def read (group : DashboardGroup) : Plan Json := requireUnique .group group.name

/-- Deletes the stored group. -/
def delete (group : DashboardGroup) : Plan Unit := do
  let remote ← requireUnique .group group.name
  Plan.delete (Kind.group.path (← requireId remote))

end DashboardGroup

end SignalBoard
