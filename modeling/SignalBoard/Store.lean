/-
# A store in memory

The store answers requests like the service does. It keeps documents by path and gives every
new one an identifier that was never given before. A dashboard belongs to a group that lists it;
creating one from charts creates a group for it, creating a group puts an empty dashboard into
it, and deleting a group deletes the dashboards it lists. A clone has charts of its own. The
search finds the documents whose name contains the text, in the order of their paths.
-/

import SignalBoard.Api.Server

namespace SignalBoard

/-- The documents of a service. -/
structure Store where
  /-- The documents by path. -/
  documents : Table Json := []
  /-- How many identifiers have been given. -/
  allocated : Nat := 0
deriving DecidableEq

namespace Store

/-- Something done with a store. What was changed before a fault stays changed. -/
abbrev Action := ExceptT Fault (StateM Store)

/-- Assigns a value to a key of a document. -/
def assign (key : String) (value : Json) (document : Json) : Action Json :=
  match document.assign key value with
  | .ok document => return document
  | .error (.notAnObject key) => throw (.notAnObject key)

/-- The document at a path. -/
def fetch (path : String) : Action Json := do
  match (← get).documents.get? path with
  | some document => return document
  | none => throw (.notFound path)

/-- Keeps a document at a path. -/
def keep (path : String) (document : Json) : Action Unit :=
  modify fun store => { store with documents := store.documents.insert path document }

/-- Removes the document at a path, if there is one. -/
def drop (path : String) : Action Unit :=
  modify fun store => { store with documents := store.documents.erase path }

/-- Keeps a new document under an endpoint, with a fresh identifier. -/
def add (endpoint : String) (document : Json) : Action Json := do
  modify fun store => { store with allocated := store.allocated + 1 }
  let id := "id-" ++ String.ofList (natText (← get).allocated)
  let document ← assign "id" (.str id) document
  keep (endpoint ++ "/" ++ id) document
  return document

/-- The identifier of a stored document. -/
def idOf (document : Json) : String := (document.field "id").string?.getD ""

/-- The document of a group with its list of dashboards changed. A group without such a list
gets an empty value for it; a list of another shape stays as it is. -/
def changeMembers (change : List Json → List Json) (group : Json) : Action Json := do
  match group.get? "dashboards" with
  | some (.arr members) => assign "dashboards" (.arr (change members)) group
  | some _ => return group
  | none => assign "dashboards" .null group

/-- Changes the list of dashboards of a group, if there is such a group. -/
def updateMembers (groupId : String) (change : List Json → List Json) : Action Unit := do
  let path := Kind.group.path groupId
  match (← get).documents.get? path with
  | some group => keep path (← changeMembers change group)
  | none => return ()

/-- Adds a dashboard to a group, which lists it from then on. -/
def addDashboard (name groupId : String) (layout : List Json) : Action Json := do
  let dashboard ← add Kind.dashboard.endpoint (.record
    [("name", some (.str name)), ("groupId", some (.str groupId)),
      ("charts", some (.arr layout))])
  updateMembers groupId fun members => members ++ [dashboard.field "id"]
  return dashboard

/-- Adds a group without dashboards. -/
def addGroup (body : Json) : Action Json := do
  let group ← assign "dashboards" (.arr []) body
  add Kind.group.endpoint group

/-- The entry of the chart at a place among those a dashboard is created from: two in a row. -/
def placedEntry (chartId : Json) (place : Nat) : Json := .record
  [("chartId", some chartId), ("row", some (.ofNat (place / 2 * 3))),
    ("column", some (.ofNat (place % 2 * 6))), ("width", some (.ofNat 6)),
    ("height", some (.ofNat 3))]

/-- Adds charts and gives their entries, counting places from a given one. -/
def addCharts : Nat → List Json → Action (List Json)
  | _, [] => return []
  | place, chart :: rest => do
      let created ← add Kind.chart.endpoint chart
      let entries ← addCharts (place + 1) rest
      return placedEntry (created.field "id") place :: entries

/-- Adds a dashboard with charts, in a group of its own. -/
def addSimpleDashboard (name : String) (charts : List Json) : Action Json := do
  let group ← addGroup (.record [("name", some (.str name))])
  let layout ← addCharts 0 charts
  addDashboard name (idOf group) layout

/-- Copies the chart that an entry places and gives the entry of the copy. -/
def copyPlaced (entry : Json) : Action Json := do
  let chart ← fetch (Kind.chart.path ((entry.field "chartId").string?.getD ""))
  let copy ← add Kind.chart.endpoint chart
  assign "chartId" (copy.field "id") entry

/-- Adds a copy of a dashboard, with copies of its charts, to a group. Only its name is copied
besides. -/
def clone (groupId sourceId : String) : Action Json := do
  let source ← fetch (Kind.dashboard.path sourceId)
  let _ ← fetch (Kind.group.path groupId)
  let layout ← (source.field "charts").items.mapM copyPlaced
  addDashboard ((source.field "name").string?.getD "") groupId layout

/-- Is the path that of a document right under the endpoint? -/
def isUnder (endpoint path : String) : Bool :=
  let before := endpoint.toList ++ ['/']
  let cs := path.toList
  before.isPrefixOf cs && !(cs.drop before.length).contains '/'

/-- The documents right under an endpoint, in the order of their paths. -/
def under (store : Store) (endpoint : String) : List Json :=
  (store.documents.filter fun (path, _) => isUnder endpoint path).map (·.2)

/-- The documents right under the endpoints of the four kinds, by path. -/
def resources (store : Store) : Table Json :=
  store.documents.filter fun (path, _) =>
    [Kind.chart, .dashboard, .group, .detector].any fun kind => isUnder kind.endpoint path

/-- Do the characters occur in a row among others? -/
def occurs (part : List Char) : List Char → Bool
  | [] => part.isEmpty
  | c :: rest => part.isPrefixOf (c :: rest) || occurs part rest

/-- The documents of a kind whose name contains the text. -/
def search (kind : Kind) (name : String) : Action Json := do
  let found := ((← get).under kind.endpoint).filter fun document =>
    match (document.field "name").string? with
    | some other => occurs name.toList other.toList
    | none => false
  return .arr found

/-- Creates at a path. -/
def post (path : String) (query : List (String × String)) (body : Json) : Action Json := do
  let name := Request.nameIn? query
  if path = Kind.chart.endpoint ∨ path = Kind.detector.endpoint then add path body
  else if path = "/dashboard/simple" then addSimpleDashboard (name.getD "") body.items
  else if path = Kind.group.endpoint then
    let body ← match name with
      | some name => assign "name" (.str name) body
      | none => pure body
    let group ← addGroup body
    let _ ← addDashboard "Default Dashboard" (idOf group) []
    fetch (Kind.group.path (idOf group))
  else
    match Request.cloneTarget? path, (body.field "sourceDashboard").string? with
    | some groupId, some sourceId => clone groupId sourceId
    | _, _ => throw (.refused 404 ("no route for POST " ++ path))

/-- Replaces the document at a path, but for its identifier. -/
def put (path : String) (body : Json) : Action Json := do
  let current ← fetch path
  let updated ← assign "id" (current.field "id") body
  keep path updated
  return updated

/-- Deletes the document at a path. A dashboard is removed from the list of its group; with a
group go the dashboards it lists. -/
def delete (path : String) : Action Unit := do
  let removed ← fetch path
  drop path
  if "/dashboard/".toList.isPrefixOf path.toList then
    updateMembers ((removed.field "groupId").string?.getD "") fun members =>
      members.filter fun id => id ≠ removed.field "id"
  else if "/dashboardgroup/".toList.isPrefixOf path.toList then
    ((removed.field "dashboards").items.filterMap Json.string?).forM fun id =>
      drop (Kind.dashboard.path id)

/-- Answers a request. -/
def answer : Request → Action Json
  | .search kind name => search kind name
  | .get path => fetch path
  | .post path query body => post path query body
  | .put path body => put path body
  | .delete path => do
      delete path
      return .null

/-- The store as a server. -/
def server : Server Store := fun request store => ((answer request).run).run store

/-- Keeps a document under an endpoint and gives its identifier. -/
def seed (endpoint : String) (document : Json) (store : Store) : Except Fault String × Store :=
  (do return idOf (← add endpoint document) : Action String).run.run store

end Store

end SignalBoard
