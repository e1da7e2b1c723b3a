/-
# Dry runs

A dry run answers requests without changing anything. Searches and readings go to another
server; what would be created, replaced or deleted is only noted. Documents that would have been
created get identifiers of their own and are kept aside, so that later readings in the same run
find them.
-/

import SignalBoard.Api.Server
import SignalBoard.Store
import SignalBoard.Text.Fields

namespace SignalBoard

/-- What a dry run has noted. -/
structure DryRun where
  /-- The requests that would have changed something, first to last. -/
  planned : List Request := []
  /-- The documents that exist only in this run, by path. -/
  synthetic : Table Json := []
  /-- How many identifiers have been given. -/
  allocated : Nat := 0
deriving DecidableEq

namespace DryRun

variable {σ : Type}

/-- Something done in a dry run over a server with states `σ`. -/
abbrev Action (σ : Type) := ExceptT Fault (StateM (σ × DryRun))

/-- Changes what is noted. -/
def note (change : DryRun → DryRun) : Action σ Unit :=
  modify fun (state, run) => (state, change run)

/-- Passes a request on to the other server. -/
def passOn (inner : Server σ) (request : Request) : Action σ Json := do
  let (state, run) ← get
  let (reply, state) := inner request state
  set (state, run)
  match reply with
  | .ok document => return document
  | .error fault => throw fault

/-- Assigns a value to a key of a document. -/
def assign (key : String) (value : Json) (document : Json) : Action σ Json :=
  match document.assign key value with
  | .ok document => return document
  | .error (.notAnObject key) => throw (.notAnObject key)

/-- Keeps a new document under an endpoint, with a fresh identifier. -/
def add (endpoint : String) (document : Json) : Action σ Json := do
  note fun run => { run with allocated := run.allocated + 1 }
  let id := "dry-run-" ++ String.ofList (natText (← get).2.allocated)
  let document ← assign "id" (.str id) document
  note fun run =>
    { run with synthetic := run.synthetic.insert (endpoint ++ "/" ++ id) document }
  return document

/-- The document at a path, from this run or from the other server. -/
def fetch (inner : Server σ) (path : String) : Action σ Json := do
  match (← get).2.synthetic.get? path with
  | some document => return document
  | none => passOn inner (.get path)

/-- Keeps a document of this run at its path. -/
def keep (path : String) (document : Json) : Action σ Unit :=
  note fun run => { run with synthetic := run.synthetic.insert path document }

/-- A name, or `null` without one. -/
def nameDocument (name : Option String) : Json := (Json.ofString? name).getD .null

/-- Adds charts and gives their entries, counting places from a given one. -/
def addCharts : Nat → List Json → Action σ (List Json)
  | _, [] => return []
  | place, chart :: rest => do
      let created ← add Kind.chart.endpoint chart
      let entries ← addCharts (place + 1) rest
      return Store.placedEntry (created.field "id") place :: entries

/-- Adds a dashboard with charts, in a group of its own. -/
def addSimpleDashboard (name : Option String) (charts : List Json) : Action σ Json := do
  let group ← add Kind.group.endpoint (.record
    [("name", some (nameDocument name)), ("dashboards", some (.arr []))])
  let layout ← addCharts 0 charts
  let dashboard ← add Kind.dashboard.endpoint (.record
    [("name", some (nameDocument name)), ("groupId", some (group.field "id")),
      ("charts", some (.arr layout))])
  let listed ← assign "dashboards" (.arr [dashboard.field "id"]) group
  keep (Kind.group.path (Store.idOf group)) listed
  return dashboard

/-- Adds a copy of a dashboard to a group; a group of this run lists it from then on. -/
def clone (inner : Server σ) (groupId : String) (body : Json) : Action σ Json := do
  let sourceId := (body.field "sourceDashboard").string?.getD ""
  let source ← fetch inner (Kind.dashboard.path sourceId)
  let moved ← assign "groupId" (.str groupId) source
  let clone ← add Kind.dashboard.endpoint moved
  let path := Kind.group.path groupId
  match (← get).2.synthetic.get? path with
  | none => return clone
  | some group =>
      match group.get? "dashboards" with
      | some (.arr members) =>
          keep path (← assign "dashboards" (.arr (members ++ [clone.field "id"])) group)
      | some _ => pure ()
      | none => keep path (← assign "dashboards" .null group)
      return clone

/-- Creates at a path. -/
def post (inner : Server σ) (path : String) (query : List (String × String)) (body : Json) :
    Action σ Json := do
  let name := Request.nameIn? query
  if path = "/dashboard/simple" then addSimpleDashboard name body.items
  else
    match Request.cloneTarget? path with
    | some groupId => clone inner groupId body
    | none =>
        let document ← match name with
          | some name => assign "name" (.str name) body
          | none => pure body
        let document ←
          if path = Kind.group.endpoint then assign "dashboards" (.arr []) document
          else pure document
        add path document

/-- Replaces the document at a path, but for its identifier, which the path gives. -/
def put (path : String) (body : Json) : Action σ Json := do
  let id := (Text.fields '/' path.toList).getLastD []
  let document ← assign "id" (.str (String.ofList id)) body
  if (← get).2.synthetic.has path then keep path document
  return document

/-- Answers a request over another server. -/
def answer (inner : Server σ) (request : Request) : Action σ Json := do
  if request.mutates then note fun run => { run with planned := run.planned ++ [request] }
  match request with
  | .search _ _ => passOn inner request
  | .get path => fetch inner path
  | .post path query body => post inner path query body
  | .put path body => put path body
  | .delete path => do
      note fun run => { run with synthetic := run.synthetic.erase path }
      return .null

/-- The dry run over a server, as a server. -/
def server (inner : Server σ) : Server (σ × DryRun) :=
  fun request state => (answer inner request).run.run state

/-- A planned request on one line. -/
def line (request : Request) : String := "[dry run] " ++ request.method ++ " " ++ request.path

end DryRun

end SignalBoard
