/-
# Requests to the service

The service keeps four kinds of resource as documents under paths. It is asked by five kinds of
request: a search by name, and reading, creating, replacing and deleting at a path.
-/

import SignalBoard.Json.Basic

namespace SignalBoard

/-- A kind of resource. -/
inductive Kind where
  | chart | dashboard | group | detector
deriving DecidableEq, Repr

namespace Kind

/-- The path under which resources of the kind are kept. -/
def endpoint : Kind → String
  | chart => "/chart"
  | dashboard => "/dashboard"
  | group => "/dashboardgroup"
  | detector => "/detector"

/-- The path of a resource. -/
def path (kind : Kind) (id : String) : String := kind.endpoint ++ "/" ++ id

/-- What a resource of the kind is called. -/
def label : Kind → String
  | chart => "chart"
  | dashboard => "dashboard"
  | group => "dashboard group"
  | detector => "detector"

end Kind

/-- A request to the service. -/
inductive Request where
  /-- Resources of a kind whose name resembles a text. -/
  | search (kind : Kind) (name : String)
  | get (path : String)
  | post (path : String) (query : List (String × String)) (body : Json)
  | put (path : String) (body : Json)
  | delete (path : String)
deriving DecidableEq

namespace Request

/-- The method of a request. -/
def method : Request → String
  | search _ _ => "GET"
  | get _ => "GET"
  | post _ _ _ => "POST"
  | put _ _ => "PUT"
  | delete _ => "DELETE"

/-- The path of a request, without its query. -/
def path : Request → String
  | search kind _ => kind.endpoint
  | get path => path
  | post path _ _ => path
  | put path _ => path
  | delete path => path

/-- The body of a request that has one. -/
def body? : Request → Option Json
  | post _ _ body => some body
  | put _ body => some body
  | _ => none

/-- May the request change what the service keeps? -/
def mutates : Request → Bool
  | search _ _ => false
  | get _ => false
  | _ => true

/-- The name a query gives, if it gives one. -/
def nameIn? (query : List (String × String)) : Option String :=
  (query.find? fun (key, _) => key = "name").map (·.2)

/-- The path of the dashboards of a group, to which clones are posted. -/
def clonePath (groupId : String) : String := Kind.group.path groupId ++ "/dashboard"

/-- The group whose dashboards have the path. -/
def cloneTarget? (path : String) : Option String :=
  let before := "/dashboardgroup/".toList
  let after := "/dashboard".toList
  let cs := path.toList
  let rest := cs.drop before.length
  if before.isPrefixOf cs && after.isSuffixOf rest then
    some (String.ofList (rest.take (rest.length - after.length)))
  else none

/-- A request on one line, its method and its path. A search shows the name as it is. -/
def line : Request → String
  | search kind name => "GET " ++ kind.endpoint ++ "?name=" ++ name
  | request => request.method ++ " " ++ request.path

end Request

end SignalBoard
