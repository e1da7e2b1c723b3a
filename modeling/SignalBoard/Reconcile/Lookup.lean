/-
# Finding resources by name

Resources are found by their exact name. The service's search is loose, so only results of
exactly that name count; a name that several resources share identifies none of them. A
resource of a name that is taken is created only by force or with the user's consent.
-/

import SignalBoard.Api.Plan

namespace SignalBoard

/-- How a create treats a name that is taken. -/
structure CreateOptions where
  /-- Create without looking. -/
  force : Bool := false
  /-- Ask the user. -/
  interactive : Bool := false
deriving DecidableEq

/-- What an update sets beyond the local definition. -/
structure Overrides where
  name : Option String := none
  description : Option String := none
deriving DecidableEq

/-- Assigns a text to a key of a document, if there is a text. -/
def assignText? (key : String) (text : Option String) (document : Json) : Plan Json :=
  match text with
  | some text => Plan.assign key (.str text) document
  | none => .done document

/-- Writes the overrides into a document. -/
def Overrides.apply (overrides : Overrides) (document : Json) : Plan Json := do
  let document ← assignText? "name" overrides.name document
  assignText? "description" overrides.description document

/-- The name of a document, if it has one. -/
def Json.name? (document : Json) : Option String := (document.get? "name").bind Json.string?

/-- The identifier of a document, if it has one. -/
def Json.id? (document : Json) : Option String := (document.get? "id").bind Json.string?

/-- The search results with exactly the name. -/
def matching (name : String) (results : List Json) : List Json :=
  results.filter fun document => document.name? = some name

/-- The resources of a kind with exactly the name. -/
def findMatches (kind : Kind) (name : String) : Plan (List Json) := do
  return matching name (← Plan.search kind name)

/-- The resource of a kind with exactly the name, if there is one. Several are a fault. -/
def findUnique (kind : Kind) (name : String) : Plan (Option Json) := do
  match ← findMatches kind name with
  | [] => return none
  | [document] => return some document
  | _ => .fail (.ambiguous name)

/-- The resource of a kind with exactly the name; none is a fault. -/
def requireUnique (kind : Kind) (name : String) : Plan Json := do
  match ← findUnique kind name with
  | some document => return document
  | none => .fail (.noMatch name)

/-- Goes on when a resource of the name may be created. -/
def guardCreate (kind : Kind) (name : String) (options : CreateOptions) : Plan Unit := do
  if options.force then return ()
  else
    let found ← findMatches kind name
    if found.isEmpty then return ()
    else if options.interactive then
      if ← Plan.confirm ⟨kind, name, found.length⟩ then return ()
      else .fail .aborted
    else if 1 < found.length then .fail (.ambiguous name)
    else .fail (.alreadyExists name)

/-- The identifier of a document that must have one. -/
def requireId (document : Json) : Plan String :=
  match document.id? with
  | some id => .done id
  | none => .fail (.unexpectedReply (.missingId document))

end SignalBoard
