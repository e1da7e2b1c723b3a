/-
# The service over HTTP

A connection turns every request to the service into one message and the reply to it into a
document or a fault. Who carries the message is left open: a transport gives the reply, or
nothing if the service was not reached.
-/

import SignalBoard.Api.Server
import SignalBoard.Http.Target
import SignalBoard.Json.Reader
import SignalBoard.Settings.Basic
import SignalBoard.Text.Mark

namespace SignalBoard.Http

/-- A message to the service. -/
structure Message where
  method : String
  address : Address
  /-- The headers, their names in lower case. -/
  headers : List (String × String)
  body? : Option Json
deriving DecidableEq

/-- The reply to a message. -/
structure Reply where
  status : Nat
  body : String
deriving DecidableEq, Repr

/-- How messages are carried, with a state for what happens on the way. Nothing is given for a
message that does not reach the service. -/
abbrev Transport (σ : Type) := Message → σ → Option Reply × σ

/-- The transport by which nothing arrives. -/
def Transport.unreachable : Transport Unit := fun _ state => (none, state)

namespace Reply

/-- The body without a byte order mark in front. -/
def text (reply : Reply) : String := Text.withoutMark reply.body

/-- Does the status stand for success? -/
def succeeds (reply : Reply) : Bool := 200 ≤ reply.status && reply.status < 300

/-- What a status that does not stand for success means for the path that was asked for. -/
def fault (path : String) (reply : Reply) : Fault :=
  if reply.status = 401 ∨ reply.status = 403 then .unauthorized
  else if reply.status = 404 then .notFound path
  else .refused reply.status reply.text

/-- The document that the reply holds; `null` if it holds nothing. -/
def document (reply : Reply) : Except Fault Json :=
  if Text.blank reply.text then .ok .null
  else
    match Json.read? reply.text with
    | some document => .ok document
    | none => .error .malformedReply

/-- The resources that a search found. They stand under `results`, which may be missing but not
be repeated; a list with that list as its only item does as well. -/
def results? (reply : Reply) : Option (List Json) := do
  let listed : Json → Option (List Json)
    | .arr items => some (items.map Json.canonical)
    | _ => none
  match ← Json.readTree? reply.body with
  | .obj fields =>
      match fields.filter fun (key, _) => key = "results" with
      | [] => some []
      | [(_, items)] => listed items
      | _ => none
  | .arr [] => some []
  | .arr [items] => listed items
  | _ => none

/-- The answer to a request. A deletion that succeeded is not read. -/
def answer (request : Request) (reply : Reply) : Except Fault Json :=
  if !reply.succeeds then .error (reply.fault request.path)
  else
    match request with
    | .search _ _ =>
        match reply.results? with
        | some found => .ok (.arr found)
        | none => .error .exchange
    | .delete _ => .ok .null
    | _ => reply.document

end Reply

/-- How the service is addressed. -/
structure Connection where
  /-- The address that every path is appended to. It does not end in a slash. -/
  baseUrl : String
  token : String
deriving DecidableEq, Repr

namespace Connection

/-- A text without the slashes at its end. -/
def withoutSlashes (s : String) : String :=
  String.ofList (s.toList.reverse.dropWhile (· == '/')).reverse

/-- The connection that settings describe. Without a token there is none. -/
def ofSettings (settings : Settings) : Except Fault Connection := do
  return { baseUrl := withoutSlashes settings.baseUrl, token := ← settings.checkedToken }

/-- The query that follows the path of a search, with its question mark. -/
def searchQuery : Request → String
  | .search _ name => "?name=" ++ String.ofList (Text.percentEncode Text.keptInName name.toList)
  | _ => ""

/-- The address of a request. What a creation adds to the query comes behind a query that the
path or the base has already. -/
def addressOf? (connection : Connection) (request : Request) : Option Address :=
  (Address.ofText? (connection.baseUrl ++ request.path ++ searchQuery request)).map fun address =>
    match request with
    | .post _ pairs _ => address.withForm pairs
    | _ => address

/-- Can the token stand in a header? A control character other than a tab cannot. -/
def carriesToken (connection : Connection) : Bool :=
  connection.token.toList.all fun c => c = '\t' || 0x20 ≤ c.toNat && c.toNat ≠ 0x7F

/-- The message for a request. There is none if the address names no service, or if the token
cannot be sent. -/
def message? (connection : Connection) (request : Request) : Option Message := do
  let address ← connection.addressOf? request
  if connection.carriesToken then
    let body? := request.body?
    some
      { method := request.method, address
        headers := [("accept", "application/json"), ("x-sf-token", connection.token)]
          ++ (if body?.isSome then [("content-type", "application/json")] else [])
        body? }
  else none

/-- The service at the other end of a connection. -/
def server {σ : Type} (transport : Transport σ) (connection : Connection) : Server σ :=
  fun request state =>
    match connection.message? request with
    | none => (.error .exchange, state)
    | some message =>
        match transport message state with
        | (some reply, state) => (reply.answer request, state)
        | (none, state) => (.error .exchange, state)

end Connection

end SignalBoard.Http
