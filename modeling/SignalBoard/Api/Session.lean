/-
# Sessions

A session runs plans one after another against the same server, for real or as a dry run. The
dry run lasts for the whole session, so a plan sees what earlier plans would have created. The
session keeps a record of the requests that reached the server.
-/

import SignalBoard.DryRun

namespace SignalBoard

/-- A server with what a session has done to it. -/
structure Session (σ : Type) where
  /-- The state of the server. -/
  state : σ
  /-- The requests that reached the server since the record was last cleared. -/
  record : List Request := []
  /-- What was noted, if the session is a dry run. -/
  dryRun : Option DryRun := none
  /-- The answer to every question. -/
  consent : Bool := false

/-- What a step of a session comes to. -/
structure Session.Step (σ : Type) where
  session : Session σ
  result : Except Fault Json
  /-- The requests that reached the server in this step. -/
  requests : List Request := []
  questions : List Question := []

namespace Session

variable {σ : Type}

/-- Runs a plan on the server itself, also in a session that is a dry run. -/
def runReal (server : Server σ) (plan : Plan Json) (session : Session σ) : Step σ :=
  let run := plan.run server.recorded (fun _ => session.consent) (session.state, [])
  let (state, requests) := run.state
  { session := { session with state, record := session.record ++ requests }
    result := run.result, requests, questions := run.questions }

/-- Runs a plan. -/
def run (server : Server σ) (plan : Plan Json) (session : Session σ) : Step σ :=
  match session.dryRun with
  | none => session.runReal server plan
  | some noted =>
      let run := plan.run (DryRun.server server.recorded) (fun _ => session.consent)
        ((session.state, []), noted)
      let ((state, requests), noted) := run.state
      { session :=
          { session with state, record := session.record ++ requests, dryRun := some noted }
        result := run.result, requests, questions := run.questions }

/-- The requests that a step only noted. -/
def newlyPlanned? (before after : Session σ) : Option (List Request) := do
  let old ← before.dryRun
  let new ← after.dryRun
  return new.planned.drop old.planned.length

end Session

end SignalBoard
