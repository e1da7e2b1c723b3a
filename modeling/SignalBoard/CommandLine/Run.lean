/-
# Carrying a command line out

The program manages a fixed list of resources. A command line is carried out by loading the
settings, connecting to the service and doing what the command says with one resource after the
other; the first failure ends the run. A failure carries what was being done. In a dry run
nothing is changed, and the requests that were held back are told at the end.
-/

import SignalBoard.Api.Session
import SignalBoard.CommandLine.Arguments
import SignalBoard.Http.Client
import SignalBoard.Reconcile.Resource
import SignalBoard.Settings.Load

namespace SignalBoard.CommandLine

/-- What the program finds around it. -/
structure Surroundings where
  /-- The variables of the environment with their values. -/
  environment : List (String × String)
  /-- The texts of the files by path. -/
  files : String → Option String

/-- What a run gives. -/
structure Outcome where
  /-- One document for every resource, `null` for a deletion. -/
  results : List Json
  /-- The requests that a dry run held back. -/
  planned : List Request
deriving DecidableEq

/-- Why a run fails. -/
inductive Cause where
  | usage (error : UsageError)
  | fault (fault : Fault)
deriving DecidableEq

/-- The failure of a run. -/
structure Failure where
  cause : Cause
  /-- What was being done, where that is told. -/
  context? : Option String := none
deriving DecidableEq

/-- What a run comes to. -/
structure Report (σ : Type) where
  outcome : Except Failure Outcome
  state : σ
  /-- The questions asked, first to last. -/
  questions : List Question := []

/-- The end of the program for what a run came to. -/
def exitCode : Except Failure Outcome → Nat
  | .ok _ => 0
  | .error ⟨.usage error, _⟩ => error.exitCode
  | .error ⟨.fault _, _⟩ => 1

/-- What the program prints after a run that did not fail. -/
def Outcome.text (outcome : Outcome) : String :=
  let results := (outcome.results.filter (· ≠ .null)).map Json.spread
  String.join ((results ++ outcome.planned.map DryRun.line).map (· ++ "\n"))

/-- What a command does with a resource. -/
def Command.plan (command : Command) (resource : Resource) : Plan Json :=
  match command with
  | .create options => resource.create options
  | .update overrides => resource.update overrides
  | .read => resource.read
  | .delete => (fun _ => .null) <$> resource.delete

/-- What is being done when a command fails for a resource. -/
def failureContext (resource : Resource) : String :=
  resource.kind.label ++ " \"" ++ resource.name ++ "\" failed"

/-- Does what a command says with one resource after the other, up to the first failure. The
questions that were asked come last. -/
def runAll {σ : Type} (server : Server σ) (command : Command) :
    List Resource → Session σ → Except Failure (List Json) × Session σ × List Question
  | [], session => (.ok [], session, [])
  | resource :: rest, session =>
      let step := session.run server (command.plan resource)
      match step.result with
      | .error fault =>
          (.error ⟨.fault fault, some (failureContext resource)⟩, step.session, step.questions)
      | .ok result =>
          let (results, session, questions) := runAll server command rest step.session
          (results.map (result :: ·), session, step.questions ++ questions)

/-- The variable of the environment that stands for the parameter of the token. -/
def tokenVariable : String := "SIGNALFX_API__TOKEN"

/-- The value of a variable of the environment. -/
def Surroundings.valueOf? (surroundings : Surroundings) (name : String) : Option String :=
  (surroundings.environment.find? fun (other, _) => other = name).map (·.2)

/-- How the service is reached in a run. What the command line says wins over the settings. -/
def connect (surroundings : Surroundings) (invocation : Invocation) :
    Except Failure Http.Connection :=
  match Settings.load surroundings.files surroundings.environment invocation.config with
  | .error fault => .error ⟨.fault fault, some "failed to load SignalFx settings"⟩
  | .ok settings =>
      let token := invocation.apiKey.or (surroundings.valueOf? tokenVariable)
      let connection := Http.Connection.ofSettings { settings with
        token := token.getD settings.token
        baseUrl := invocation.baseUrl.getD settings.baseUrl }
      match connection with
      | .error fault => .error ⟨.fault fault, none⟩
      | .ok connection => .ok connection

/-- Carries out what a command line asks for. Every question gets the same answer. -/
def execute {σ : Type} (transport : Http.Transport σ) (surroundings : Surroundings)
    (consent : Bool) (resources : List Resource) (invocation : Invocation) (state : σ) :
    Report σ :=
  match connect surroundings invocation with
  | .error failure => { outcome := .error failure, state }
  | .ok connection =>
      let session : Session σ :=
        { state, consent, dryRun := if invocation.dryRun then some {} else none }
      let (results, session, questions) :=
        runAll (connection.server transport) invocation.command resources session
      let planned := (session.dryRun.map (·.planned)).getD []
      { outcome := results.map fun results => ⟨results, planned⟩
        state := session.state
        questions }

/-- Carries out a command line. -/
def run {σ : Type} (transport : Http.Transport σ) (surroundings : Surroundings)
    (consent : Bool) (resources : List Resource) (words : List String) (state : σ) :
    Report σ :=
  match Invocation.ofWords words with
  | .error error => { outcome := .error ⟨.usage error, none⟩, state }
  | .ok invocation => execute transport surroundings consent resources invocation state

end SignalBoard.CommandLine
