/-
# Servers

A server answers requests and may change its state with every one of them, failures included.
Running a plan against a server gives the value or the fault it ends with, the state the server
is left in, and what was requested and asked on the way.
-/

import SignalBoard.Api.Plan

namespace SignalBoard

/-- How requests are answered from a state. -/
abbrev Server (σ : Type) := Request → σ → Except Fault Json × σ

/-- What running a plan comes to. -/
structure Run (σ α : Type) where
  result : Except Fault α
  state : σ
  /-- The requests sent, first to last. -/
  requests : List Request := []
  /-- The questions asked, first to last. -/
  questions : List Question := []

namespace Plan

variable {σ α β : Type}

/-- Runs a plan against a server, with a fixed answer for every question. -/
def run (server : Server σ) (answer : Question → Bool) : Plan α → σ → Run σ α
  | done value, state => { result := .ok value, state }
  | fail fault, state => { result := .error fault, state }
  | call request next, state =>
      match server request state with
      | (.error fault, state) => { result := .error fault, state, requests := [request] }
      | (.ok reply, state) =>
          let rest := (next reply).run server answer state
          { rest with requests := request :: rest.requests }
  | ask question next, state =>
      let rest := (next (answer question)).run server answer state
      { rest with questions := question :: rest.questions }

/-- A plan that goes on after another one starts from the state in which that one ended, and
its requests come after those of the first. If the first fails, the second never starts. -/
theorem run_andThen (server : Server σ) (answer : Question → Bool) (plan : Plan α)
    (rest : α → Plan β) (state : σ) :
    (plan.andThen rest).run server answer state =
      let first := plan.run server answer state
      match first.result with
      | .error fault =>
          ⟨.error fault, first.state, first.requests, first.questions⟩
      | .ok value =>
          let second := (rest value).run server answer first.state
          ⟨second.result, second.state, first.requests ++ second.requests,
            first.questions ++ second.questions⟩ := by
  induction plan generalizing state with
  | done value => simp [andThen, run]
  | fail fault => simp [andThen, run]
  | call request next ih =>
      simp only [andThen, run]
      cases h : server request state with
      | mk reply after =>
          cases reply with
          | error fault => simp
          | ok reply =>
              simp only [ih]
              cases ((next reply).run server answer after).result <;> simp
  | ask question next ih =>
      simp only [andThen, run, ih]
      cases ((next (answer question)).run server answer state).result <;> simp

end Plan

namespace Server

variable {σ : Type}

/-- The server that also keeps a record of all requests, first to last. -/
def recorded (server : Server σ) : Server (σ × List Request) :=
  fun request (state, record) =>
    let (reply, state) := server request state
    (reply, state, record ++ [request])

/-- The server that gives replies prepared in advance, one after the other. -/
def scripted : Server (List (Except Fault Json)) :=
  fun _ replies =>
    match replies with
    | [] => (.error (.unexpectedReply .exhausted), [])
    | reply :: rest => (reply, rest)

/-- The server that is one of two, told by its state. -/
def either {τ : Type} (first : Server σ) (second : Server τ) : Server (σ ⊕ τ) :=
  fun request state =>
    match state with
    | .inl state => (first request state).map id .inl
    | .inr state => (second request state).map id .inr

end Server

end SignalBoard
