/-
# Runs that are interrupted

A service may refuse a request at any place of a run, and then the run is over: what the requests
before it did stays done, and nothing else is. So the states in which interrupted runs leave a
server are those after the beginnings of the whole run's requests, and a statement about all of
them is one about what each request of the whole run does.
-/

import SignalBoard.Proofs.Plan.Outcome

namespace SignalBoard

/-- The server that refuses the request at a place, counted from zero, and answers the others.
Besides its state it keeps how many requests there were. -/
def Server.interrupted {σ : Type} (server : Server σ) (place : Nat) (fault : Fault) :
    Server (σ × Nat) :=
  fun request (state, sent) =>
    if sent = place then (.error fault, state, sent + 1)
    else
      let (outcome, state) := server request state
      (outcome, state, sent + 1)

/-- The state of a server after some requests, whatever became of them. -/
def Server.after {σ : Type} (server : Server σ) (requests : List Request) (state : σ) : σ :=
  requests.foldl (fun state request => (server request state).2) state

/-- What every request keeps, told of the requests that were sent before it, holds after all of
them. -/
theorem Server.after_keeps {σ : Type} {server : Server σ} {invariant : List Request → σ → Prop}
    {requests sent : List Request} {state : σ}
    (step : ∀ request ∈ requests, ∀ sent state, invariant sent state →
      invariant (sent ++ [request]) (server request state).2)
    (holds : invariant sent state) :
    invariant (sent ++ requests) (server.after requests state) := by
  induction requests generalizing sent state with
  | nil => simpa [Server.after]
  | cons request rest ih =>
      have kept := step request List.mem_cons_self sent state holds
      have later := ih (fun other member => step other (.tail _ member)) kept
      simpa [Server.after] using later

namespace Plan

variable {σ α β : Type} {server : Server σ} {answer : Question → Bool} {state : σ}

/-- The requests of consecutive plans, when the first ends with a value. -/
theorem requests_bind {plan : Plan α} {rest : α → Plan β} {value : α}
    (ended : (plan.run server answer state).result = .ok value) :
    ((plan >>= rest).run server answer state).requests =
      (plan.run server answer state).requests ++
        ((rest value).run server answer (plan.run server answer state).state).requests := by
  have whole := run_andThen server answer plan rest state
  simp only [ended] at whole
  exact congrArg Run.requests whole

theorem run_call_ok {request : Request} {next : Json → Plan α} {reply : Json} {after : σ}
    (answered : server request state = (.ok reply, after)) :
    (call request next).run server answer state =
      let rest := (next reply).run server answer after
      { rest with requests := request :: rest.requests } := by
  simp [run, answered]

theorem run_call_error {request : Request} {next : Json → Plan α} {fault : Fault} {after : σ}
    (refused : server request state = (.error fault, after)) :
    (call request next).run server answer state =
      { result := .error fault, state := after, requests := [request] } := by
  simp [run, refused]

/-- A request comes before whatever follows on its answer. -/
theorem exists_requests_call (request : Request) (next : Json → Plan α) :
    ∃ rest, ((call request next).run server answer state).requests = request :: rest := by
  rcases answered : server request state with ⟨fault | reply, after⟩ <;>
    simp [run, answered]

/-- A replacement is one request, whatever is answered. -/
theorem requests_put (path : String) (body : Json) :
    ((put path body).run server answer state).requests = [.put path body] := by
  rcases answered : server (.put path body) state with ⟨fault | reply, after⟩ <;>
    simp [put, run, answered]

/-- A run that is interrupted before its end fails with what it was refused with, in the state after
the requests before. -/
theorem run_interrupted (plan : Plan α) (fault : Fault) (sent : Nat) {place : Nat}
    (early : place < (plan.run server answer state).requests.length) :
    let run := plan.run (server.interrupted (sent + place) fault) answer (state, sent)
    run.result = .error fault ∧
      run.state.1 = server.after ((plan.run server answer state).requests.take place) state := by
  induction plan generalizing state sent place with
  | done value => simp [run] at early
  | fail other => simp [run] at early
  | call request next ih =>
      cases place with
      | zero => simp [run, Server.interrupted, Server.after]
      | succ place =>
          have notYet : sent ≠ sent + (place + 1) := by omega
          rcases answered : server request state with ⟨refusal | reply, after⟩
          · simp [run, answered] at early
          · simp only [run, answered, List.length_cons, Nat.add_lt_add_iff_right] at early
            have rest := ih reply (sent + 1) early
            rw [show sent + 1 + place = sent + (place + 1) by omega] at rest
            simpa only [run, Server.interrupted, if_neg notYet, answered, List.take_succ_cons,
              Server.after, List.foldl_cons] using rest
  | ask question next ih => exact ih (answer question) sent early

/-- The plan fails, and the state is as it was. -/
structure Fails (server : Server σ) (answer : Question → Bool) (plan : Plan α) (state : σ)
    (fault : Fault) : Prop where
  result : (plan.run server answer state).result = .error fault
  state : (plan.run server answer state).state = state

variable {fault : Fault}

theorem Fails.not_isOk {plan : Plan α} {state : σ} (fails : Fails server answer plan state fault) :
    ¬ (plan.run server answer state).result.isOk := by
  rw [fails.result]
  exact Bool.false_ne_true

/-- A request that is refused. -/
theorem fails_call {request : Request} {next : Json → Plan α}
    (refused : server request state = (.error fault, state)) :
    Fails server answer (call request next) state fault := by
  constructor <;> simp [run, refused]

/-- Nothing follows a plan that fails. -/
theorem Fails.bind {plan : Plan α} (fails : Fails server answer plan state fault)
    (rest : α → Plan β) : Fails server answer (plan >>= rest) state fault := by
  have whole := run_andThen server answer plan rest state
  simp only [fails.result] at whole
  exact ⟨congrArg Run.result whole, (congrArg Run.state whole).trans fails.state⟩

/-- A plan that leaves the state alone, and then one that fails. -/
theorem fails_bind {plan : Plan α} {rest : α → Plan β} {value : α}
    (first : Ensures server answer plan state fun found after => found = value ∧ after = state)
    (second : Fails server answer (rest value) state fault) :
    Fails server answer (plan >>= rest) state fault := by
  obtain ⟨_, ended, rfl, still⟩ := first
  have whole := run_andThen server answer plan rest state
  simp only [ended, still] at whole
  exact ⟨(congrArg Run.result whole).trans second.result,
    (congrArg Run.state whole).trans second.state⟩

end Plan

end SignalBoard
