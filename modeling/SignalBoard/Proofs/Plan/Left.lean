/-
# What runs leave, however they end

A run that fails half way leaves a state too, and some things should hold of every state that is
left. The rules follow the parts of a plan: what the first part leaves must do in case it fails, and
if it does not fail, the rest goes on from what it promises.
-/

import SignalBoard.Proofs.Plan.Partial
import SignalBoard.Proofs.Plan.Within

namespace SignalBoard.Plan

variable {σ ι α β : Type} {server : Server σ} {answer : Question → Bool} {state : σ}
  {safe : σ → Prop}

/-- Whether the run of the plan fails or not, the state it leaves is a safe one. -/
def Leaves (server : Server σ) (answer : Question → Bool) (plan : Plan α) (state : σ)
    (safe : σ → Prop) : Prop :=
  safe (plan.run server answer state).state

/-- A plan without requests leaves the state alone. -/
theorem leaves_pure {value : α} (holds : safe state) :
    Leaves server answer (pure value) state safe :=
  holds

/-- Consecutive plans: the first leaves what is safe, and so does the second after what the first
promises. -/
theorem leaves_bind {plan : Plan α} {rest : α → Plan β} {middle : α → σ → Prop}
    (first : Leaves server answer plan state safe)
    (yields : Yields server answer plan state middle)
    (second : ∀ value between, middle value between →
      Leaves server answer (rest value) between safe) :
    Leaves server answer (plan >>= rest) state safe := by
  have whole := run_andThen server answer plan rest state
  show safe ((plan.andThen rest).run server answer state).state
  cases outcome : (plan.run server answer state).result with
  | error fault =>
      simp only [outcome] at whole
      rw [whole]
      exact first
  | ok value =>
      simp only [outcome] at whole
      rw [whole]
      exact second value _ (yields.promised value outcome)

/-- A value that has to pass its check first. -/
theorem leaves_checked {outcome : Checked α} {rest : α → Plan β} (holds : safe state)
    (passes : ∀ value, outcome = .ok value → Leaves server answer (rest value) state safe) :
    Leaves server answer (checked outcome >>= rest) state safe := by
  cases outcome with
  | error cause => exact holds
  | ok value => exact passes value rfl

/-- A request that is answered, and what follows on the answer. -/
theorem leaves_call {request : Request} {next : Json → Plan α} {after : σ} {reply : Json}
    (answered : server request state = (.ok reply, after))
    (rest : Leaves server answer (next reply) after safe) :
    Leaves server answer (call request next) state safe := by
  simpa only [Leaves, run, answered] using rest

/-- The last request of a plan, whether it is answered or refused. -/
theorem leaves_last {request : Request} {value : Json → α} (holds : safe (server request state).2) :
    Leaves server answer (call request fun reply => done (value reply)) state safe := by
  rcases answered : server request state with ⟨fault | reply, after⟩ <;>
    simpa only [Leaves, run, answered] using holds

/-- A plan that ends as promised leaves what is promised. -/
theorem Ensures.leaves {plan : Plan α} {promise : α → σ → Prop}
    (ensured : Ensures server answer plan state promise)
    (isSafe : ∀ value after, promise value after → safe after) :
    Leaves server answer plan state safe := by
  obtain ⟨value, -, promised⟩ := ensured
  exact isSafe value _ promised

/-- A plan that keeps what is safe, and then one that does. -/
theorem Leaves.bind {plan : Plan α} {rest : α → Plan β}
    (first : Leaves server answer plan state safe)
    (second : ∀ value between, safe between → Leaves server answer (rest value) between safe) :
    Leaves server answer (plan >>= rest) state safe :=
  leaves_bind first ⟨fun _ _ => first⟩ second

/-- An identifier that has to be there first. -/
theorem leaves_requireId {document : Json} {rest : String → Plan α} (holds : safe state)
    (found : ∀ id, Leaves server answer (rest id) state safe) :
    Leaves server answer (requireId document >>= rest) state safe := by
  unfold requireId
  cases document.id? with
  | none => exact holds
  | some id => exact found id

/-- A loop that collects values, each turn of which keeps what is safe. -/
theorem leaves_mapM {act : ι → Plan α} {items : List ι}
    (each : ∀ item ∈ items, ∀ state, safe state → Leaves server answer (act item) state safe)
    (holds : safe state) : Leaves server answer (items.mapM act) state safe := by
  induction items generalizing state with
  | nil =>
      rw [List.mapM_nil]
      exact leaves_pure holds
  | cons item rest ih =>
      rw [List.mapM_cons]
      apply (each item List.mem_cons_self state holds).bind
      intro value between holds
      apply (ih (fun other later => each other (.tail _ later)) holds).bind
      exact fun _ _ holds => leaves_pure holds

/-- What a run leaves in any case it leaves if it succeeds. -/
theorem Leaves.yields {plan : Plan α} (leaves : Leaves server answer plan state safe) :
    Yields server answer plan state fun _ after => safe after :=
  ⟨fun _ _ => leaves⟩

/-- A plan that sends only requests that are safe. -/
theorem Sends.leaves {allowed : Request → Prop} {plan : Plan α} (sends : Sends allowed plan)
    (step : ∀ request state, allowed request → safe state → safe (server request state).2)
    (holds : safe state) : Leaves server answer plan state safe :=
  run_keeps_of_requests step plan (sends.requests state) holds

end SignalBoard.Plan
