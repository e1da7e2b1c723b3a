/-
# What plans come to

A statement about a plan that cannot fail says two things: the run ends with a value, and the
value and the state left behind are as promised. The rules below follow the parts of a plan, so
a promise about an operation is put together from promises about its requests. What every answer
of a server keeps, every run keeps too.
-/

import Mathlib.Data.List.Basic
import SignalBoard.Api.Server

namespace SignalBoard.Plan

variable {σ ι α β : Type} {server : Server σ} {answer : Question → Bool}

/-- The plan ends with a value, and the value and the state it leaves are as promised. -/
def Ensures (server : Server σ) (answer : Question → Bool) (plan : Plan α) (state : σ)
    (promise : α → σ → Prop) : Prop :=
  ∃ value, (plan.run server answer state).result = .ok value ∧
    promise value (plan.run server answer state).state

theorem Ensures.isOk {plan : Plan α} {state : σ} {promise : α → σ → Prop}
    (ensured : Ensures server answer plan state promise) :
    (plan.run server answer state).result.isOk := by
  obtain ⟨value, ended, -⟩ := ensured
  rw [ended]
  rfl

/-- A plan without requests leaves the state alone. -/
theorem ensures_pure {value : α} {state : σ} {promise : α → σ → Prop}
    (holds : promise value state) : Ensures server answer (pure value) state promise :=
  ⟨value, rfl, holds⟩

/-- A promise may be weakened. -/
theorem Ensures.mono {plan : Plan α} {state : σ} {promise weaker : α → σ → Prop}
    (ensured : Ensures server answer plan state promise)
    (weaken : ∀ value after, promise value after → weaker value after) :
    Ensures server answer plan state weaker := by
  obtain ⟨value, ended, holds⟩ := ensured
  exact ⟨value, ended, weaken _ _ holds⟩

/-- Consecutive plans: the second starts from what the first promises. -/
theorem ensures_bind {plan : Plan α} {rest : α → Plan β} {state : σ} {middle : α → σ → Prop}
    {promise : β → σ → Prop} (first : Ensures server answer plan state middle)
    (second : ∀ value between, middle value between →
      Ensures server answer (rest value) between promise) :
    Ensures server answer (plan >>= rest) state promise := by
  obtain ⟨value, ended, holds⟩ := first
  obtain ⟨last, endedToo, promised⟩ := second value _ holds
  have whole := run_andThen server answer plan rest state
  simp only [ended] at whole
  refine ⟨last, ?_, ?_⟩
  · change ((plan.andThen rest).run server answer state).result = _
    rw [whole]
    exact endedToo
  · change promise last ((plan.andThen rest).run server answer state).state
    rw [whole]
    exact promised

/-- A request that is answered, and what follows on the answer. -/
theorem ensures_call {request : Request} {next : Json → Plan α} {state after : σ} {reply : Json}
    {promise : α → σ → Prop} (answered : server request state = (.ok reply, after))
    (rest : Ensures server answer (next reply) after promise) :
    Ensures server answer (call request next) state promise := by
  obtain ⟨value, ended, holds⟩ := rest
  refine ⟨value, ?_, ?_⟩ <;> simpa only [run, answered]

/-- Reading something for every item of a list. -/
theorem ensures_mapM {read : ι → Plan α} {found : ι → α} {state : σ} :
    ∀ {items : List ι}, (∀ item ∈ items, Ensures server answer (read item) state
      fun value after => value = found item ∧ after = state) →
    Ensures server answer (items.mapM read) state
      fun values after => values = items.map found ∧ after = state
  | [], _ => ensures_pure ⟨rfl, rfl⟩
  | item :: rest, each => by
      rw [List.mapM_cons]
      refine ensures_bind (each item List.mem_cons_self) ?_
      rintro _ _ ⟨rfl, rfl⟩
      refine ensures_bind (ensures_mapM fun other later => each other (.tail _ later)) ?_
      rintro _ _ ⟨rfl, rfl⟩
      exact ensures_pure ⟨rfl, rfl⟩

/-- What the answers to the requests of a run keep, the run keeps. -/
theorem run_keeps_of_requests {invariant : σ → Prop} {allowed : Request → Prop}
    (step : ∀ request state, allowed request → invariant state →
      invariant (server request state).2)
    (plan : Plan α) {state : σ}
    (within : ∀ request ∈ (plan.run server answer state).requests, allowed request)
    (holds : invariant state) : invariant (plan.run server answer state).state := by
  induction plan generalizing state with
  | done value => exact holds
  | fail fault => exact holds
  | call request next ih =>
      have kept := step request state
      simp only [run] at within ⊢
      rcases answered : server request state with ⟨reply | reply, after⟩
      · simp only [answered, List.mem_singleton, forall_eq] at within kept ⊢
        exact kept within holds
      · simp only [answered, List.forall_mem_cons] at within kept ⊢
        exact ih reply within.2 (kept within.1 holds)
  | ask question next ih => exact ih (answer question) within holds

/-- What every answer of a server keeps, every run keeps. -/
theorem run_keeps {invariant : σ → Prop}
    (step : ∀ request state, invariant state → invariant (server request state).2)
    (plan : Plan α) {state : σ} (holds : invariant state) :
    invariant (plan.run server answer state).state :=
  run_keeps_of_requests (fun request state _ => step request state) plan (fun _ _ => trivial) holds

/-- A promise together with what every answer of the server keeps. -/
theorem Ensures.keeping {invariant : σ → Prop} {plan : Plan α} {state : σ}
    {promise : α → σ → Prop} (ensured : Ensures server answer plan state promise)
    (step : ∀ request state, invariant state → invariant (server request state).2)
    (holds : invariant state) :
    Ensures server answer plan state fun value after => promise value after ∧ invariant after := by
  obtain ⟨value, ended, promised⟩ := ensured
  exact ⟨value, ended, promised, run_keeps step plan holds⟩

/-- The turns of a loop: every item in turn takes the state further and leaves a value. -/
inductive Turns (turn : ι → α → σ → σ → Prop) : List ι → List α → σ → σ → Prop where
  | nil {state : σ} : Turns turn [] [] state state
  | cons {item : ι} {items : List ι} {value : α} {values : List α} {before between after : σ}
      (head : turn item value before between) (tail : Turns turn items values between after) :
      Turns turn (item :: items) (value :: values) before after

variable {turn : ι → α → σ → σ → Prop} {invariant : σ → Prop}

/-- A loop that collects values takes its turns, when every turn can be taken in a state that
earlier turns may have left. -/
theorem ensures_mapM_turns {act : ι → Plan α} :
    ∀ {items : List ι} {state : σ}, (∀ item ∈ items, ∀ state, invariant state →
      Ensures server answer (act item) state
        fun value after => turn item value state after ∧ invariant after) →
    invariant state → Ensures server answer (items.mapM act) state
      fun values after => Turns turn items values state after ∧ invariant after
  | [], _, _, holds => ensures_pure ⟨.nil, holds⟩
  | item :: rest, state, each, holds => by
      rw [List.mapM_cons]
      refine ensures_bind (each item List.mem_cons_self state holds) ?_
      rintro value between ⟨head, holds⟩
      refine ensures_bind
        (ensures_mapM_turns (fun other later => each other (.tail _ later)) holds) ?_
      rintro values after ⟨tail, holds⟩
      exact ensures_pure ⟨.cons head tail, holds⟩

/-- A loop that collects nothing takes its turns as well. -/
theorem ensures_forM_turns {act : ι → Plan Unit} :
    ∀ {items : List ι} {state : σ}, (∀ item ∈ items, ∀ state, invariant state →
      Ensures server answer (act item) state
        fun _ after => ∃ value, turn item value state after ∧ invariant after) →
    invariant state → Ensures server answer (items.forM act) state
      fun _ after => ∃ values, Turns turn items values state after ∧ invariant after
  | [], _, _, holds => ensures_pure ⟨[], .nil, holds⟩
  | item :: rest, state, each, holds => by
      change Ensures server answer (act item >>= fun _ => rest.forM act) state _
      refine ensures_bind (each item List.mem_cons_self state holds) ?_
      rintro _ between ⟨value, head, holds⟩
      refine (ensures_forM_turns (fun other later => each other (.tail _ later)) holds).mono ?_
      rintro _ after ⟨values, tail, holds⟩
      exact ⟨value :: values, .cons head tail, holds⟩

variable {all items past : List ι} {found : List α}

/-- A loop that collects values and cannot fail. The invariant speaks of the items that are done and
of the values so far. -/
theorem ensures_mapM_past {act : ι → Plan α} (invariant : List ι → List α → σ → Prop)
    (each : ∀ past item rest found state, past ++ item :: rest = all → invariant past found state →
      Ensures server answer (act item) state
        fun value after => invariant (past ++ [item]) (found ++ [value]) after)
    (split : past ++ items = all) {state : σ} (holds : invariant past found state) :
    Ensures server answer (items.mapM act) state
      fun values after => invariant all (found ++ values) after := by
  induction items generalizing past found state with
  | nil =>
      rw [List.mapM_nil]
      apply ensures_pure
      rw [List.append_nil] at split ⊢
      rwa [← split]
  | cons item rest ih =>
      rw [List.mapM_cons]
      apply ensures_bind (each past item rest found state split holds)
      intro value between holds
      apply ensures_bind (ih (by simpa using split) holds)
      intro values after holds
      exact ensures_pure (by simpa using holds)

/-- A loop that collects nothing and cannot fail. The invariant speaks of the items that are
done. -/
theorem ensures_forM_past {act : ι → Plan Unit} (invariant : List ι → σ → Prop)
    (each : ∀ past item rest state, past ++ item :: rest = all → invariant past state →
      Ensures server answer (act item) state fun _ after => invariant (past ++ [item]) after)
    (split : past ++ items = all) {state : σ} (holds : invariant past state) :
    Ensures server answer (items.forM act) state fun _ after => invariant all after := by
  induction items generalizing past state with
  | nil =>
      apply ensures_pure
      rw [List.append_nil] at split
      rwa [← split]
  | cons item rest ih =>
      show Ensures server answer (act item >>= fun _ => rest.forM act) state _
      apply ensures_bind (each past item rest state split holds)
      intro _ between holds
      exact ih (by simpa using split) holds

end SignalBoard.Plan
