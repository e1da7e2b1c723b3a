/-
# Plans that go by what they are told

What a plan sends may depend on its replies, and then it is right only as far as these are. Here a
plan is judged against every server whose replies are honest, whatever else that server does: a
request must be allowed, and a value as promised, on each branch that honest replies lead to. A run
on a server that is honest in the states it gets into sends nothing else.
-/

import SignalBoard.Api.Server
import SignalBoard.Reconcile.Lookup

namespace SignalBoard.Plan

variable {σ ι α β : Type} {honest : Request → Json → Prop} {allowed : Request → Prop}
  {plan : Plan α}

/-- As long as the replies are honest, the plan sends only what is allowed and ends only with what
is promised. -/
def Relies (honest : Request → Json → Prop) (allowed : Request → Prop) :
    Plan α → (α → Prop) → Prop
  | done value, promise => promise value
  | fail _, _ => True
  | call request next, promise =>
      allowed request ∧ ∀ reply, honest request reply → (next reply).Relies honest allowed promise
  | ask _ next, promise => ∀ answer, (next answer).Relies honest allowed promise

theorem relies_pure {promise : α → Prop} {value : α} (holds : promise value) :
    (pure value : Plan α).Relies honest allowed promise := holds

theorem relies_call {request : Request} {next : Json → Plan α} {promise : α → Prop}
    (admitted : allowed request)
    (rest : ∀ reply, honest request reply → (next reply).Relies honest allowed promise) :
    (call request next).Relies honest allowed promise := ⟨admitted, rest⟩

theorem Relies.mono {promise weaker : α → Prop} (relies : plan.Relies honest allowed promise)
    (weaken : ∀ value, promise value → weaker value) : plan.Relies honest allowed weaker := by
  induction plan with
  | done value => exact weaken value relies
  | fail fault => trivial
  | call request next ih => exact ⟨relies.1, fun reply told => ih reply (relies.2 reply told)⟩
  | ask question next ih => exact fun answer => ih answer (relies answer)

theorem relies_bind {rest : α → Plan β} {middle : α → Prop} {promise : β → Prop}
    (first : plan.Relies honest allowed middle)
    (second : ∀ value, middle value → (rest value).Relies honest allowed promise) :
    (plan >>= rest).Relies honest allowed promise := by
  show (plan.andThen rest).Relies honest allowed promise
  induction plan with
  | done value => exact second value first
  | fail fault => trivial
  | call request next ih => exact ⟨first.1, fun reply told => ih reply (first.2 reply told)⟩
  | ask question next ih => exact fun answer => ih answer (first answer)

/-- A loop that collects values: each of them is as promised. -/
theorem relies_mapM {act : ι → Plan α} {promise : α → Prop} {items : List ι}
    (each : ∀ item ∈ items, (act item).Relies honest allowed promise) :
    (items.mapM act).Relies honest allowed (fun values => ∀ value ∈ values, promise value) := by
  induction items with
  | nil => exact relies_pure (by simp)
  | cons item rest ih =>
      rw [List.mapM_cons]
      apply relies_bind (each item List.mem_cons_self)
      intro value holds
      apply relies_bind (ih fun other later => each other (.tail _ later))
      intro values promised
      exact relies_pure (List.forall_mem_cons.mpr ⟨holds, promised⟩)

theorem relies_forM {act : ι → Plan Unit} {items : List ι}
    (each : ∀ item ∈ items, (act item).Relies honest allowed fun _ => True) :
    (items.forM act).Relies honest allowed fun _ => True := by
  induction items with
  | nil => exact relies_pure trivial
  | cons item rest ih =>
      apply relies_bind (each item List.mem_cons_self)
      exact fun _ _ => ih fun other later => each other (.tail _ later)

theorem relies_checked (outcome : Checked α) :
    (checked outcome).Relies honest allowed (outcome = .ok ·) := by
  cases outcome with
  | ok value => rfl
  | error cause => trivial

theorem relies_requireId (document : Json) :
    (requireId document).Relies honest allowed (document.id? = some ·) := by
  unfold requireId
  split
  case h_1 id identified => exact identified
  case h_2 => trivial

/-- Assigning sends nothing. -/
theorem relies_assign (key : String) (value document : Json) :
    (assign key value document).Relies honest allowed (document.assign key value = .ok ·) := by
  unfold assign
  split
  case h_1 changed assigned => exact assigned
  case h_2 => trivial

/-- What is found by a name is in the reply to the search. -/
theorem relies_findUnique {kind : Kind} {name : String} (admitted : allowed (.search kind name)) :
    (findUnique kind name).Relies honest allowed fun found => ∀ document, found = some document →
      ∃ reply, honest (.search kind name) reply ∧ document ∈ reply.items := by
  refine ⟨admitted, fun reply told => ?_⟩
  dsimp only [Plan.andThen]
  rcases found : matching name reply.items with _ | ⟨document, _ | ⟨other, rest⟩⟩
  · exact relies_pure nofun
  · apply relies_pure
    rintro _ ⟨⟩
    have member : document ∈ matching name reply.items := by simp [found]
    exact ⟨reply, told, (List.mem_filter.mp member).1⟩
  · trivial

/-- Whether a name is taken is found out by a search. -/
theorem relies_guardCreate {kind : Kind} {name : String} (options : CreateOptions)
    (admitted : allowed (.search kind name)) :
    (guardCreate kind name options).Relies honest allowed fun _ => True := by
  unfold guardCreate
  split
  case isTrue => trivial
  case isFalse =>
    have search : (findMatches kind name).Relies honest allowed fun _ => True :=
      ⟨admitted, fun _ _ => trivial⟩
    apply relies_bind search
    intro found _
    split
    · trivial
    split
    · intro consent
      cases consent <;> trivial
    · split <;> trivial

/-- On a server whose replies are honest in the states it gets into, a run sends only what is
allowed. -/
theorem Relies.requests {server : Server σ} {answer : Question → Bool} {promise : α → Prop}
    {invariant : σ → Prop} (relies : plan.Relies honest allowed promise)
    (step : ∀ request state, invariant state → invariant (server request state).2)
    (tells : ∀ request state reply after, invariant state →
      server request state = (.ok reply, after) → honest request reply)
    {state : σ} (holds : invariant state) :
    ∀ request ∈ (plan.run server answer state).requests, allowed request := by
  induction plan generalizing state with
  | done value => simp [run]
  | fail fault => simp [run]
  | call request next ih =>
      have kept := step request state holds
      rcases answered : server request state with ⟨refusal | reply, after⟩
      · simpa [run, answered] using relies.1
      · rw [answered] at kept
        have told := tells request state reply after holds answered
        simpa [run, answered] using ⟨relies.1, ih reply (relies.2 reply told) kept⟩
  | ask question next ih => exact ih _ (relies _) holds

end SignalBoard.Plan
