/-
# What plans come to, and by which requests

Sometimes it matters not only what a run leaves but that certain requests were never sent on the
way. Where a part of a plan sends only requests of some sort on every server, nothing needs to be
said of its run but what it comes to; parts that are put together keep to what each of them sends.
-/

import SignalBoard.Proofs.Plan.Outcome
import SignalBoard.Proofs.Plan.Trace

namespace SignalBoard

/-- The request neither creates nor deletes. -/
def Request.Gentle (request : Request) : Prop :=
  request.method ≠ "POST" ∧ request.method ≠ "DELETE"

theorem Request.gentle_search (kind : Kind) (name : String) : (search kind name).Gentle := by
  simp [Gentle, method]

theorem Request.gentle_get (path : String) : (get path).Gentle := by simp [Gentle, method]

theorem Request.gentle_put (path : String) (body : Json) : (put path body).Gentle := by
  simp [Gentle, method]

namespace Plan

variable {σ ι α β : Type} {server : Server σ} {answer : Question → Bool}
  {allowed : Request → Prop} {plan : Plan α}

/-- Whatever the plan is answered, it sends only requests that are allowed. -/
def Sends (allowed : Request → Prop) (plan : Plan α) : Prop :=
  ∀ history, plan.Guarded (fun _ request => allowed request) (fun _ _ => True) history

/-- More may be allowed. -/
theorem Sends.mono {admitted : Request → Prop} (sends : Sends allowed plan)
    (admits : ∀ request, allowed request → admitted request) : Sends admitted plan :=
  fun history => (sends history).weaken fun _ request => admits request

theorem sends_pure (value : α) : Sends allowed (pure value : Plan α) := fun _ => trivial

theorem sends_call {request : Request} {next : Json → Plan α} (admitted : allowed request)
    (rest : ∀ reply, Sends allowed (next reply)) : Sends allowed (call request next) :=
  fun _ => ⟨admitted, fun reply => rest reply _⟩

theorem sends_bind {rest : α → Plan β} (first : Sends allowed plan)
    (second : ∀ value, Sends allowed (rest value)) : Sends allowed (plan >>= rest) :=
  fun history => guarded_bind (first history) fun value between _ => second value between

theorem sends_findUnique {kind : Kind} {name : String} (admitted : allowed (.search kind name)) :
    Sends allowed (findUnique kind name) := by
  apply sends_bind
  · apply sends_bind (sends_call admitted fun _ => sends_pure _)
    exact fun _ => sends_pure _
  · intro found history
    split <;> trivial

theorem sends_requireUnique {kind : Kind} {name : String} (admitted : allowed (.search kind name)) :
    Sends allowed (requireUnique kind name) := by
  apply sends_bind (sends_findUnique admitted)
  intro found history
  cases found <;> trivial

/-- Asking a document for its identifier sends nothing. -/
theorem sends_requireId {document : Json} {rest : String → Plan α}
    (sends : ∀ id, Sends allowed (rest id)) : Sends allowed (requireId document >>= rest) :=
  fun history => guarded_requireId fun id _ => sends id history

/-- Whether a name is taken is found out by a search. -/
theorem sends_guardCreate {kind : Kind} {name : String} {options : CreateOptions}
    (admitted : allowed (.search kind name)) : Sends allowed (guardCreate kind name options) := by
  unfold guardCreate
  split
  case isTrue => exact sends_pure ()
  case isFalse =>
    apply sends_bind
    · exact sends_bind (sends_call admitted fun _ => sends_pure _) fun _ => sends_pure _
    intro found history
    split
    · trivial
    split
    · intro consent
      cases consent <;> trivial
    · split <;> trivial

theorem sends_checked (outcome : Checked α) : Sends allowed (checked outcome) := by
  cases outcome <;> exact fun _ => trivial

theorem sends_mapM {act : ι → Plan α} {items : List ι} (each : ∀ item, Sends allowed (act item)) :
    Sends allowed (items.mapM act) :=
  fun _ => guarded_mapM (fun _ _ _ => True) [] []
    (fun item _ _ _ history _ => each item history) trivial

theorem sends_forM {act : ι → Plan Unit} {items : List ι}
    (each : ∀ item ∈ items, Sends allowed (act item)) : Sends allowed (items.forM act) :=
  fun _ => guarded_forM (fun _ _ => True) []
    (fun item member _ history _ => each item member history) trivial

/-- What a plan sends is allowed, so its exchanges are. -/
theorem Sends.grown (sends : Sends allowed plan) (history : History) :
    plan.Guarded (fun _ _ => True) (fun _ after => history.Grown allowed after) history := by
  have grown := (sends history).grown fun _ _ admitted => admitted
  exact (grown.mono fun _ _ promised => promised.2).weaken fun _ _ _ => trivial

/-- A loop that collects values takes its turns in the exchanges. -/
theorem guarded_mapM_turns {act : ι → Plan α} {turn : ι → α → History → History → Prop}
    {guard : History → Request → Prop} :
    ∀ {items : List ι} {history : History}, (∀ item ∈ items, ∀ history,
      (act item).Guarded guard (fun value after => turn item value history after) history) →
    (items.mapM act).Guarded guard
      (fun values after => Turns turn items values history after) history
  | [], _, _ => guarded_pure .nil
  | item :: rest, history, each => by
      rw [List.mapM_cons]
      apply guarded_bind (each item List.mem_cons_self history)
      intro value between head
      apply guarded_bind (guarded_mapM_turns fun other later => each other (.tail _ later))
      exact fun values after tail => guarded_pure (.cons head tail)

/-- A plan that sends only what is allowed does so in every run. -/
theorem Sends.requests (sends : Sends allowed plan) (state : σ) :
    ∀ request ∈ (plan.run server answer state).requests, allowed request := by
  intro request sent
  rw [← map_fst_trace, List.mem_map] at sent
  obtain ⟨⟨request, outcome⟩, member, rfl⟩ := sent
  obtain ⟨before, after, split⟩ := List.append_of_mem member
  obtain ⟨_, -, admitted⟩ := (sends []).admits split
  exact admitted

/-- The plan ends as promised, and the run sends only requests that are allowed. -/
structure EnsuresWithin (allowed : Request → Prop) (server : Server σ) (answer : Question → Bool)
    (plan : Plan α) (state : σ) (promise : α → σ → Prop) : Prop where
  ensures : Ensures server answer plan state promise
  within : ∀ request ∈ (plan.run server answer state).requests, allowed request

variable {state : σ} {promise : α → σ → Prop}

/-- A plan that ends as promised and sends only what is allowed anyway. -/
theorem Ensures.sending (ensured : Ensures server answer plan state promise)
    (sends : Sends allowed plan) : EnsuresWithin allowed server answer plan state promise :=
  ⟨ensured, sends.requests state⟩

/-- A promise may be weakened. -/
theorem EnsuresWithin.mono {weaker : α → σ → Prop}
    (ensured : EnsuresWithin allowed server answer plan state promise)
    (weaken : ∀ value after, promise value after → weaker value after) :
    EnsuresWithin allowed server answer plan state weaker :=
  ⟨ensured.ensures.mono weaken, ensured.within⟩

/-- Consecutive plans: the second starts from what the first promises. -/
theorem within_bind {rest : α → Plan β} {middle : α → σ → Prop} {promise : β → σ → Prop}
    (first : EnsuresWithin allowed server answer plan state middle)
    (second : ∀ value between, middle value between →
      EnsuresWithin allowed server answer (rest value) between promise) :
    EnsuresWithin allowed server answer (plan >>= rest) state promise := by
  refine ⟨ensures_bind first.ensures
    fun value between holds => (second value between holds).ensures, ?_⟩
  obtain ⟨value, ended, holds⟩ := first.ensures
  have whole := run_andThen server answer plan rest state
  simp only [ended] at whole
  intro request sent
  change request ∈ ((plan.andThen rest).run server answer state).requests at sent
  rw [whole, List.mem_append] at sent
  cases sent with
  | inl early => exact first.within request early
  | inr late => exact (second value _ holds).within request late

/-- A promise together with what every answer of the server keeps. -/
theorem EnsuresWithin.keeping {invariant : σ → Prop}
    (ensured : EnsuresWithin allowed server answer plan state promise)
    (step : ∀ request state, invariant state → invariant (server request state).2)
    (holds : invariant state) :
    EnsuresWithin allowed server answer plan state
      fun value after => promise value after ∧ invariant after :=
  ⟨ensured.ensures.keeping step holds, ensured.within⟩

/-- A loop in which every turn gives a value that is known in advance, and keeps an invariant. -/
theorem within_mapM {act : ι → Plan α} {invariant : σ → Prop} {items : List ι} {values : List α}
    (each : List.Forall₂ (fun item value => ∀ state, invariant state →
      EnsuresWithin allowed server answer (act item) state
        fun found after => found = value ∧ invariant after) items values)
    (holds : invariant state) :
    EnsuresWithin allowed server answer (items.mapM act) state
      fun found after => found = values ∧ invariant after := by
  induction each generalizing state with
  | nil => exact (ensures_pure ⟨rfl, holds⟩).sending (sends_pure _)
  | cons head _ ih =>
      rw [List.mapM_cons]
      apply within_bind (head state holds)
      rintro _ between ⟨rfl, holds⟩
      apply within_bind (ih holds)
      rintro _ after ⟨rfl, holds⟩
      exact (ensures_pure ⟨rfl, holds⟩).sending (sends_pure _)

end Plan

end SignalBoard
