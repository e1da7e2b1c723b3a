/-
# What plans come to if they succeed

A plan may fail for reasons that nothing is assumed about. What is promised then holds if the run
ends with a value. The rules follow the parts of a plan as they do for plans that cannot fail; a
request is followed under the assumption that it was answered, and a failure promises anything.
-/

import SignalBoard.Proofs.Plan.Outcome

namespace SignalBoard.Plan

variable {σ ι α β : Type} {server : Server σ} {answer : Question → Bool}

/-- If the plan ends with a value, the value and the state it leaves are as promised. -/
structure Yields (server : Server σ) (answer : Question → Bool) (plan : Plan α) (state : σ)
    (promise : α → σ → Prop) : Prop where
  promised : ∀ value, (plan.run server answer state).result = .ok value →
    promise value (plan.run server answer state).state

variable {plan : Plan α} {state : σ} {promise : α → σ → Prop}

/-- A plan that ends as promised does so if it ends. -/
theorem Ensures.yields (ensured : Ensures server answer plan state promise) :
    Yields server answer plan state promise := by
  obtain ⟨value, ended, holds⟩ := ensured
  constructor
  intro other endedToo
  obtain rfl := Except.ok.inj (ended.symm.trans endedToo)
  exact holds

/-- A run that has succeeded has a value. -/
theorem exists_value (succeeded : (plan.run server answer state).result.isOk) :
    ∃ value, (plan.run server answer state).result = .ok value := by
  cases ended : (plan.run server answer state).result with
  | error fault =>
      rw [ended] at succeeded
      cases succeeded
  | ok value => exact ⟨value, rfl⟩

/-- Once the run has succeeded, what is promised is so. -/
theorem Yields.of_isOk (yields : Yields server answer plan state promise)
    (succeeded : (plan.run server answer state).result.isOk) :
    ∃ value, promise value (plan.run server answer state).state := by
  obtain ⟨value, ended⟩ := exists_value succeeded
  exact ⟨value, yields.promised value ended⟩

/-- A plan without requests leaves the state alone. -/
theorem yields_pure {value : α} (holds : promise value state) :
    Yields server answer (pure value) state promise :=
  (ensures_pure holds).yields

/-- A plan that fails promises anything. -/
theorem yields_fail (fault : Fault) : Yields server answer (fail fault) state promise := by
  constructor
  intro value ended
  cases ended

/-- A promise may be weakened. -/
theorem Yields.mono {weaker : α → σ → Prop} (yields : Yields server answer plan state promise)
    (weaken : ∀ value after, promise value after → weaker value after) :
    Yields server answer plan state weaker :=
  ⟨fun value ended => weaken _ _ (yields.promised value ended)⟩

/-- Nothing need be promised. -/
theorem yields_true (plan : Plan α) (state : σ) :
    Yields server answer plan state fun _ _ => True := ⟨fun _ _ => trivial⟩

/-- Two promises about one run. -/
theorem Yields.and {also : α → σ → Prop} (yields : Yields server answer plan state promise)
    (yields' : Yields server answer plan state also) :
    Yields server answer plan state fun value after => promise value after ∧ also value after :=
  ⟨fun value ended => ⟨yields.promised value ended, yields'.promised value ended⟩⟩

/-- Consecutive plans: the second starts from what the first promises. -/
theorem yields_bind {rest : α → Plan β} {middle : α → σ → Prop} {promise : β → σ → Prop}
    (first : Yields server answer plan state middle)
    (second : ∀ value between, middle value between →
      Yields server answer (rest value) between promise) :
    Yields server answer (plan >>= rest) state promise := by
  constructor
  intro last ended
  have whole := run_andThen server answer plan rest state
  change ((plan.andThen rest).run server answer state).result = _ at ended
  show promise last ((plan.andThen rest).run server answer state).state
  cases outcome : (plan.run server answer state).result with
  | error fault =>
      simp only [outcome] at whole
      rw [whole] at ended
      cases ended
  | ok value =>
      simp only [outcome] at whole
      rw [whole] at ended ⊢
      exact (second value _ (first.promised value outcome)).promised last ended

/-- A request, if it is answered, and what follows on the answer. -/
theorem yields_call {request : Request} {next : Json → Plan α}
    (rest : ∀ reply after, server request state = (.ok reply, after) →
      Yields server answer (next reply) after promise) :
    Yields server answer (call request next) state promise := by
  constructor
  intro value ended
  rcases answered : server request state with ⟨fault | reply, after⟩
  · simp [run, answered] at ended
  · simp only [run, answered] at ended ⊢
    exact (rest reply after answered).promised value ended

/-- A promise together with what every answer of the server keeps. -/
theorem Yields.keeping {invariant : σ → Prop} (yields : Yields server answer plan state promise)
    (step : ∀ request state, invariant state → invariant (server request state).2)
    (holds : invariant state) :
    Yields server answer plan state fun value after => promise value after ∧ invariant after :=
  ⟨fun value ended => ⟨yields.promised value ended, run_keeps step plan holds⟩⟩

/-- What goes on with a value once this has passed its check. -/
theorem yields_checked_bind {outcome : Checked α} {rest : α → Plan β} {promise : β → σ → Prop}
    (goesOn : ∀ value, outcome = .ok value → Yields server answer (rest value) state promise) :
    Yields server answer (checked outcome >>= rest) state promise := by
  cases outcome with
  | ok value => exact goesOn value rfl
  | error cause => exact yields_fail _

/-- What a success tells of the state it started from may be assumed. -/
theorem Yields.assuming {fact : Prop} (tells : Yields server answer plan state fun _ _ => fact)
    (yields : fact → Yields server answer plan state promise) :
    Yields server answer plan state promise :=
  ⟨fun value ended => (yields (tells.promised value ended)).promised value ended⟩

variable {all items past : List ι} {found : List α}

/-- A loop that collects values. The invariant speaks of the items that are done and of the values
so far. -/
theorem yields_mapM {act : ι → Plan α} (invariant : List ι → List α → σ → Prop)
    (each : ∀ past item rest found state, past ++ item :: rest = all → invariant past found state →
      Yields server answer (act item) state
        fun value after => invariant (past ++ [item]) (found ++ [value]) after)
    (split : past ++ items = all) (holds : invariant past found state) :
    Yields server answer (items.mapM act) state
      fun values after => invariant all (found ++ values) after := by
  induction items generalizing past found state with
  | nil =>
      rw [List.mapM_nil]
      apply yields_pure
      rw [List.append_nil] at split ⊢
      rwa [← split]
  | cons item rest ih =>
      rw [List.mapM_cons]
      apply yields_bind (each past item rest found state split holds)
      intro value between holds
      apply yields_bind (ih (by simpa using split) holds)
      intro values after holds
      exact yields_pure (by simpa using holds)

/-- A loop that collects values of which something is true from then on, whatever else it does. -/
theorem yields_mapM_lasting {act : ι → Plan α} {invariant : σ → Prop} {lasting : α → σ → Prop}
    (each : ∀ item ∈ items, ∀ state, invariant state → Yields server answer (act item) state
      fun value after => invariant after ∧ lasting value after ∧
        ∀ other, lasting other state → lasting other after)
    (holds : invariant state) :
    Yields server answer (items.mapM act) state
      fun values after => invariant after ∧ ∀ value ∈ values, lasting value after := by
  apply yields_mapM (fun _ values after => invariant after ∧ ∀ value ∈ values, lasting value after)
    ?_ (List.nil_append items) ⟨holds, fun _ none => absurd none List.not_mem_nil⟩
  rintro past item rest values state split ⟨holds, sofar⟩
  apply (each item (by simp [← split]) state holds).mono
  rintro value after ⟨holds, last, keeps⟩
  refine ⟨holds, fun other member => ?_⟩
  rcases List.mem_append.mp member with earlier | now
  · exact keeps other (sofar other earlier)
  · rwa [List.mem_singleton.mp now]

/-- A loop that collects nothing. The invariant speaks of the items that are done. -/
theorem yields_forM {act : ι → Plan Unit} (invariant : List ι → σ → Prop)
    (each : ∀ past item rest state, past ++ item :: rest = all → invariant past state →
      Yields server answer (act item) state fun _ after => invariant (past ++ [item]) after)
    (split : past ++ items = all) (holds : invariant past state) :
    Yields server answer (items.forM act) state fun _ after => invariant all after := by
  induction items generalizing past state with
  | nil =>
      apply yields_pure
      rw [List.append_nil] at split
      rwa [← split]
  | cons item rest ih =>
      show Yields server answer (act item >>= fun _ => rest.forM act) state _
      apply yields_bind (each past item rest state split holds)
      intro _ between holds
      exact ih (by simpa using split) holds

end SignalBoard.Plan
