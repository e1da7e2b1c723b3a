/-
# A dry run beside the real one

A plan is run on a store, and a plan like it is run dry over the store as it was before. The two
go the same way as long as the real one does not fail: what the dry run notes is what the real
one changes, under the identifiers of the dry run. The store is not the same any more after the
first change, and the dry run does not see the change, so what the two read has to be related by
the operation itself.
-/

import SignalBoard.Proofs.DryRun.Answer

namespace SignalBoard.DryRun

variable {α β γ δ ι : Type} {answer : Question → Bool} {origin store : Store} {count : Nat}
  {run : DryRun}

/-- What an identifier is called in a dry run over a store, where the real run is given a number
of identifiers. -/
def dryName (origin : Store) (count : Nat) : String → String := rename (origin.freshIds count)

/-- An identifier that was given before the run is called the same in it. -/
theorem dryName_ident (origin : Store) (count : Nat) {n : Nat} (earlier : n ≤ origin.allocated) :
    dryName origin count (Store.ident n) = Store.ident n := by
  refine rename_of_not_mem fun fresh => ?_
  obtain ⟨m, same, later, -⟩ := (Store.mem_freshIds_iff ..).mp fresh
  have := Store.ident_inj same
  omega

/-- What does not begin like an identifier is none. -/
theorem dryName_of_head? (origin : Store) (count : Nat) {text : String}
    (different : text.toList.head? ≠ some 'i') : dryName origin count text = text := by
  refine rename_of_not_mem fun fresh => ?_
  obtain ⟨n, rfl, -⟩ := (Store.mem_freshIds_iff ..).mp fresh
  exact different (by simp [Store.ident, String.toList_append])

/-- Where something was stored before the run has the same path in it. -/
theorem renamePath_eq_self (sound : store.Sound) (earlier : store.allocated ≤ origin.allocated)
    (count : Nat) {path : String} {document : Json}
    (stored : store.documents.get? path = some document) :
    renamePath (dryName origin count) path = path := by
  obtain ⟨endpoint, n, rfl, -, -, given⟩ := sound.issued path document stored
  rw [renamePath_append _ _ (Store.slash_not_mem_ident n), dryName_ident _ _ (by omega)]

/-- The paths to which is posted hold no identifiers. -/
theorem renamePath_endpoint (origin : Store) (count : Nat) {endpoint : String}
    (known : endpoint ∈ [Kind.chart.endpoint, Kind.detector.endpoint, "/dashboard/simple"]) :
    renamePath (dryName origin count) endpoint = endpoint := by
  have last : ∀ before {segment : String}, '/' ∉ segment.toList → segment.toList.head? ≠ some 'i' →
      renamePath (dryName origin count) (before ++ "/" ++ segment) = before ++ "/" ++ segment := by
    intro before segment clean different
    rw [renamePath_append _ before clean, dryName_of_head? _ _ different]
  simp only [List.mem_cons, List.not_mem_nil, or_false] at known
  rcases known with rfl | rfl | rfl
  · exact @last "" "chart" (by decide) (by decide)
  · exact @last "" "detector" (by decide) (by decide)
  · exact @last "/dashboard" "simple" (by decide) (by decide)

/-- Since they began, the real run and the dry run have given equally many identifiers. -/
structure Mirrored (origin store : Store) (run : DryRun) : Prop where
  sound : store.Sound
  allocated : store.allocated = origin.allocated + run.allocated
  apart : run.Apart

/-- If the first plan ends with a value on the store and a number of identifiers was enough for
it, the second plan ends with a value in the dry run, which has noted what the first one changed,
and the values and the store are as promised. -/
def Mirrors (answer : Question → Bool) (origin : Store) (count : Nat) (plan : Plan α)
    (plan' : Plan β) (store : Store) (run : DryRun) (promise : α → β → Store → Prop) : Prop :=
  let real := plan.run Store.server answer store
  let dry := plan'.run (server Store.server) answer (origin, run)
  ∀ value, real.result = .ok value → real.state.allocated ≤ origin.allocated + count →
    ∃ value' after, dry.result = .ok value' ∧ dry.state = (origin, after) ∧
      after.planned = run.planned ++
        (real.requests.filter (·.mutates)).map (Request.renameIds (dryName origin count)) ∧
      Mirrored origin real.state after ∧ promise value value' real.state

/-- Whatever a plan comes to, a store never takes an identifier back. -/
theorem allocated_le_run (plan : Plan α) (store : Store) :
    store.allocated ≤ (plan.run Store.server answer store).state.allocated := by
  have step : ∀ request (after : Store), store.allocated ≤ after.allocated →
      store.allocated ≤ (Store.server request after).2.allocated := fun request after lower =>
    Nat.le_trans lower (Store.evolves_server request after).allocated_le
  exact Plan.run_keeps step plan (Nat.le_refl _)

/-- Plans without requests. -/
theorem mirrors_pure (mirrored : Mirrored origin store run) {value : α} {value' : β}
    {promise : α → β → Store → Prop} (holds : promise value value' store) :
    Mirrors answer origin count (pure value) (pure value') store run promise := by
  rintro _ ⟨⟩ -
  exact ⟨value', run, rfl, rfl, (List.append_nil _).symm, mirrored, holds⟩

/-- A promise may be weakened. -/
theorem Mirrors.mono {plan : Plan α} {plan' : Plan β} {promise weaker : α → β → Store → Prop}
    (mirrors : Mirrors answer origin count plan plan' store run promise)
    (weaken : ∀ value value' after, promise value value' after → weaker value value' after) :
    Mirrors answer origin count plan plan' store run weaker := by
  intro value ended enough
  obtain ⟨value', after, ended', state, planned, mirrored, holds⟩ := mirrors value ended enough
  exact ⟨value', after, ended', state, planned, mirrored, weaken _ _ _ holds⟩

/-- Consecutive plans: the second ones start from what the first ones promise. -/
theorem mirrors_bind {plan : Plan α} {plan' : Plan β} {rest : α → Plan γ} {rest' : β → Plan δ}
    {middle : α → β → Store → Prop} {promise : γ → δ → Store → Prop}
    (first : Mirrors answer origin count plan plan' store run middle)
    (second : ∀ value value' between noted, Mirrored origin between noted →
      middle value value' between →
      Mirrors answer origin count (rest value) (rest' value') between noted promise) :
    Mirrors answer origin count (plan >>= rest) (plan' >>= rest') store run promise := by
  intro last ended enough
  have whole := Plan.run_andThen Store.server answer plan rest store
  have whole' := Plan.run_andThen (server Store.server) answer plan' rest' (origin, run)
  change ((plan.andThen rest).run Store.server answer store).result = _ at ended
  change ((plan.andThen rest).run Store.server answer store).state.allocated ≤ _ at enough
  -- The first plan has ended with a value, or the whole would have failed.
  rcases outcome : (plan.run Store.server answer store).result with fault | value
  · rw [whole] at ended
    simp only [outcome] at ended
    cases ended
  simp only [outcome] at whole
  rw [whole] at ended enough
  obtain ⟨value', noted, ended', state, planned, mirrored, holds⟩ :=
    first value outcome (Nat.le_trans (allocated_le_run (rest value) _) enough)
  simp only [ended', state] at whole'
  obtain ⟨last', after, endedLast, stateLast, plannedLast, mirroredLast, promised⟩ :=
    second value value' _ noted mirrored holds last ended enough
  refine ⟨last', after, ?_, ?_, ?_, ?_, ?_⟩
  · change ((plan'.andThen rest').run (server Store.server) answer (origin, run)).result = _
    rw [whole', endedLast]
  · change ((plan'.andThen rest').run (server Store.server) answer (origin, run)).state = _
    rw [whole', stateLast]
  · change _ = run.planned ++
      (((plan.andThen rest).run Store.server answer store).requests.filter _).map _
    rw [whole, plannedLast, planned, List.filter_append, List.map_append, List.append_assoc]
  · change Mirrored origin ((plan.andThen rest).run Store.server answer store).state after
    rw [whole]
    exact mirroredLast
  · change promise last last' ((plan.andThen rest).run Store.server answer store).state
    rw [whole]
    exact promised

/-- A real run that fails promises nothing. -/
theorem mirrors_fail (fault : Fault) (plan' : Plan β) {promise : α → β → Store → Prop} :
    Mirrors answer origin count (.fail fault) plan' store run promise := by
  intro value ended
  cases ended

/-- A check that fails ends the real run. -/
theorem mirrors_checked {checked : Checked γ} {rest : γ → Plan α} {rest' : γ → Plan β}
    {promise : α → β → Store → Prop}
    (passed : ∀ value, checked = .ok value →
      Mirrors answer origin count (rest value) (rest' value) store run promise) :
    Mirrors answer origin count (Plan.checked checked >>= rest) (Plan.checked checked >>= rest')
      store run promise := by
  cases checked with
  | ok value => exact passed value rfl
  | error cause => exact mirrors_fail _ _

/-- Doing something for every item of a list, under an invariant of the store. -/
theorem mirrors_forM {action action' : ι → Plan Unit} {invariant : Store → Prop} :
    ∀ {items : List ι} {store : Store} {run : DryRun}, (∀ item ∈ items, ∀ store run,
      Mirrored origin store run → invariant store →
      Mirrors answer origin count (action item) (action' item) store run
        fun _ _ after => invariant after) →
    Mirrored origin store run → invariant store →
    Mirrors answer origin count (items.forM action) (items.forM action') store run
      fun _ _ after => invariant after
  | [], _, _, _, mirrored, holds => mirrors_pure mirrored holds
  | item :: rest, _, _, each, mirrored, holds => by
      change Mirrors answer origin count (action item >>= fun _ => rest.forM action)
        (action' item >>= fun _ => rest.forM action') _ _ _
      refine mirrors_bind (each item List.mem_cons_self _ _ mirrored holds) ?_
      intro _ _ between noted mirroredToo holdsToo
      exact mirrors_forM (fun other later => each other (.tail _ later)) mirroredToo holdsToo

end SignalBoard.DryRun
