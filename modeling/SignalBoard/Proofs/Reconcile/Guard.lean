/-
# When a creation goes ahead

A creation looks for resources of its name first, unless it is forced. Whether it goes ahead is
decided by what that search comes to and by the user, and until it is decided nothing has changed.
What follows may be long, for a group takes its dashboards in, but it begins with the request that
creates the resource and never asks the user again.
-/

import SignalBoard.Proofs.Plan.Interrupted
import SignalBoard.Proofs.Reconcile.Valid

namespace SignalBoard

variable {σ α : Type} {server : Server σ} {answer : Question → Bool} {state : σ}

namespace Resource

variable {resource : Resource} {options : CreateOptions} {looked : Except Fault Json}

/-- The search for resources of the name. -/
def lookup (resource : Resource) : Request := .search resource.kind resource.name

/-- The results of a search that have exactly the name of the resource. -/
def namesakes (resource : Resource) (reply : Json) : List Json :=
  matching resource.name reply.items

/-- The question whether the resource is wanted besides its namesakes in a reply. -/
def wanted (resource : Resource) (reply : Json) : Question :=
  ⟨resource.kind, resource.name, (resource.namesakes reply).length⟩

/-- What lets a creation go ahead, told of what the search for the name came to. -/
inductive GoesAhead (resource : Resource) (options : CreateOptions) (answer : Question → Bool)
    (looked : Except Fault Json) : Prop
  | forced (force : options.force = true)
  | free (reply : Json) (found : looked = .ok reply) (unique : resource.namesakes reply = [])
  | confirmed (reply : Json) (found : looked = .ok reply) (taken : resource.namesakes reply ≠ [])
      (interactive : options.interactive = true) (consent : answer (resource.wanted reply) = true)

/-- The fault of a creation that does not go ahead. -/
def refusal (resource : Resource) (options : CreateOptions) : Except Fault Json → Fault
  | .error fault => fault
  | .ok reply =>
      if options.interactive then .aborted
      else if 2 ≤ (resource.namesakes reply).length then .ambiguous resource.name
      else .alreadyExists resource.name

/-- What is sent before it is decided whether a creation goes ahead. -/
def preamble (resource : Resource) (options : CreateOptions) : List Request :=
  if options.force then [] else [resource.lookup]

/-- What the user is asked in a creation: once, in one that is interactive and not forced, if the
name was found to be taken. -/
def asks (resource : Resource) (options : CreateOptions) : Except Fault Json → List Question
  | .error _ => []
  | .ok reply =>
      if options.force = false ∧ options.interactive = true ∧ resource.namesakes reply ≠ [] then
        [resource.wanted reply]
      else []

/-- The run of a creation of a resource that passes its check. -/
structure GuardedCreation (resource : Resource) (options : CreateOptions) (server : Server σ)
    (answer : Question → Bool) (state : σ) : Prop where
  /-- Something that may change what is kept is sent just if the creation goes ahead. -/
  mutates_iff :
    (∃ request ∈ ((resource.create options).run server answer state).requests,
      request.mutates = true) ↔
      resource.GoesAhead options answer (server resource.lookup state).1
  /-- One that goes ahead begins with the request that creates the resource. -/
  ahead : resource.GoesAhead options answer (server resource.lookup state).1 →
    ∃ rest, ((resource.create options).run server answer state).requests =
      resource.preamble options ++ resource.creation {} :: rest
  /-- One that does not is over after the search. -/
  refused : ¬ resource.GoesAhead options answer (server resource.lookup state).1 →
    ((resource.create options).run server answer state).requests = [resource.lookup] ∧
      ((resource.create options).run server answer state).result =
        .error (resource.refusal options (server resource.lookup state).1)
  questions : ((resource.create options).run server answer state).questions =
    resource.asks options (server resource.lookup state).1

theorem mutates_creation (resource : Resource) (overrides : Overrides) :
    (resource.creation overrides).mutates = true := by
  cases resource <;> rfl

/-- What follows in a creation on the search for the name. -/
def afterLookup (resource : Resource) (options : CreateOptions) (reply : Json) : Plan Json :=
  if (resource.namesakes reply).isEmpty then resource.establish {}
  else if options.interactive then
    .ask (resource.wanted reply) fun consent =>
      if consent then resource.establish {} else .fail .aborted
  else .fail (resource.refusal options (.ok reply))

/-- A resource that passes its check is created at once, or after it was decided what to do about
its namesakes. -/
theorem create_eq_afterLookup (valid : resource.check = .ok ()) (options : CreateOptions) :
    resource.create options =
      if options.force then resource.establish {}
      else .call resource.lookup (resource.afterLookup options) := by
  rw [create_eq valid]
  obtain ⟨force, interactive⟩ := options
  cases force with
  | true => rfl
  | false =>
      refine congrArg (Plan.call _) (funext fun reply => ?_)
      unfold afterLookup refusal wanted namesakes
      dsimp only [Plan.andThen]
      rcases matching resource.name reply.items with _ | ⟨first, others⟩
      · rfl
      cases interactive with
      | true => exact congrArg (Plan.ask _) (funext fun consent => by cases consent <;> rfl)
      | false => rcases others with _ | ⟨second, others⟩ <;> rfl

/-- Whatever is answered, a resource is established by its request first. -/
theorem exists_requests_establish (valid : resource.check = .ok ()) (overrides : Overrides)
    (state : σ) :
    ∃ rest, ((resource.establish overrides).run server answer state).requests =
      resource.creation overrides :: rest := by
  obtain ⟨next, shape⟩ := exists_establish_eq valid overrides
  rw [shape]
  exact Plan.exists_requests_call ..

/-- Establishing a resource asks nothing, not even with the dashboards of a group. -/
theorem questions_establish (valid : resource.check = .ok ()) (overrides : Overrides) (state : σ) :
    ((resource.establish overrides).run server answer state).questions = [] :=
  (tells_establish valid overrides).questions_eq_nil state

/-- A creation that is not forced does not go ahead after a search that failed. -/
theorem not_goesAhead_error (force : options.force = false) (fault : Fault) :
    ¬ resource.GoesAhead options answer (.error fault) := by
  rintro (forced | ⟨_, found, _⟩ | ⟨_, found, _⟩)
  · rw [force] at forced
    cases forced
  · cases found
  · cases found

/-- It goes ahead after one that succeeded if the name is free or the user consents. -/
theorem goesAhead_ok_iff (force : options.force = false) {reply : Json} :
    resource.GoesAhead options answer (.ok reply) ↔ resource.namesakes reply = [] ∨
      options.interactive = true ∧ answer (resource.wanted reply) = true := by
  constructor
  · rintro (forced | ⟨_, found, unique⟩ | ⟨_, found, _, interactive, consent⟩)
    · rw [force] at forced
      cases forced
    · cases found
      exact .inl unique
    · cases found
      exact .inr ⟨interactive, consent⟩
  · intro goes
    by_cases unique : resource.namesakes reply = []
    · exact .free reply rfl unique
    · obtain ⟨interactive, consent⟩ := goes.resolve_left unique
      exact .confirmed reply rfl unique interactive consent

/-- After the search the resource is established, or there is nothing but the question and the
fault. -/
theorem afterLookup_cases (valid : resource.check = .ok ()) (interactive : Bool) (reply : Json)
    (state : σ) :
    let options : CreateOptions := ⟨false, interactive⟩
    let run := (resource.afterLookup options reply).run server answer state
    let goes := resource.namesakes reply = [] ∨
      interactive = true ∧ answer (resource.wanted reply) = true
    run.questions = resource.asks options (.ok reply) ∧
      (goes ∧ (∃ rest, run.requests = resource.creation {} :: rest) ∨
        ¬ goes ∧ run.requests = [] ∧
          run.result = .error (resource.refusal options (.ok reply))) := by
  obtain ⟨rest, begins⟩ : ∃ rest, ((resource.establish {}).run server answer state).requests =
      resource.creation {} :: rest := exists_requests_establish valid {} state
  have silent : ((resource.establish {}).run server answer state).questions = [] :=
    questions_establish valid {} state
  by_cases unique : resource.namesakes reply = []
  case pos => simp [afterLookup, asks, unique, begins, silent]
  case neg =>
    cases interactive with
    | false => simp [afterLookup, asks, unique, Plan.run]
    | true =>
        cases consent : answer (resource.wanted reply) with
        | true => simp [afterLookup, asks, unique, consent, Plan.run, begins, silent]
        | false => simp [afterLookup, asks, unique, consent, Plan.run, refusal]

/-- A creation goes ahead, or it is refused after the search. -/
theorem create_cases (valid : resource.check = .ok ()) (options : CreateOptions)
    (server : Server σ) (answer : Question → Bool) (state : σ) :
    let looked := (server resource.lookup state).1
    let run := (resource.create options).run server answer state
    run.questions = resource.asks options looked ∧
      (resource.GoesAhead options answer looked ∧
          (∃ rest, run.requests = resource.preamble options ++ resource.creation {} :: rest) ∨
        ¬ resource.GoesAhead options answer looked ∧ run.requests = [resource.lookup] ∧
          run.result = .error (resource.refusal options looked)) := by
  rw [create_eq_afterLookup valid]
  obtain ⟨force, interactive⟩ := options
  cases force with
  | true =>
      refine ⟨?_, .inl ⟨.forced rfl, exists_requests_establish valid {} state⟩⟩
      show _ = resource.asks _ _
      rw [if_pos rfl, questions_establish valid]
      cases (server resource.lookup state).1 <;> rfl
  | false =>
      rw [if_neg Bool.false_ne_true]
      rcases answered : server resource.lookup state with ⟨fault | reply, after⟩
      · rw [Plan.run_call_error answered]
        exact ⟨rfl, .inr ⟨not_goesAhead_error rfl fault, rfl, rfl⟩⟩
      rw [Plan.run_call_ok answered]
      obtain ⟨questions, ⟨goes, rest, begins⟩ | ⟨stays, silent, failed⟩⟩ :=
        afterLookup_cases valid interactive reply after
      · exact ⟨questions, .inl ⟨(goesAhead_ok_iff rfl).mpr goes, rest,
          congrArg (resource.lookup :: ·) begins⟩⟩
      · exact ⟨questions, .inr ⟨mt (goesAhead_ok_iff rfl).mp stays,
          congrArg (resource.lookup :: ·) silent, failed⟩⟩

/-- A creation of a resource of any kind is guarded: nothing is changed before the name was looked
up and the user, if need be, was asked, and what changes first is that the resource is created. -/
theorem create_guarded (valid : resource.check = .ok ()) (options : CreateOptions)
    (server : Server σ) (answer : Question → Bool) (state : σ) :
    resource.GuardedCreation options server answer state := by
  obtain ⟨questions, ⟨goes, rest, begins⟩ | ⟨stays, alone, failed⟩⟩ :=
    create_cases valid options server answer state
  · refine ⟨iff_of_true ⟨resource.creation {}, ?_, mutates_creation resource {}⟩ goes,
      fun _ => ⟨rest, begins⟩, fun stays => absurd goes stays, questions⟩
    rw [begins]
    simp
  · refine ⟨iff_of_false ?_ stays, fun goes => absurd goes stays, fun _ => ⟨alone, failed⟩,
      questions⟩
    rintro ⟨request, sent, mutates⟩
    rw [alone, List.mem_singleton] at sent
    subst sent
    cases mutates

/-- A second note of one name is created when the user wants it. -/
theorem create_guarded_note :
    let note : Resource := .chart { name := "note", options := .text "x" }
    let replies : List (Except Fault Json) := [.ok (.arr [.record [("name", some (.str "note"))]])]
    note.check = .ok () ∧
      note.GoesAhead { interactive := true } (fun _ => true)
        (Server.scripted note.lookup replies).1 ∧
      note.GuardedCreation { interactive := true } Server.scripted (fun _ => true) replies := by
  intro note replies
  have taken : note.namesakes (.arr [.record [("name", some (.str "note"))]]) ≠ [] := by
    decide +kernel
  exact ⟨rfl, .confirmed _ rfl taken rfl rfl, create_guarded rfl _ Server.scripted _ replies⟩

end Resource

end SignalBoard
