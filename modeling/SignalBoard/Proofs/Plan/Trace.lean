/-
# What a plan may send

The other side of a run sees its trace: the requests with the outcomes they had. Which requests
a plan may send is a property of the plan alone, for every branch of it is taken by some server.
A guard says what may be sent after the exchanges so far; a plan that keeps to its guard, however
it is answered, does so on every server, and as a request that fails ends the run, everything
before the last request has succeeded.
-/

import SignalBoard.Api.Server
import SignalBoard.Reconcile.Lookup

namespace SignalBoard

/-- Requests with their outcomes, first to last. -/
abbrev Trace := List (Request × Except Fault Json)

/-- Requests with the replies to them, first to last. -/
abbrev History := List (Request × Json)

/-- The trace of requests that all succeeded. -/
def History.trace (history : History) : Trace :=
  history.map fun (request, reply) => (request, .ok reply)

/-- The server that also keeps a log of all requests and their outcomes. -/
def Server.logged {σ : Type} (server : Server σ) : Server (σ × Trace) :=
  fun request (state, log) =>
    let (outcome, state) := server request state
    (outcome, state, log ++ [(request, outcome)])

/-- What is in the trace of requests that succeeded. -/
theorem History.mem_trace {history : History} {request : Request} {outcome : Except Fault Json} :
    (request, outcome) ∈ history.trace ↔
      ∃ reply, outcome = .ok reply ∧ (request, reply) ∈ history := by
  simp only [trace, List.mem_map, Prod.exists, Prod.mk.injEq]
  constructor
  · rintro ⟨first, reply, member, rfl, rfl⟩
    exact ⟨reply, rfl, member⟩
  · rintro ⟨reply, rfl, member⟩
    exact ⟨request, reply, member, rfl, rfl⟩

/-- A history goes on from an earlier one with requests that are allowed. -/
def History.Grown (allowed : Request → Prop) (history after : History) : Prop :=
  ∃ own : History, after = history ++ own ∧ ∀ exchange ∈ own, allowed exchange.1

namespace History.Grown

variable {allowed weaker : Request → Prop} {history between after : History}

theorem refl (allowed : Request → Prop) (history : History) : history.Grown allowed history :=
  ⟨[], by simp⟩

theorem append (grown : history.Grown allowed between) {request : Request}
    (admitted : allowed request) (reply : Json) :
    history.Grown allowed (between ++ [(request, reply)]) := by
  obtain ⟨own, rfl, each⟩ := grown
  refine ⟨own ++ [(request, reply)], by simp, fun exchange member => ?_⟩
  cases List.mem_append.mp member with
  | inl earlier => exact each exchange earlier
  | inr last => exact List.mem_singleton.mp last ▸ admitted

theorem trans (first : history.Grown allowed between) (second : between.Grown allowed after) :
    history.Grown allowed after := by
  obtain ⟨own, rfl, each⟩ := first
  obtain ⟨more, rfl, each'⟩ := second
  refine ⟨own ++ more, by simp, fun exchange member => ?_⟩
  exact (List.mem_append.mp member).elim (each exchange) (each' exchange)

theorem mono (grown : history.Grown allowed after)
    (weaken : ∀ request, allowed request → weaker request) : history.Grown weaker after := by
  obtain ⟨own, same, each⟩ := grown
  exact ⟨own, same, fun exchange member => weaken _ (each exchange member)⟩

end History.Grown

namespace Plan

variable {σ ι α β : Type} {server : Server σ} {answer : Question → Bool}

/-- The trace of a run. -/
def trace (server : Server σ) (answer : Question → Bool) (plan : Plan α) (state : σ) : Trace :=
  (plan.run server.logged answer (state, [])).state.2

/-- A log that was begun before a run is continued by it. -/
theorem log_run (plan : Plan α) (state : σ) (log : Trace) :
    (plan.run server.logged answer (state, log)).state.2 =
      log ++ plan.trace server answer state := by
  induction plan generalizing state log with
  | done value => exact (List.append_nil log).symm
  | fail fault => exact (List.append_nil log).symm
  | call request next ih =>
      rcases answered : server request state with ⟨fault | reply, after⟩
      · simp [trace, run, Server.logged, answered]
      · have rest := ih reply after
        simp only [trace, run, Server.logged, answered, List.nil_append]
        rw [rest, rest [_], List.append_assoc]
  | ask question next ih => exact ih (answer question) state log

@[simp] theorem trace_done (value : α) (state : σ) :
    (done value).trace server answer state = [] := rfl

@[simp] theorem trace_fail (fault : Fault) (state : σ) :
    (fail fault : Plan α).trace server answer state = [] := rfl

/-- The trace of a request that is answered goes on with what follows. -/
theorem trace_call_ok {request : Request} {next : Json → Plan α} {state after : σ} {reply : Json}
    (answered : server request state = (.ok reply, after)) :
    (call request next).trace server answer state =
      (request, .ok reply) :: (next reply).trace server answer after := by
  have rest : ((next reply).run server.logged answer (after, [(request, .ok reply)])).state.2 =
      [(request, .ok reply)] ++ (next reply).trace server answer after := log_run ..
  simpa [trace, run, Server.logged, answered] using rest

/-- The trace of a request that fails ends with it. -/
theorem trace_call_error {request : Request} {next : Json → Plan α} {state after : σ}
    {fault : Fault} (refused : server request state = (.error fault, after)) :
    (call request next).trace server answer state = [(request, .error fault)] := by
  simp [trace, run, Server.logged, refused]

@[simp] theorem trace_ask (question : Question) (next : Bool → Plan α) (state : σ) :
    (ask question next).trace server answer state =
      (next (answer question)).trace server answer state := rfl

/-- The requests of a run are those of its trace. -/
theorem map_fst_trace (plan : Plan α) (state : σ) :
    (plan.trace server answer state).map Prod.fst = (plan.run server answer state).requests := by
  induction plan generalizing state with
  | done value => rfl
  | fail fault => rfl
  | call request next ih =>
      rcases answered : server request state with ⟨fault | reply, after⟩
      · simp [trace_call_error answered, run, answered]
      · simp [trace_call_ok answered, run, answered, ih]
  | ask question next ih => exact ih (answer question) state

/-- However the plan is answered, the guard admits every request after the exchanges before it,
and a value that the plan ends with is as promised. -/
def Guarded (guard : History → Request → Prop) (promise : α → History → Prop) :
    Plan α → History → Prop
  | done value, history => promise value history
  | fail _, _ => True
  | call request next, history => guard history request ∧
      ∀ reply, (next reply).Guarded guard promise (history ++ [(request, reply)])
  | ask _ next, history => ∀ answer, (next answer).Guarded guard promise history

variable {guard weaker : History → Request → Prop} {promise : α → History → Prop}
  {plan : Plan α} {history : History}

/-- A plan without requests keeps to every guard. -/
theorem guarded_pure {value : α} (holds : promise value history) :
    (pure value : Plan α).Guarded guard promise history := holds

/-- A promise may be weakened. -/
theorem Guarded.mono {implied : α → History → Prop} (guarded : plan.Guarded guard promise history)
    (weaken : ∀ value after, promise value after → implied value after) :
    plan.Guarded guard implied history := by
  induction plan generalizing history with
  | done value => exact weaken value history guarded
  | fail fault => trivial
  | call request next ih => exact ⟨guarded.1, fun reply => ih reply (guarded.2 reply)⟩
  | ask question next ih => exact fun answer => ih answer (guarded answer)

/-- A guard may be weakened. -/
theorem Guarded.weaken (guarded : plan.Guarded guard promise history)
    (admits : ∀ history request, guard history request → weaker history request) :
    plan.Guarded weaker promise history := by
  induction plan generalizing history with
  | done value => exact guarded
  | fail fault => trivial
  | call request next ih =>
      exact ⟨admits history request guarded.1, fun reply => ih reply (guarded.2 reply)⟩
  | ask question next ih => exact fun answer => ih answer (guarded answer)

/-- Two guards that a plan keeps to are kept to together. -/
theorem Guarded.and {guard' : History → Request → Prop} {promise' : α → History → Prop}
    (guarded : plan.Guarded guard promise history)
    (guarded' : plan.Guarded guard' promise' history) :
    plan.Guarded (fun history request => guard history request ∧ guard' history request)
      (fun value after => promise value after ∧ promise' value after) history := by
  induction plan generalizing history with
  | done value => exact ⟨guarded, guarded'⟩
  | fail fault => trivial
  | call request next ih =>
      exact ⟨⟨guarded.1, guarded'.1⟩, fun reply => ih reply (guarded.2 reply) (guarded'.2 reply)⟩
  | ask question next ih => exact fun answer => ih answer (guarded answer) (guarded' answer)

/-- The exchanges of a plan go on from the earlier ones, with requests that its guard admits, both
before each request and in the end. -/
theorem Guarded.growing {allowed : Request → Prop} (guarded : plan.Guarded guard promise history)
    (allows : ∀ history request, guard history request → allowed request) :
    plan.Guarded (fun between request => guard between request ∧ history.Grown allowed between)
      (fun value after => promise value after ∧ history.Grown allowed after) history := by
  induction plan generalizing history with
  | done value => exact ⟨guarded, .refl allowed history⟩
  | fail fault => trivial
  | call request next ih =>
      refine ⟨⟨guarded.1, .refl allowed history⟩, fun reply => ?_⟩
      have first := (History.Grown.refl allowed history).append (allows _ _ guarded.1) reply
      apply ((ih reply (guarded.2 reply)).mono _).weaken
      · exact fun between request admitted => ⟨admitted.1, first.trans admitted.2⟩
      · exact fun value after promised => ⟨promised.1, first.trans promised.2⟩
  | ask question next ih => exact fun answer => ih answer (guarded answer)

/-- The exchanges of a plan go on from the earlier ones, with requests that its guard admits. -/
theorem Guarded.grown {allowed : Request → Prop} (guarded : plan.Guarded guard promise history)
    (allows : ∀ history request, guard history request → allowed request) :
    plan.Guarded guard
      (fun value after => promise value after ∧ history.Grown allowed after) history :=
  (guarded.growing allows).weaken fun _ _ => And.left

/-- Consecutive plans: the second starts after the exchanges of the first. -/
theorem guarded_bind {rest : α → Plan β} {middle : α → History → Prop}
    {promise : β → History → Prop} (first : plan.Guarded guard middle history)
    (second : ∀ value between, middle value between →
      (rest value).Guarded guard promise between) :
    (plan >>= rest).Guarded guard promise history := by
  show (plan.andThen rest).Guarded guard promise history
  induction plan generalizing history with
  | done value => exact second value history first
  | fail fault => trivial
  | call request next ih => exact ⟨first.1, fun reply => ih reply (first.2 reply)⟩
  | ask question next ih => exact fun answer => ih answer (first answer)

/-- What is said of the exchanges of a plan alone can be said of them after earlier ones. -/
theorem Guarded.after {earlier : History}
    (guarded : plan.Guarded (fun own => guard (earlier ++ own))
      (fun value own => promise value (earlier ++ own)) history) :
    plan.Guarded guard promise (earlier ++ history) := by
  induction plan generalizing history with
  | done value => exact guarded
  | fail fault => trivial
  | call request next ih =>
      refine ⟨guarded.1, fun reply => ?_⟩
      rw [List.append_assoc]
      exact ih reply (guarded.2 reply)
  | ask question next ih => exact fun answer => ih answer (guarded answer)

/-- A value that has to pass its check first. -/
theorem guarded_checked {outcome : Checked β} {rest : β → Plan α}
    (holds : ∀ value, outcome = .ok value → (rest value).Guarded guard promise history) :
    (checked outcome >>= rest).Guarded guard promise history := by
  cases outcome with
  | ok value => exact holds value rfl
  | error cause => trivial

/-- An identifier that a document must have. -/
theorem guarded_requireId {document : Json} {rest : String → Plan α}
    (holds : ∀ id, document.id? = some id → (rest id).Guarded guard promise history) :
    (requireId document >>= rest).Guarded guard promise history := by
  unfold requireId
  split
  case h_1 id identified => exact holds id identified
  case h_2 => trivial

/-- A look-up by name is one search, whose reply has at most one resource of the name. -/
theorem guarded_findUnique {kind : Kind} {name : String}
    (admitted : guard history (.search kind name)) :
    (findUnique kind name).Guarded guard
      (fun found after => ∃ reply, after = history ++ [(.search kind name, reply)] ∧
        matching name reply.items = found.toList) history := by
  refine ⟨admitted, fun reply => ?_⟩
  dsimp only [Plan.andThen]
  rcases found : matching name reply.items with _ | ⟨document, _ | ⟨other, rest⟩⟩
  · exact ⟨reply, rfl, found⟩
  · exact ⟨reply, rfl, found⟩
  · trivial

/-- Assigning to a document sends nothing. -/
theorem guarded_assign {key : String} {value document : Json} {rest : Json → Plan α}
    (holds : ∀ changed, (rest changed).Guarded guard promise history) :
    (assign key value document >>= rest).Guarded guard promise history := by
  unfold assign
  split
  case h_1 changed _ => exact holds changed
  case h_2 => trivial

/-- Writing overrides into a document sends nothing. -/
theorem guarded_apply {overrides : Overrides} {document : Json} {rest : Json → Plan α}
    (holds : ∀ changed, (rest changed).Guarded guard promise history) :
    (overrides.apply document >>= rest).Guarded guard promise history := by
  have assigns : ∀ key text document {rest : Json → Plan α},
      (∀ changed, (rest changed).Guarded guard promise history) →
      (assignText? key text document >>= rest).Guarded guard promise history := by
    intro key text document rest holds
    cases text with
    | none => exact holds document
    | some text => exact guarded_assign holds
  rw [Overrides.apply, bind_assoc]
  exact assigns _ _ _ fun changed => assigns _ _ _ holds

/-- A loop that collects values. The invariant speaks of the items that are done and of the values
so far. -/
theorem guarded_mapM {act : ι → Plan α} (invariant : List ι → List α → History → Prop) :
    ∀ {items : List ι} (past : List ι) (found : List α) {history : History},
    (∀ item ∈ items, ∀ past found history, invariant past found history →
      (act item).Guarded guard
        (fun value after => invariant (past ++ [item]) (found ++ [value]) after) history) →
    invariant past found history → (items.mapM act).Guarded guard
      (fun values after => invariant (past ++ items) (found ++ values) after) history
  | [], past, found, history, _, holds => by
      rw [List.mapM_nil]
      exact guarded_pure (by simpa)
  | item :: rest, past, found, history, each, holds => by
      rw [List.mapM_cons]
      apply guarded_bind (each item List.mem_cons_self past found history holds)
      intro value between holds
      apply guarded_bind
        (guarded_mapM invariant _ _ (fun other later => each other (.tail _ later)) holds)
      intro values after holds
      exact guarded_pure (by simpa using holds)

/-- A loop that collects nothing. The invariant speaks of the items that are done. -/
theorem guarded_forM {act : ι → Plan Unit} (invariant : List ι → History → Prop) :
    ∀ {items : List ι} (past : List ι) {history : History},
    (∀ item ∈ items, ∀ past history, invariant past history →
      (act item).Guarded guard (fun _ after => invariant (past ++ [item]) after) history) →
    invariant past history → (items.forM act).Guarded guard
      (fun _ after => invariant (past ++ items) after) history
  | [], past, _, _, holds => guarded_pure (by simpa)
  | item :: rest, past, history, each, holds => by
      show (act item >>= fun _ => rest.forM act).Guarded guard _ history
      apply guarded_bind (each item List.mem_cons_self past history holds)
      intro _ between holds
      have later := guarded_forM invariant _ (fun other later => each other (.tail _ later)) holds
      simpa using later

/-- Every request of a run is one that the guard admits, and all before it have succeeded. -/
theorem Guarded.admits (guarded : plan.Guarded guard promise history) {state : σ}
    {before after : Trace} {request : Request} {outcome : Except Fault Json}
    (split : plan.trace server answer state = before ++ (request, outcome) :: after) :
    ∃ earlier : History, before = earlier.trace ∧ guard (history ++ earlier) request := by
  induction plan generalizing history state before with
  | done value => simp at split
  | fail fault => simp at split
  | call first next ih =>
      obtain ⟨admitted, guarded⟩ := guarded
      rcases answered : server first state with ⟨fault | reply, between⟩
      · rw [trace_call_error answered] at split
        cases before with
        | nil =>
            obtain ⟨rfl, -⟩ := Prod.mk.inj (List.cons.inj split).1
            exact ⟨[], rfl, by simpa⟩
        | cons _ _ => simp at split
      · rw [trace_call_ok answered] at split
        cases before with
        | nil =>
            obtain ⟨rfl, -⟩ := Prod.mk.inj (List.cons.inj split).1
            exact ⟨[], rfl, by simpa⟩
        | cons exchange before =>
            rw [List.cons_append, List.cons.injEq] at split
            obtain ⟨earlier, rfl, admitted⟩ := ih reply (guarded reply) split.2
            refine ⟨(first, reply) :: earlier, ?_, by simpa using admitted⟩
            rw [← split.1]
            rfl
  | ask question next ih => exact ih _ (guarded _) split

/-- A run that ends with a value ends as promised, and all its requests have succeeded. -/
theorem Guarded.promised (guarded : plan.Guarded guard promise history) {state : σ} {value : α}
    (ended : (plan.run server answer state).result = .ok value) :
    ∃ own : History, plan.trace server answer state = own.trace ∧
      promise value (history ++ own) := by
  induction plan generalizing history state with
  | done result =>
      obtain rfl := Except.ok.inj ended
      exact ⟨[], rfl, by rwa [List.append_nil]⟩
  | fail fault => cases ended
  | call request next ih =>
      rcases answered : server request state with ⟨fault | reply, after⟩
      · simp [run, answered] at ended
      · simp only [run, answered] at ended
        obtain ⟨own, same, promised⟩ := ih reply (guarded.2 reply) ended
        refine ⟨(request, reply) :: own, ?_, by simpa using promised⟩
        rw [trace_call_ok answered, same]
        rfl
  | ask question next ih => exact ih _ (guarded _) ended

/-- Without a guard there is nothing to keep to. -/
theorem guarded_true (plan : Plan α) (history : History) :
    plan.Guarded (fun _ _ => True) (fun _ _ => True) history := by
  induction plan generalizing history with
  | done value => trivial
  | fail fault => trivial
  | call request next ih => exact ⟨trivial, fun reply => ih reply _⟩
  | ask question next ih => exact fun answer => ih answer history

/-- No request follows one that failed. -/
theorem trace_ends {state : σ} {before after : Trace} {request : Request} {fault : Fault}
    (split : plan.trace server answer state = before ++ (request, .error fault) :: after) :
    after = [] := by
  cases after with
  | nil => rfl
  | cons exchange rest =>
      rw [List.append_cons] at split
      obtain ⟨earlier, succeeded, -⟩ := (guarded_true plan []).admits split
      have last : (request, .error fault) ∈ earlier.trace := by simp [← succeeded]
      obtain ⟨_, isOk, -⟩ := History.mem_trace.mp last
      cases isOk

end Plan

end SignalBoard
