/-
# What plans say of their own

A run speaks in three ways: by its requests, by the questions it asks, and by the fault it ends
with. A fault comes from the plan, or from the server, whose refusal of a request then ends the
trace. Which faults a plan raises of its own and which questions it asks is read off the tree, for
every branch of it is taken by some server and some user; parts that are put together say what each
of them tells.
-/

import SignalBoard.Proofs.Plan.Trace

namespace SignalBoard

/-- The fault is of the sort that an operation raises of its own on a resource that passes its
check: a look-up by name does not identify one resource or finds one too many, the user does not
agree, or a reply lacks an identifier. -/
inductive Fault.Own : Fault → Prop
  | ambiguous (name : String) : Own (.ambiguous name)
  | noMatch (name : String) : Own (.noMatch name)
  | alreadyExists (name : String) : Own (.alreadyExists name)
  | aborted : Own .aborted
  | unexpectedReply (defect : ReplyDefect) : Own (.unexpectedReply defect)

namespace Plan

variable {σ ι α β : Type} {server : Server σ} {answer : Question → Bool}
  {raised : Fault → Prop} {asked : Question → Prop} {plan : Plan α}

/-- Whatever the plan is answered, the faults it raises of its own and the questions it asks are of
some sort. -/
def Tells (raised : Fault → Prop) (asked : Question → Prop) : Plan α → Prop
  | done _ => True
  | fail fault => raised fault
  | call _ next => ∀ reply, (next reply).Tells raised asked
  | ask question next => asked question ∧ ∀ answer, (next answer).Tells raised asked

theorem tells_pure (value : α) : Tells raised asked (pure value : Plan α) := trivial

theorem tells_call {request : Request} {next : Json → Plan α}
    (rest : ∀ reply, Tells raised asked (next reply)) :
    Tells raised asked (call request next) := rest

theorem tells_bind {rest : α → Plan β} (first : Tells raised asked plan)
    (second : ∀ value, Tells raised asked (rest value)) :
    Tells raised asked (plan >>= rest) := by
  show Tells raised asked (plan.andThen rest)
  induction plan with
  | done value => exact second value
  | fail fault => exact first
  | call request next ih => exact fun reply => ih reply (first reply)
  | ask question next ih => exact ⟨first.1, fun answer => ih answer (first.2 answer)⟩

theorem tells_mapM {act : ι → Plan α} {items : List ι}
    (each : ∀ item ∈ items, Tells raised asked (act item)) :
    Tells raised asked (items.mapM act) := by
  induction items with
  | nil => exact tells_pure []
  | cons item rest ih =>
      rw [List.mapM_cons]
      apply tells_bind (each item List.mem_cons_self)
      intro value
      apply tells_bind (ih fun other later => each other (.tail _ later))
      exact fun _ => tells_pure _

theorem tells_forM {act : ι → Plan Unit} {items : List ι}
    (each : ∀ item ∈ items, Tells raised asked (act item)) :
    Tells raised asked (items.forM act) := by
  induction items with
  | nil => exact tells_pure ()
  | cons item rest ih =>
      apply tells_bind (each item List.mem_cons_self)
      exact fun _ => ih fun other later => each other (.tail _ later)

theorem Tells.mono {raised' : Fault → Prop} {asked' : Question → Prop}
    (tells : Tells raised asked plan) (faults : ∀ fault, raised fault → raised' fault)
    (questions : ∀ question, asked question → asked' question) : Tells raised' asked' plan := by
  induction plan with
  | done value => trivial
  | fail fault => exact faults fault tells
  | call request next ih => exact fun reply => ih reply (tells reply)
  | ask question next ih =>
      exact ⟨questions question tells.1, fun answer => ih answer (tells.2 answer)⟩

/-- A run that fails ends with a fault of the plan's own, or with the refusal of its last
request. -/
theorem Tells.fault (tells : Tells raised asked plan) {state : σ} {fault : Fault}
    (failed : (plan.run server answer state).result = .error fault) :
    raised fault ∨ ∃ before request,
      plan.trace server answer state = before ++ [(request, .error fault)] := by
  induction plan generalizing state with
  | done value => cases failed
  | fail own =>
      cases failed
      exact .inl tells
  | call request next ih =>
      rcases answered : server request state with ⟨refusal | reply, after⟩
      · simp only [run, answered, Except.error.injEq] at failed
        subst failed
        exact .inr ⟨[], request, by rw [trace_call_error answered, List.nil_append]⟩
      · simp only [run, answered] at failed
        refine (ih reply (tells reply) failed).imp_right ?_
        rintro ⟨before, last, ends⟩
        exact ⟨(request, .ok reply) :: before, last, by rw [trace_call_ok answered, ends]; rfl⟩
  | ask question next ih => exact ih _ (tells.2 _) failed

/-- The questions of a run are of the sort that the plan asks. -/
theorem Tells.questions (tells : Tells raised asked plan) (state : σ) :
    ∀ question ∈ (plan.run server answer state).questions, asked question := by
  induction plan generalizing state with
  | done value => simp [run]
  | fail fault => simp [run]
  | call request next ih =>
      rcases answered : server request state with ⟨refusal | reply, after⟩
      · simp [run, answered]
      · simpa only [run, answered] using ih reply (tells reply) after
  | ask question next ih =>
      intro other among
      rcases List.mem_cons.mp among with rfl | later
      · exact tells.1
      · exact ih _ (tells.2 _) state other later

/-- A plan that asks nothing asks nothing in any run. -/
theorem Tells.questions_eq_nil (tells : Tells raised (fun _ => False) plan) (state : σ) :
    (plan.run server answer state).questions = [] :=
  List.eq_nil_iff_forall_not_mem.mpr fun question among => tells.questions state question among

/-! ## Faults that are raised on resources that pass their check -/

/-- What follows on the identifier of a reply may rely on its being there. -/
theorem tells_requireId_bind {document : Json} {rest : String → Plan β}
    (second : ∀ id, document.id? = some id → Tells Fault.Own asked (rest id)) :
    Tells Fault.Own asked (requireId document >>= rest) := by
  unfold requireId
  split
  case h_1 id identified => exact second id identified
  case h_2 => exact .unexpectedReply _

theorem tells_requireId (document : Json) : Tells Fault.Own asked (requireId document) := by
  rw [← bind_pure (requireId document)]
  exact tells_requireId_bind fun _ _ => tells_pure _

theorem tells_findUnique (kind : Kind) (name : String) :
    Tells Fault.Own asked (findUnique kind name) := by
  apply tells_bind
  · apply tells_bind (tells_call fun _ => tells_pure _)
    exact fun _ => tells_pure _
  · intro found
    split
    · exact tells_pure _
    · exact tells_pure _
    · exact .ambiguous name

theorem tells_requireUnique (kind : Kind) (name : String) :
    Tells Fault.Own asked (requireUnique kind name) := by
  apply tells_bind (tells_findUnique kind name)
  intro found
  cases found with
  | none => exact Fault.Own.noMatch name
  | some document => exact tells_pure document

/-- Whether a name is taken is asked about that name. -/
theorem tells_guardCreate (kind : Kind) (name : String) (options : CreateOptions) :
    Tells Fault.Own (fun question => ∃ count, question = ⟨kind, name, count⟩)
      (guardCreate kind name options) := by
  unfold guardCreate
  split
  case isTrue => exact tells_pure ()
  case isFalse =>
    apply tells_bind
    · exact tells_bind (tells_call fun _ => tells_pure _) fun _ => tells_pure _
    intro found
    split
    · exact tells_pure ()
    split
    · refine ⟨⟨_, rfl⟩, fun consent => ?_⟩
      cases consent with
      | true => trivial
      | false => exact .aborted
    · split
      · exact .ambiguous name
      · exact .alreadyExists name

/-- A value that passes its check raises nothing. -/
theorem tells_checked {outcome : Checked α} {value : α} (passed : outcome = .ok value) :
    Tells raised asked (checked outcome) := by
  rw [passed]
  trivial

end Plan

end SignalBoard
