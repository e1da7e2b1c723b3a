/-
# What a dry run does not see

A dry run keeps aside what it would have created, but it does not keep what it would have replaced
or deleted. So whatever it has noted, a document that was stored before is read as it was stored. An
operation that reads what it has just written then plans something else than it would do: the group
that takes a dashboard in removes the charts of the original afterwards, by the layout that it reads
then.
-/

import SignalBoard.Proofs.DryRun.Answer
import SignalBoard.Proofs.Group.View
import SignalBoard.Reconcile.Group

namespace SignalBoard.DryRun

variable {α β : Type} {answer : Question → Bool} {origin : Store} {state : Store × DryRun}

/-- Nothing has changed in the store that the dry run runs over, and what the dry run keeps is kept
under identifiers of its own. -/
def Over (origin : Store) (state : Store × DryRun) : Prop :=
  state.1 = origin ∧ state.2.Apart

/-- However the action ends, the store is as it was, and the run keeps documents of its own only. -/
def Stays (origin : Store) (action : Action Store α) : Prop :=
  ∀ state, Over origin state → Over origin (perform action state).2

/-- Consecutive actions; the second may depend on what the first has found. -/
theorem stays_bind {action : Action Store α} {next : α → Action Store β}
    (first : Stays origin action)
    (second : ∀ state value, (perform action state).1 = .ok value →
      Over origin (perform action state).2 →
      Over origin (perform (next value) (perform action state).2).2) :
    Stays origin (action >>= next) := by
  intro state holds
  have kept := first state holds
  have later := second state
  rw [perform_bind]
  rcases outcome : perform action state with ⟨fault | value, between⟩ <;> rw [outcome] at kept later
  · exact kept
  · exact later value rfl kept

/-- Consecutive actions. -/
theorem Stays.bind {action : Action Store α} {next : α → Action Store β}
    (first : Stays origin action) (second : ∀ value, Stays origin (next value)) :
    Stays origin (action >>= next) :=
  stays_bind first fun _ value _ kept => second value _ kept

/-- The changes of documents that the store has: which request is sent to which path. -/
def changes (store : Store) (requests : List Request) : List (String × String) :=
  (requests.filter fun request => request.mutates && store.documents.has request.path).map
    fun request => (request.method, request.path)

end SignalBoard.DryRun
