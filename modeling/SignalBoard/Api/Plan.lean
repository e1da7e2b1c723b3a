/-
# Plans

What an operation does with the service is a plan: a tree that says which request comes next for
every reply so far. A plan knows nothing of who answers, so the same plan is run against the
service, against a store in memory, or only on paper. A request that fails ends the run, so a
plan has no branch for failures of requests.
-/

import SignalBoard.Api.Request
import SignalBoard.Fault

namespace SignalBoard

/-- What a user is asked before a second resource of the same name is created. -/
structure Question where
  kind : Kind
  name : String
  /-- How many resources have the name already. -/
  matching : Nat
deriving DecidableEq

/-- The wording of a question. -/
def Question.text (question : Question) : String :=
  "A " ++ question.kind.label ++ " named \"" ++ question.name ++ "\" already exists ("
    ++ String.ofList (natText question.matching) ++ " match(es)). Create another one anyway?"

/-- What is done with the service to obtain a value. -/
inductive Plan (α : Type) where
  | done (value : α)
  | fail (fault : Fault)
  /-- Sends a request and goes on with the reply. -/
  | call (request : Request) (next : Json → Plan α)
  /-- Asks the user and goes on with the answer. -/
  | ask (question : Question) (next : Bool → Plan α)

namespace Plan

variable {α β γ : Type}

/-- One plan after another. -/
def andThen (plan : Plan α) (rest : α → Plan β) : Plan β :=
  match plan with
  | done value => rest value
  | fail fault => fail fault
  | call request next => call request fun reply => (next reply).andThen rest
  | ask question next => ask question fun answer => (next answer).andThen rest

instance : Monad Plan where
  pure := done
  bind := andThen

/-- Ending a plan with its value changes nothing. -/
@[simp] theorem andThen_done (plan : Plan α) : plan.andThen done = plan := by
  induction plan with
  | done value => rfl
  | fail fault => rfl
  | call request next ih => simp [andThen, ih]
  | ask question next ih => simp [andThen, ih]

/-- It does not matter how consecutive plans are grouped. -/
theorem andThen_assoc (plan : Plan α) (second : α → Plan β) (third : β → Plan γ) :
    (plan.andThen second).andThen third = plan.andThen fun x => (second x).andThen third := by
  induction plan with
  | done value => rfl
  | fail fault => rfl
  | call request next ih => simp [andThen, ih]
  | ask question next ih => simp [andThen, ih]

instance : LawfulMonad Plan :=
  LawfulMonad.mk' Plan andThen_done (fun _ _ => rfl) andThen_assoc

/-- Goes on only with a value that passed its check. -/
def checked : Checked α → Plan α
  | .ok value => done value
  | .error cause => fail (.invalid cause)

/-- Resources of a kind whose name resembles a text. A reply that is no array holds none. -/
def search (kind : Kind) (name : String) : Plan (List Json) :=
  call (.search kind name) fun reply => done reply.items

/-- The document at a path. -/
def get (path : String) : Plan Json := call (.get path) done

/-- Creates at a path. -/
def post (path : String) (query : List (String × String)) (body : Json) : Plan Json :=
  call (.post path query body) done

/-- Replaces the document at a path. -/
def put (path : String) (body : Json) : Plan Json := call (.put path body) done

/-- Deletes the document at a path. The reply has no meaning. -/
def delete (path : String) : Plan Unit := call (.delete path) fun _ => done ()

/-- Asks the user. -/
def confirm (question : Question) : Plan Bool := ask question done

/-- Assigns a value to a key of a document. -/
def assign (key : String) (value : Json) (document : Json) : Plan Json :=
  match document.assign key value with
  | .ok document => done document
  | .error (.notAnObject key) => fail (.notAnObject key)

end Plan

end SignalBoard
