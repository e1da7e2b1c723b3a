/-
# How a store changes

Whatever is asked of a store, it changes in four ways only: an identifier is given away, a
document is added under a fresh identifier, a document is replaced by one with the same
identifier, or a document is removed. Every action of a store, requests that fail half way
included, is a run of such steps, so what each step keeps is kept by everything a store does.
-/

import Mathlib.Logic.Relation
import SignalBoard.Proofs.Json.Lookup
import SignalBoard.Proofs.Store.Path
import SignalBoard.Reconcile.Lookup

namespace SignalBoard

/-- A document names the identifier that it was given. -/
theorem Json.Stamped.id?_eq {id : String} {document : Json} (stamped : document.Stamped id) :
    document.id? = some id := by
  simp [Json.id?, stamped.get?_id, Json.string?]

/-- The identifier of a document, as it is assigned to another. -/
theorem Json.field_of_id? {id : String} {document : Json} (identified : document.id? = some id) :
    document.field "id" = .str id := by
  obtain ⟨value, held, text⟩ := Option.bind_eq_some_iff.mp identified
  rw [field_of_get? held]
  cases value <;> simp_all [string?]

/-- Changing another field leaves the name. -/
theorem Json.name?_withField {document : Json} (object : document.isObject = true)
    {key : String} (other : key ≠ "name") (value : Json) :
    (document.withField key value).name? = document.name? := by
  rw [name?, get?_withField object, if_neg (Ne.symm other), name?]

/-- A document that has an identifier is an object. -/
theorem Json.isObject_of_id? {id : String} {document : Json} (identified : document.id? = some id) :
    document.isObject = true := by
  obtain ⟨value, held, -⟩ := Option.bind_eq_some_iff.mp identified
  exact isObject_of_get? held

namespace Store

variable {α β : Type}

/-- What an action comes to, and the store it leaves. -/
def perform (action : Action α) (store : Store) : Except Fault α × Store := action.run.run store

theorem server_eq_perform (request : Request) (store : Store) :
    server request store = perform (answer request) store := rfl

@[simp] theorem perform_pure (value : α) (store : Store) :
    perform (pure value) store = (.ok value, store) := rfl

/-- Consecutive actions: a fault of the first one ends both. -/
@[simp] theorem perform_bind (action : Action α) (next : α → Action β) (store : Store) :
    perform (action >>= next) store =
      match perform action store with
      | (.ok value, after) => perform (next value) after
      | (.error fault, after) => (.error fault, after) := by
  simp only [perform, ExceptT.run_bind, StateT.run_bind]
  rcases action.run.run store with ⟨reply | reply, after⟩ <;> rfl

@[simp] theorem perform_get (store : Store) : perform get store = (.ok store, store) := rfl

@[simp] theorem perform_modify (change : Store → Store) (store : Store) :
    perform (modify change) store = (.ok (), change store) := rfl

@[simp] theorem perform_throw (fault : Fault) (store : Store) :
    perform (throw fault : Action α) store = (.error fault, store) := rfl

/-- The store with one more identifier given away. -/
def allocate (store : Store) : Store := { store with allocated := store.allocated + 1 }

/-- The store with a document at a path. -/
def set (store : Store) (path : String) (document : Json) : Store :=
  { store with documents := store.documents.insert path document }

/-- The store without a document at a path. -/
def remove (store : Store) (path : String) : Store :=
  { store with documents := store.documents.erase path }

@[simp] theorem perform_keep (path : String) (document : Json) (store : Store) :
    perform (keep path document) store = (.ok (), store.set path document) := rfl

@[simp] theorem perform_drop (path : String) (store : Store) :
    perform (drop path) store = (.ok (), store.remove path) := rfl

/-- One way in which a store changes. -/
inductive Step : Store → Store → Prop
  | allocate (store : Store) : Step store store.allocate
  | add (store : Store) (endpoint : String) {document : Json}
      (stamped : document.Stamped (ident (store.allocated + 1))) :
      Step store (store.allocate.set (endpoint ++ "/" ++ ident (store.allocated + 1)) document)
  | replace (store : Store) {path : String} {old new : Json}
      (stored : store.documents.get? path = some old)
      (same : ∀ id, old.Stamped id → new.Stamped id) :
      Step store (store.set path new)
  | remove (store : Store) (path : String) : Step store (store.remove path)

/-- A store changes by any number of steps. -/
def Evolves : Store → Store → Prop := Relation.ReflTransGen Step

theorem Evolves.refl (store : Store) : Evolves store store := Relation.ReflTransGen.refl

theorem Step.evolves {first second : Store} (step : Step first second) : Evolves first second :=
  Relation.ReflTransGen.single step

section

variable {step : Store → Store → Prop}

/-- Consecutive actions change a store by steps of some kind if each of them does. -/
theorem steps_bind {action : Action α} {next : α → Action β} {store : Store}
    (first : Relation.ReflTransGen step store (perform action store).2)
    (second : ∀ value, (perform action store).1 = .ok value →
      Relation.ReflTransGen step (perform action store).2
        (perform (next value) (perform action store).2).2) :
    Relation.ReflTransGen step store (perform (action >>= next) store).2 := by
  rw [perform_bind]
  rcases outcome : perform action store with ⟨reply | value, after⟩
  · rw [outcome] at first
    exact first
  · rw [outcome] at first second
    exact first.trans (second value rfl)

/-- An action that leaves the store alone, whatever follows it. -/
theorem steps_bind_of_snd_eq {action : Action α} {next : α → Action β} {store : Store}
    (still : (perform action store).2 = store)
    (second : ∀ value, (perform action store).1 = .ok value →
      Relation.ReflTransGen step store (perform (next value) store).2) :
    Relation.ReflTransGen step store (perform (action >>= next) store).2 := by
  refine steps_bind (by rw [still]) ?_
  intro value ended
  rw [still]
  exact second value ended

/-- Doing the same for all items of a list takes steps of some kind if doing it for one does. -/
theorem steps_mapM {action : α → Action β} (each : ∀ item store,
    Relation.ReflTransGen step store (perform (action item) store).2) (items : List α)
    (store : Store) : Relation.ReflTransGen step store (perform (items.mapM action) store).2 := by
  induction items generalizing store with
  | nil => exact .refl
  | cons item rest ih =>
      rw [List.mapM_cons]
      refine steps_bind (each item store) fun value _ => ?_
      exact steps_bind (ih _) fun values _ => .refl

/-- Doing something for all items of a list takes steps of some kind if doing it for one does. -/
theorem steps_forM {action : α → Action Unit} (each : ∀ item store,
    Relation.ReflTransGen step store (perform (action item) store).2) (items : List α)
    (store : Store) : Relation.ReflTransGen step store (perform (items.forM action) store).2 := by
  induction items generalizing store with
  | nil => exact .refl
  | cons item rest ih =>
      change Relation.ReflTransGen step store
        (perform (action item >>= fun _ => rest.forM action) store).2
      exact steps_bind (each item store) fun _ _ => ih _

end

/-- Reading changes nothing. -/
theorem perform_fetch (path : String) (store : Store) :
    perform (fetch path) store =
      match store.documents.get? path with
      | some document => (.ok document, store)
      | none => (.error (.notFound path), store) := by
  simp only [fetch, perform_bind, perform_get]
  cases store.documents.get? path <;> rfl

theorem fetch_eq_ok {path : String} {store : Store} {document : Json}
    (fetched : (perform (fetch path) store).1 = .ok document) :
    store.documents.get? path = some document := by
  rw [perform_fetch] at fetched
  cases stored : store.documents.get? path <;> simp_all

@[simp] theorem fetch_snd (path : String) (store : Store) :
    (perform (fetch path) store).2 = store := by
  rw [perform_fetch]
  cases store.documents.get? path <;> rfl

/-- Assigning to a key of a document changes nothing in the store. -/
theorem perform_assign (key : String) (value document : Json) (store : Store) :
    perform (assign key value document) store =
      match document.assign key value with
      | .ok changed => (.ok changed, store)
      | .error (.notAnObject key) => (.error (.notAnObject key), store) := by
  unfold assign
  rcases document.assign key value with ⟨⟨_⟩⟩ | _ <;> rfl

@[simp] theorem assign_snd (key : String) (value document : Json) (store : Store) :
    (perform (assign key value document) store).2 = store := by
  rw [perform_assign]
  split <;> rfl

/-- Adding a document: an identifier is given away in any case. -/
theorem perform_add (endpoint : String) (document : Json) (store : Store) :
    perform (add endpoint document) store =
      match document.assign "id" (.str (ident (store.allocated + 1))) with
      | .ok added =>
          (.ok added,
            store.allocate.set (endpoint ++ "/" ++ ident (store.allocated + 1)) added)
      | .error (.notAnObject key) => (.error (.notAnObject key), store.allocate) := by
  have id : "id-" ++ String.ofList (natText (store.allocated + 1)) =
    ident (store.allocated + 1) := rfl
  simp only [add, perform_bind, perform_modify, perform_get, perform_assign, id]
  rcases document.assign "id" (.str (ident (store.allocated + 1))) with ⟨⟨_⟩⟩ | _ <;> rfl

end Store

end SignalBoard
