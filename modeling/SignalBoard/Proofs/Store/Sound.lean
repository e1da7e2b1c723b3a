/-
# Sound stores

A store that is reached by its own operations keeps its paths ascending, and every document under
the path of an identifier that the store gave to it. So a fresh identifier is on no path, and a
resource is found under the identifier that it names itself. Which endpoint is seeded, and
whether a request fails, makes no difference.
-/

import SignalBoard.Proofs.Store.Evolution
import SignalBoard.Proofs.Store.Resource

namespace SignalBoard.Store

/-- The paths ascend, and every document is kept under an identifier that the store gave to it. -/
structure Sound (store : Store) : Prop where
  ordered : store.documents.Ordered
  issued : ∀ path document, store.documents.get? path = some document →
    ∃ endpoint n, path = endpoint ++ "/" ++ ident n ∧ document.Stamped (ident n) ∧
      1 ≤ n ∧ n ≤ store.allocated

/-- The stores reached from the empty one by seeding documents and answering requests. -/
inductive Reachable : Store → Prop
  | empty : Reachable {}
  | seed {store : Store} (endpoint : String) (document : Json) (reachable : Reachable store) :
      Reachable (store.seed endpoint document).2
  | request {store : Store} (request : Request) (reachable : Reachable store) :
      Reachable (server request store).2

/-- Looking a path up after a document was put at one. -/
@[simp] theorem get?_set (store : Store) (path other : String) (document : Json) :
    (store.set path document).documents.get? other =
      if other = path then some document else store.documents.get? other :=
  Table.get?_insert ..

/-- Looking a path up after a document was removed. -/
@[simp] theorem get?_remove (store : Store) (path other : String) :
    (store.remove path).documents.get? other =
      if other = path then none else store.documents.get? other :=
  Table.get?_erase ..

@[simp] theorem documents_allocate (store : Store) :
    store.allocate.documents = store.documents := rfl

@[simp] theorem allocated_allocate (store : Store) :
    store.allocate.allocated = store.allocated + 1 := rfl

@[simp] theorem allocated_set (store : Store) (path : String) (document : Json) :
    (store.set path document).allocated = store.allocated := rfl

@[simp] theorem allocated_remove (store : Store) (path : String) :
    (store.remove path).allocated = store.allocated := rfl

theorem sound_empty : Sound {} where
  ordered := Table.ordered_nil
  issued := by
    intro path document stored
    cases stored

/-- Each step keeps a store sound. -/
theorem Step.sound {first second : Store} (step : Step first second) (sound : first.Sound) :
    second.Sound := by
  cases step with
  | allocate =>
      refine ⟨sound.ordered, fun path document stored => ?_⟩
      obtain ⟨endpoint, n, atPath, identified, positive, given⟩ := sound.issued path document stored
      exact ⟨endpoint, n, atPath, identified, positive, Nat.le_succ_of_le given⟩
  | @add endpoint added identified =>
      refine ⟨sound.ordered.insert _ _, fun path document stored => ?_⟩
      rw [get?_set] at stored
      split at stored
      case isTrue here =>
        obtain rfl := Option.some.inj stored
        exact ⟨endpoint, first.allocated + 1, here, identified, by omega, by simp⟩
      case isFalse elsewhere =>
        obtain ⟨endpoint, n, atPath, known, positive, given⟩ := sound.issued path document stored
        exact ⟨endpoint, n, atPath, known, positive, Nat.le_succ_of_le given⟩
  | @replace changed old new stored same =>
      refine ⟨sound.ordered.insert _ _, fun path document found => ?_⟩
      rw [get?_set] at found
      split at found
      case isTrue here =>
        obtain rfl := Option.some.inj found
        obtain ⟨endpoint, n, atPath, known, positive, given⟩ := sound.issued changed old stored
        exact ⟨endpoint, n, here.trans atPath, same _ known, positive, given⟩
      case isFalse elsewhere => exact sound.issued path document found
  | remove removed =>
      refine ⟨sound.ordered.erase _, fun path document found => ?_⟩
      rw [get?_remove] at found
      split at found
      · cases found
      · exact sound.issued path document found

theorem Evolves.sound {first last : Store} (evolves : first.Evolves last) (sound : first.Sound) :
    last.Sound := by
  induction evolves with
  | refl => exact sound
  | tail _ step ih => exact step.sound ih

/-- A store never takes an identifier back. -/
theorem Evolves.allocated_le {first last : Store} (evolves : first.Evolves last) :
    first.allocated ≤ last.allocated := by
  induction evolves with
  | refl => exact Nat.le_refl _
  | tail _ step ih =>
      refine Nat.le_trans ih ?_
      cases step <;> simp

/-- Answering a request keeps a store sound. -/
theorem sound_server (request : Request) (store : Store) (sound : store.Sound) :
    (server request store).2.Sound :=
  (evolves_server request store).sound sound

/-- The store that an answer leaves is sound. -/
theorem Sound.of_server {store after : Store} (sound : store.Sound) {request : Request}
    {outcome : Except Fault Json} (answered : server request store = (outcome, after)) :
    after.Sound := by
  have kept := sound_server request store sound
  rwa [answered] at kept

/-- What a store reaches by its own operations is sound. -/
theorem Reachable.sound {store : Store} (reachable : store.Reachable) : store.Sound := by
  induction reachable with
  | empty => exact sound_empty
  | seed endpoint document _ ih => exact (evolves_seed ..).sound ih
  | request request _ ih => exact sound_server request _ ih

namespace Sound

variable {store : Store}

/-- An identifier not yet given away is on no path. -/
theorem get?_fresh (sound : store.Sound) {n : Nat} (fresh : store.allocated < n)
    (endpoint : String) : store.documents.get? (endpoint ++ "/" ++ ident n) = none := by
  cases stored : store.documents.get? (endpoint ++ "/" ++ ident n) with
  | none => rfl
  | some document =>
      obtain ⟨endpoint', m, atPath, -, -, given⟩ := sound.issued _ _ stored
      obtain ⟨-, rfl⟩ := path_split atPath
      omega

/-- A resource is found under the identifier that it names itself, which the store gave. -/
theorem id_of_resource? (sound : store.Sound) {kind : Kind} {id : String} {document : Json}
    (found : store.resource? kind id = some document) :
    document.id? = some id ∧ ∃ n, id = ident n ∧ 1 ≤ n ∧ n ≤ store.allocated := by
  obtain ⟨endpoint, n, atPath, identified, positive, given⟩ :=
    sound.issued _ _ (get?_of_resource? found)
  have chars := congrArg String.toList atPath
  have slash : "/".toList = ['/'] := rfl
  simp only [Kind.path, String.toList_append, slash, List.append_assoc, List.singleton_append]
    at chars
  obtain ⟨-, last⟩ := split_at_last_slash (clean_of_resource? found) (slash_not_mem_ident n) chars
  obtain rfl := String.toList_injective last
  exact ⟨identified.id?_eq, n, rfl, positive, given⟩

/-- In a sound store every document names the last segment of its path. -/
theorem identified (sound : store.Sound) {path : String} {document : Json}
    (stored : store.documents.get? path = some document) :
    document.id? = some (lastSegment path) := by
  obtain ⟨endpoint, n, rfl, known, -⟩ := sound.issued path document stored
  rw [known.id?_eq, lastSegment_append endpoint (slash_not_mem_ident n)]

/-- The documents of a sound store are objects. -/
theorem isObject (sound : store.Sound) {path : String} {document : Json}
    (stored : store.documents.get? path = some document) : document.isObject = true := by
  obtain ⟨_, _, -, stamped, -⟩ := sound.issued _ _ stored
  exact stamped.1

end Sound

end SignalBoard.Store
