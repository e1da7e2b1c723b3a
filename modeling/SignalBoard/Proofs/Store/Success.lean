/-
# What a success tells

A request that was met tells of the store it met: what was read is stored, what was deleted was
there, and a name that identified one resource is the name of that resource only. Sound stores
that keep the same documents and have given as many identifiers are the same.
-/

import SignalBoard.Proofs.Plan.Partial
import SignalBoard.Proofs.Store.Answer

namespace SignalBoard.Store

variable {answer : Question → Bool} {store after : Store} {reply : Json}

/-- What was read is stored. -/
theorem stored_of_get {path : String} (answered : server (.get path) store = (.ok reply, after)) :
    store.documents.get? path = some reply ∧ after = store := by
  rw [server_eq_perform, Store.answer, perform_fetch] at answered
  cases stored : store.documents.get? path with
  | none => simp [stored] at answered
  | some document =>
      rw [stored] at answered
      obtain ⟨same, rfl⟩ := Prod.mk.inj answered
      exact ⟨congrArg some (Except.ok.inj same), rfl⟩

/-- What was replaced was stored. -/
theorem exists_of_put {path : String} {body : Json}
    (answered : server (.put path body) store = (.ok reply, after)) :
    ∃ old, store.documents.get? path = some old := by
  cases stored : store.documents.get? path with
  | none =>
      rw [server_eq_perform] at answered
      simp only [Store.answer, put, perform_bind, perform_fetch, stored] at answered
      cases answered
  | some old => exact ⟨old, rfl⟩

/-- A chart that was deleted was stored, and nothing else was deleted. -/
theorem eq_remove_of_delete_chart {id : String}
    (answered : server (.delete (Kind.chart.path id)) store = (.ok reply, after)) :
    (store.documents.get? (Kind.chart.path id)).isSome ∧
      after = store.remove (Kind.chart.path id) := by
  cases stored : store.documents.get? (Kind.chart.path id) with
  | none =>
      rw [server_eq_perform] at answered
      simp only [Store.answer, delete, perform_bind, perform_fetch, stored] at answered
      cases answered
  | some document =>
      rw [server_delete_chart stored] at answered
      exact ⟨rfl, (Prod.mk.inj answered).2.symm⟩

/-- The resources of a kind that a name identifies. -/
theorem yields_findUnique (kind : Kind) (name : String) :
    Plan.Yields server answer (findUnique kind name) store
      fun found after => store.named kind name = found.toList ∧ after = store := by
  apply Plan.yields_bind (ensures_findMatches kind name).yields
  rintro found after ⟨rfl, rfl⟩
  split
  case h_1 none => exact Plan.yields_pure ⟨none, rfl⟩
  case h_2 document one => exact Plan.yields_pure ⟨one, rfl⟩
  case h_3 => exact Plan.yields_fail _

/-- Without force and without a user to ask, only a name that is not taken passes. -/
theorem yields_guardCreate (kind : Kind) (name : String) :
    Plan.Yields server answer (guardCreate kind name {}) store
      fun _ after => store.named kind name = [] ∧ after = store := by
  apply Plan.yields_bind (ensures_findMatches kind name).yields
  rintro found after ⟨rfl, rfl⟩
  split
  case isTrue none => exact Plan.yields_pure ⟨List.isEmpty_iff.mp none, rfl⟩
  case isFalse =>
    show Plan.Yields server answer (if 1 < _ then _ else _) _ _
    split <;> exact Plan.yields_fail _

namespace Sound

variable {kind : Kind} {name : String} {remote : Json}

/-- A resource that a name identifies is stored under it. -/
theorem exists_of_named (sound : store.Sound) (alone : store.named kind name = [remote]) :
    ∃ id, store.resource? kind id = some remote ∧ remote.name? = some name := by
  have member : remote ∈ store.named kind name := by simp [alone]
  obtain ⟨among, isNamed⟩ := List.mem_filter.mp member
  obtain ⟨id, stored⟩ := (mem_under_iff sound.ordered kind remote).mp among
  exact ⟨id, stored, by simpa using isNamed⟩

/-- A name that identifies a resource is the name of no other. -/
theorem eq_of_named (sound : store.Sound) (alone : store.named kind name = [remote])
    {id id' : String} {other : Json} (stored : store.resource? kind id = some remote)
    (stored' : store.resource? kind id' = some other) (isNamed : other.name? = some name) :
    id' = id := by
  have member : other ∈ store.named kind name := List.mem_filter.mpr
    ⟨(mem_under_iff sound.ordered kind other).mpr ⟨id', stored'⟩, by simpa using isNamed⟩
  rw [alone, List.mem_singleton] at member
  subst member
  exact Option.some.inj
    ((sound.id_of_resource? stored').1.symm.trans (sound.id_of_resource? stored).1)

/-- Sound stores that keep the same and have given as many identifiers are the same. -/
theorem ext {first second : Store} (sound : first.Sound) (sound' : second.Sound)
    (allocated : first.allocated = second.allocated)
    (documents : ∀ path, first.documents.get? path = second.documents.get? path) :
    first = second := by
  have tables := sound.ordered.ext sound'.ordered documents
  cases first
  cases second
  simp_all

end Sound

end SignalBoard.Store
