/-
# Every request is a run of steps

The actions that answer requests are put together from the four kinds of step, whether they end
with a reply or with a fault half way. What creates takes only the steps by which a store grows;
replacing and deleting take the others. Seeding a document is one of them.
-/

import SignalBoard.Proofs.Store.Growth

namespace SignalBoard.Store

theorem evolves_updateMembers (groupId : String) (change : List Json → List Json)
    (store : Store) : Evolves store (perform (updateMembers groupId change) store).2 := by
  rcases updateMembers_snd groupId change store with same | ⟨group, changed, stored, ended, set⟩
  · rw [same]
    exact Evolves.refl store
  · rw [set]
    exact (Step.replace store stored (stamped_changeMembers ended)).evolves

theorem evolves_put (path : String) (body : Json) (store : Store) :
    Evolves store (perform (put path body) store).2 := by
  unfold put
  refine steps_bind_of_snd_eq (fetch_snd ..) fun current fetched => ?_
  refine steps_bind_of_snd_eq (assign_snd ..) fun updated assigned => ?_
  refine (Step.replace store (fetch_eq_ok fetched) fun id stamped => ?_).evolves
  rw [Json.field_of_get? stamped.get?_id, perform_assign] at assigned
  split at assigned
  case h_1 assigned' =>
    obtain rfl := Except.ok.inj assigned
    exact .of_assign_id assigned'
  case h_2 => cases assigned

theorem evolves_delete (path : String) (store : Store) :
    Evolves store (perform (delete path) store).2 := by
  unfold delete
  refine steps_bind_of_snd_eq (fetch_snd ..) fun removed _ => ?_
  refine steps_bind (Step.remove store path).evolves fun _ _ => ?_
  split
  · exact evolves_updateMembers ..
  split
  · refine steps_forM ?_ ..
    intro id store
    exact (Step.remove store _).evolves
  · exact Evolves.refl _

/-- Answering any request evolves the store, whatever the answer is. -/
theorem evolves_server (request : Request) (store : Store) :
    Evolves store (server request store).2 := by
  rw [server_eq_perform]
  cases request with
  | search kind name => exact Evolves.refl store
  | get path =>
      simp only [answer, fetch_snd]
      exact Evolves.refl store
  | post path query body => exact (grows_post ..).evolves
  | put path body => exact evolves_put ..
  | delete path => exact steps_bind (evolves_delete ..) fun _ _ => Evolves.refl _

/-- Seeding evolves the store. -/
theorem evolves_seed (endpoint : String) (document : Json) (store : Store) :
    Evolves store (seed endpoint document store).2 := (grows_seed ..).evolves

end SignalBoard.Store
