/-
# How a store grows

Creating takes steps of three kinds only, however many documents it creates and wherever it fails:
an identifier is given away, a document is added under a fresh identifier, or the list of a group
gets longer. So whatever is created, every step of it is one of these, and no document is replaced
by another or removed.
-/

import SignalBoard.Proofs.Store.Change

namespace SignalBoard

/-- The document is another one with more dashboards at the end of its list. -/
structure Json.ListsMore (old new : Json) : Prop where
  elsewhere : ∀ key, key ≠ "dashboards" → new.get? key = old.get? key
  list : ∀ members, old.get? "dashboards" = some (.arr members) →
    ∃ added, new.get? "dashboards" = some (.arr (members ++ added))

namespace Json.ListsMore

theorem refl (document : Json) : document.ListsMore document where
  elsewhere _ _ := rfl
  list members lists := ⟨[], by rwa [List.append_nil]⟩

theorem trans {first second third : Json} (earlier : first.ListsMore second)
    (later : second.ListsMore third) : first.ListsMore third where
  elsewhere key other := (later.elsewhere key other).trans (earlier.elsewhere key other)
  list members lists := by
    obtain ⟨added, lists⟩ := earlier.list members lists
    obtain ⟨more, lists⟩ := later.list _ lists
    exact ⟨added ++ more, by rwa [← List.append_assoc]⟩

end Json.ListsMore

namespace Store

/-- One way in which a store grows. -/
inductive Growth : Store → Store → Prop
  | allocate (store : Store) : Growth store store.allocate
  | add (store : Store) (endpoint : String) {document : Json}
      (stamped : document.Stamped (ident (store.allocated + 1))) :
      Growth store (store.allocate.set (endpoint ++ "/" ++ ident (store.allocated + 1)) document)
  | list (store : Store) {groupId : String} {old new : Json}
      (stored : store.documents.get? (Kind.group.path groupId) = some old)
      (same : ∀ id, old.Stamped id → new.Stamped id) (longer : old.ListsMore new) :
      Growth store (store.set (Kind.group.path groupId) new)

/-- A store grows by any number of steps. -/
def Grows : Store → Store → Prop := Relation.ReflTransGen Growth

theorem Grows.refl (store : Store) : Grows store store := Relation.ReflTransGen.refl

/-- A store that grows changes. -/
theorem Growth.step {first second : Store} (growth : Growth first second) : Step first second := by
  cases growth with
  | allocate => exact .allocate first
  | add endpoint stamped => exact .add first endpoint stamped
  | list stored same longer => exact .replace first stored same

theorem Grows.evolves {first last : Store} (grows : Grows first last) : Evolves first last :=
  Relation.ReflTransGen.mono (fun _ _ => Growth.step) first last grows

/-- Adding a document grows the store, also if the document is no object and is refused. -/
theorem grows_add (endpoint : String) (document : Json) (store : Store) :
    Grows store (perform (add endpoint document) store).2 := by
  rw [perform_add]
  split
  case h_1 added assigned => exact .single (.add store endpoint (.of_assign_id assigned))
  case h_2 => exact .single (.allocate store)

/-- The list of a group that has one is changed; otherwise nothing is, or a list is put there. -/
theorem changeMembers_eq_ok {change : List Json → List Json} {group changed : Json}
    {store : Store} (ended : (perform (changeMembers change group) store).1 = .ok changed) :
    changed = group ∨ ∃ value, group.assign "dashboards" value = .ok changed ∧
      ∀ members, group.get? "dashboards" = some (.arr members) → value = .arr (change members) := by
  unfold changeMembers at ended
  split at ended
  case h_2 => exact .inl (Except.ok.inj ended).symm
  all_goals
    rename_i listed
    rw [perform_assign] at ended
    split at ended
    case h_2 => cases ended
    case h_1 assigned =>
      obtain rfl := Except.ok.inj ended
      refine .inr ⟨_, assigned, fun members lists => ?_⟩
      rw [listed] at lists
      cases lists <;> rfl

/-- Changing the list of a group leaves its identifier alone. -/
theorem stamped_changeMembers {change : List Json → List Json} {group changed : Json}
    {store : Store} (ended : (perform (changeMembers change group) store).1 = .ok changed)
    (id : String) (stamped : group.Stamped id) : changed.Stamped id := by
  rcases changeMembers_eq_ok ended with rfl | ⟨value, assigned, -⟩
  · exact stamped
  · exact stamped.of_assign (by decide) assigned

/-- A group to whose list dashboards are added lists more. -/
theorem listsMore_changeMembers {added : List Json} {group changed : Json} {store : Store}
    (ended : (perform (changeMembers (· ++ added) group) store).1 = .ok changed) :
    group.ListsMore changed := by
  rcases changeMembers_eq_ok ended with rfl | ⟨value, assigned, lists⟩
  · exact .refl changed
  · refine ⟨fun key other => Json.get?_of_assign_of_ne assigned other, fun members listed => ?_⟩
    exact ⟨added, by rw [Json.get?_of_assign assigned, lists members listed]⟩

@[simp] theorem changeMembers_snd (change : List Json → List Json) (group : Json)
    (store : Store) : (perform (changeMembers change group) store).2 = store := by
  unfold changeMembers
  split <;> simp

/-- Changing the list of a group changes that group, if it is there, and nothing else. -/
theorem updateMembers_snd (groupId : String) (change : List Json → List Json) (store : Store) :
    (perform (updateMembers groupId change) store).2 = store ∨ ∃ group changed,
      store.documents.get? (Kind.group.path groupId) = some group ∧
      (perform (changeMembers change group) store).1 = .ok changed ∧
      (perform (updateMembers groupId change) store).2 =
        store.set (Kind.group.path groupId) changed := by
  simp only [updateMembers, perform_bind, perform_get]
  split
  case h_1 group stored =>
    have still := changeMembers_snd change group store
    rcases outcome : perform (changeMembers change group) store with ⟨fault | changed, after⟩ <;>
      rw [outcome] at still <;> obtain rfl : after = store := still
    · rw [perform_bind, outcome]
      exact .inl rfl
    · rw [perform_bind, outcome]
      exact .inr ⟨group, changed, stored, congrArg Prod.fst outcome, rfl⟩
  case h_2 => exact .inl rfl

theorem grows_updateMembers (groupId : String) (added : List Json) (store : Store) :
    Grows store (perform (updateMembers groupId (· ++ added)) store).2 := by
  rcases updateMembers_snd groupId (· ++ added) store with
    same | ⟨group, changed, stored, ended, set⟩
  · rw [same]
    exact .refl store
  · rw [set]
    exact .single (.list store stored (stamped_changeMembers ended)
      (listsMore_changeMembers ended))

theorem grows_addDashboard (name groupId : String) (layout : List Json) (store : Store) :
    Grows store (perform (addDashboard name groupId layout) store).2 := by
  unfold addDashboard
  refine steps_bind (grows_add ..) fun dashboard _ => ?_
  exact steps_bind (grows_updateMembers ..) fun _ _ => .refl

theorem grows_addGroup (body : Json) (store : Store) :
    Grows store (perform (addGroup body) store).2 :=
  steps_bind_of_snd_eq (assign_snd ..) fun _ _ => grows_add ..

theorem grows_addCharts (place : Nat) (charts : List Json) (store : Store) :
    Grows store (perform (addCharts place charts) store).2 := by
  induction charts generalizing place store with
  | nil => exact .refl store
  | cons chart rest ih =>
      unfold addCharts
      refine steps_bind (grows_add ..) fun created _ => ?_
      exact steps_bind (ih ..) fun _ _ => .refl

theorem grows_addSimpleDashboard (name : String) (charts : List Json) (store : Store) :
    Grows store (perform (addSimpleDashboard name charts) store).2 := by
  unfold addSimpleDashboard
  refine steps_bind (grows_addGroup ..) fun group _ => ?_
  exact steps_bind (grows_addCharts ..) fun layout _ => grows_addDashboard ..

theorem grows_copyPlaced (entry : Json) (store : Store) :
    Grows store (perform (copyPlaced entry) store).2 := by
  unfold copyPlaced
  refine steps_bind_of_snd_eq (fetch_snd ..) fun chart _ => ?_
  refine steps_bind (grows_add ..) fun copy _ => ?_
  rw [assign_snd]

/-- The charts are copied one after the other, until one of them is missing. -/
theorem grows_mapM_copyPlaced (entries : List Json) (store : Store) :
    Grows store (perform (entries.mapM copyPlaced) store).2 :=
  steps_mapM grows_copyPlaced entries store

theorem grows_clone (groupId sourceId : String) (store : Store) :
    Grows store (perform (clone groupId sourceId) store).2 := by
  unfold clone
  refine steps_bind_of_snd_eq (fetch_snd ..) fun source _ => ?_
  refine steps_bind_of_snd_eq (fetch_snd ..) fun _ _ => ?_
  exact steps_bind (grows_mapM_copyPlaced ..) fun layout _ => grows_addDashboard ..

/-- Creating grows the store, wherever it fails. -/
theorem grows_post (path : String) (query : List (String × String)) (body : Json)
    (store : Store) : Grows store (perform (post path query body) store).2 := by
  unfold post
  dsimp only
  split
  · exact grows_add ..
  split
  · exact grows_addSimpleDashboard ..
  split
  · have addBoth : ∀ body, Grows store (perform (do
        let group ← addGroup body
        let _ ← addDashboard "Default Dashboard" (idOf group) []
        fetch (Kind.group.path (idOf group)) : Action Json) store).2 := fun body =>
      steps_bind (grows_addGroup ..) fun group _ =>
        steps_bind (grows_addDashboard ..) fun _ _ => by rw [fetch_snd]
    split
    · exact steps_bind_of_snd_eq (assign_snd ..) fun body _ => addBoth body
    · exact addBoth body
  · split
    · exact grows_clone ..
    · exact .refl store

/-- Seeding grows the store. -/
theorem grows_seed (endpoint : String) (document : Json) (store : Store) :
    Grows store (seed endpoint document store).2 := by
  change Grows store (perform (add endpoint document >>= fun added => pure (idOf added)) store).2
  exact steps_bind (grows_add ..) fun _ _ => .refl

end Store

end SignalBoard
