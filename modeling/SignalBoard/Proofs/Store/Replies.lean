/-
# What replies tell

A store that is reached by its own operations does not mislead those who go by its replies. What it
reads has the last segment of its path for an identifier, and whatever it finds or creates has an
identifier that the store gave to it, so that this is the last segment of its path as well.
-/

import SignalBoard.Proofs.Store.Success

namespace SignalBoard

/-- The reply does not mislead: a document is read with the last segment of its path for an
identifier, and one that is found or created has an identifier without slashes. -/
def Request.Honest : Request → Json → Prop
  | search _ _, reply => ∀ document ∈ reply.items, ∀ id, document.id? = some id → '/' ∉ id.toList
  | get path, reply => reply.id? = some (Store.lastSegment path)
  | post _ _ _, reply => ∀ id, reply.id? = some id → '/' ∉ id.toList
  | _, _ => True

namespace Store

variable {α β : Type} {store after : Store} {reply : Json}

/-- The last segment of a path holds no slash. -/
theorem slash_not_mem_lastSegment (path : String) : '/' ∉ (lastSegment path).toList := by
  have last := Text.fields_ne_nil '/' path.toList
  rw [lastSegment, String.toList_ofList, List.getLastD_eq_getLast?,
    List.getLast?_eq_some_getLast last, Option.getD_some]
  exact Text.not_mem_of_mem_fields '/' path.toList _ (List.getLast_mem last)

/-- Consecutive actions that come to a value: the first comes to one, and the second goes on. -/
theorem perform_bind_eq_ok {action : Action α} {next : α → Action β} {value : β}
    (ended : perform (action >>= next) store = (.ok value, after)) :
    ∃ first between, perform action store = (.ok first, between) ∧
      perform (next first) between = (.ok value, after) := by
  rw [perform_bind] at ended
  rcases came : perform action store with ⟨fault | first, between⟩
  · rw [came] at ended
    cases ended
  · rw [came] at ended
    exact ⟨first, between, rfl, ended⟩

/-- An action that leaves the store alone, and then another one: the second does the same alone. -/
theorem perform_bind_eq_ok_of_snd_eq {action : Action α} {next : α → Action β} {value : β}
    (still : (perform action store).2 = store)
    (ended : perform (action >>= next) store = (.ok value, after)) :
    ∃ first, (perform action store).1 = .ok first ∧
      perform (next first) store = (.ok value, after) := by
  obtain ⟨first, between, came, rest⟩ := perform_bind_eq_ok ended
  rw [came] at still
  obtain rfl : between = store := still
  exact ⟨first, congrArg Prod.fst came, rest⟩

/-- What is added is kept under the identifier that was given for it. -/
theorem stored_of_add {endpoint : String} {document : Json}
    (added : perform (add endpoint document) store = (.ok reply, after)) :
    reply.Stamped (ident (store.allocated + 1)) ∧
      after = store.allocate.set (endpoint ++ "/" ++ ident (store.allocated + 1)) reply := by
  rw [perform_add] at added
  split at added
  case h_1 changed assigned =>
    obtain ⟨same, rfl⟩ := Prod.mk.inj added
    obtain rfl : changed = reply := Except.ok.inj same
    exact ⟨.of_assign_id assigned, rfl⟩
  case h_2 => cases added

/-- The document is kept under an identifier that was not given before. -/
def Issued (before after : Store) (document : Json) : Prop :=
  ∃ endpoint n, before.allocated < n ∧ document.Stamped (ident n) ∧
    after.documents.get? (endpoint ++ "/" ++ ident n) = some document

theorem issued_of_add {endpoint : String} {document : Json}
    (added : perform (add endpoint document) store = (.ok reply, after)) :
    Issued store after reply := by
  obtain ⟨stamped, rfl⟩ := stored_of_add added
  exact ⟨endpoint, _, Nat.lt_succ_self _, stamped, by rw [get?_set, if_pos rfl]⟩

/-- A dashboard that is added is kept. The list of its group is somewhere else. -/
theorem issued_of_addDashboard {before : Store} {name groupId : String} {layout : List Json}
    (later : before.allocated ≤ store.allocated)
    (added : perform (addDashboard name groupId layout) store = (.ok reply, after)) :
    Issued before after reply := by
  obtain ⟨dashboard, between, first, added⟩ := perform_bind_eq_ok added
  obtain ⟨_, last, second, added⟩ := perform_bind_eq_ok added
  obtain ⟨same, rfl⟩ : (.ok dashboard : Except Fault Json) = .ok reply ∧ last = after :=
    Prod.mk.inj added
  obtain rfl := Except.ok.inj same
  obtain ⟨stamped, rfl⟩ := stored_of_add first
  refine ⟨Kind.dashboard.endpoint, _, Nat.lt_succ_of_le later, stamped, ?_⟩
  have updated := updateMembers_snd groupId (· ++ [dashboard.field "id"])
    (store.allocate.set
      (Kind.dashboard.endpoint ++ "/" ++ ident (store.allocated + 1)) dashboard)
  rw [second] at updated
  rcases updated with rfl | ⟨_, _, -, -, rfl⟩
  · rw [get?_set, if_pos rfl]
  · have elsewhere : Kind.dashboard.endpoint ++ "/" ++ ident (store.allocated + 1) ≠
        Kind.group.path groupId := Kind.path_ne (by decide) _ _
    rw [get?_set, if_neg elsewhere, get?_set, if_pos rfl]

/-- An action that grows the store takes no identifier back. -/
theorem Grows.allocated_le {action : Action α} {value : α}
    (grows : Grows store (perform action store).2)
    (ended : perform action store = (.ok value, after)) : store.allocated ≤ after.allocated := by
  rw [ended] at grows
  exact grows.evolves.allocated_le

/-- A group that is created is kept. What is read at the end is the group that was added, with the
dashboard that it lists by then. -/
theorem Sound.issued_of_group (sound : after.Sound) {body : Json}
    (created : perform (do
      let group ← addGroup body
      let _ ← addDashboard "Default Dashboard" (idOf group) []
      fetch (Kind.group.path (idOf group)) : Action Json) store = (.ok reply, after)) :
    Issued store after reply := by
  obtain ⟨group, between, first, rest⟩ := perform_bind_eq_ok created
  obtain ⟨_, last, -, read⟩ := perform_bind_eq_ok rest
  obtain ⟨_, -, first⟩ := perform_bind_eq_ok_of_snd_eq (assign_snd ..) first
  have identified : idOf group = ident (store.allocated + 1) := by
    rw [idOf, Json.field_of_get? (stored_of_add first).1.get?_id]
    rfl
  rw [identified] at read
  have unread := fetch_snd (Kind.group.path (ident (store.allocated + 1))) last
  rw [read] at unread
  obtain rfl : after = last := unread
  have stored := fetch_eq_ok (congrArg Prod.fst read)
  obtain ⟨endpoint, n, atPath, stamped, -⟩ := sound.issued _ _ stored
  obtain ⟨rfl, rfl⟩ := path_split atPath
  exact ⟨Kind.group.endpoint, _, Nat.lt_succ_self _, stamped, stored⟩

/-- Whatever is created is kept under an identifier that was given for it. -/
theorem Sound.issued_of_post (sound : store.Sound) {path : String} {query : List (String × String)}
    {body : Json} (created : server (.post path query body) store = (.ok reply, after)) :
    Issued store after reply := by
  have later := sound.of_server created
  rw [server_eq_perform, answer, post] at created
  dsimp only at created
  split at created
  case isTrue => exact issued_of_add created
  case isFalse =>
  split at created
  case isTrue =>
    obtain ⟨group, between, first, created⟩ := perform_bind_eq_ok created
    obtain ⟨_, last, second, created⟩ := perform_bind_eq_ok created
    exact issued_of_addDashboard (((grows_addGroup ..).allocated_le first).trans
      ((grows_addCharts ..).allocated_le second)) created
  case isFalse =>
  split at created
  case isTrue =>
    split at created
    case h_1 =>
      obtain ⟨_, -, created⟩ := perform_bind_eq_ok_of_snd_eq (assign_snd ..) created
      exact later.issued_of_group created
    case h_2 => exact later.issued_of_group created
  case isFalse =>
  split at created
  case h_1 =>
    obtain ⟨_, -, created⟩ := perform_bind_eq_ok_of_snd_eq (fetch_snd ..) created
    obtain ⟨_, -, created⟩ := perform_bind_eq_ok_of_snd_eq (fetch_snd ..) created
    obtain ⟨_, _, copied, created⟩ := perform_bind_eq_ok created
    exact issued_of_addDashboard ((grows_mapM_copyPlaced ..).allocated_le copied) created
  case h_2 => cases created

/-- A sound store tells the identifiers under which it keeps its documents. -/
theorem Sound.honest (sound : store.Sound) {request : Request}
    (answered : server request store = (.ok reply, after)) : request.Honest reply := by
  cases request with
  | search kind name =>
      obtain rfl : _ = reply := Except.ok.inj (Prod.mk.inj answered).1
      intro document member id identified
      obtain ⟨id', stored⟩ := (mem_under_iff sound.ordered kind document).mp
        (List.mem_filter.mp member).1
      obtain rfl : id = id' :=
        Option.some.inj (identified.symm.trans (sound.id_of_resource? stored).1)
      exact clean_of_resource? stored
  | get path => exact sound.identified (stored_of_get answered).1
  | post path query body =>
      obtain ⟨_, n, -, stamped, -⟩ := sound.issued_of_post answered
      intro id identified
      obtain rfl : id = ident n := Option.some.inj (identified.symm.trans stamped.id?_eq)
      exact slash_not_mem_ident n
  | put path body => trivial
  | delete path => trivial

end Store

end SignalBoard
