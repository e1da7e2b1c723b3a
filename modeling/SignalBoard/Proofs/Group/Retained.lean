/-
# Documents of dashboards while dashboards are moved

Moving dashboards between groups writes no dashboard that is there: each that is left is the
document that it was. What is added are clones, under identifiers that were not given before, and a
clone has a name, a group and a layout, but none of the settings of a dashboard.
-/

import SignalBoard.Proofs.Integrity.Orderly

namespace SignalBoard

/-- The keys of the settings of a dashboard. -/
def Dashboard.settingKeys : List String :=
  ["description", "filters", "eventOverlays", "selectedEventOverlays"]

/-- The document has none of the settings of a dashboard. -/
def Json.Bare (document : Json) : Prop :=
  ∀ key ∈ Dashboard.settingKeys, document.get? key = none

theorem Store.bare_dashboardDocument (name groupId : String) (layout : List Json) (id : String) :
    (Store.dashboardDocument name groupId layout id).Bare := by
  intro key isSetting
  simp only [Dashboard.settingKeys, List.mem_cons, List.not_mem_nil, or_false] at isSetting
  rcases isSetting with rfl | rfl | rfl | rfl <;> rw [Store.get?_dashboardDocument] <;> rfl

namespace Store

variable {before between after store : Store}

/-- Every dashboard that is there was there before as it is, or was added since, bare. -/
structure Retains (before after : Store) : Prop where
  allocated : before.allocated ≤ after.allocated
  each : ∀ id document, after.resource? .dashboard id = some document →
    before.resource? .dashboard id = some document ∨
      document.Bare ∧ ∃ n, id = ident n ∧ before.allocated < n

namespace Retains

theorem refl (store : Store) : store.Retains store := ⟨le_rfl, fun _ _ stored => .inl stored⟩

theorem trans (earlier : before.Retains between) (later : between.Retains after) :
    before.Retains after := by
  refine ⟨earlier.allocated.trans later.allocated, fun id document stored => ?_⟩
  rcases later.each id document stored with known | ⟨bare, n, isNew, new⟩
  · exact earlier.each id document known
  · exact .inr ⟨bare, n, isNew, earlier.allocated.trans_lt new⟩

/-- What leaves the dashboards as they are retains them. -/
theorem of_spares (spares : before.Spares after) (allocated : before.allocated ≤ after.allocated) :
    before.Retains after := by
  refine ⟨allocated, fun id document stored => .inl ?_⟩
  rcases spares .dashboard (by decide) id with same | gone
  · exact resource?_congr same ▸ stored
  · cases gone.symm.trans (get?_of_resource? stored)

/-- What had an identifier before is as it was. -/
theorem resource?_eq (retains : before.Retains after) (sound : before.Sound) {id : String}
    {old document : Json} (known : before.resource? .dashboard id = some old)
    (stored : after.resource? .dashboard id = some document) : document = old := by
  rcases retains.each id document stored with same | ⟨-, n, rfl, new⟩
  · exact Option.some.inj (same.symm.trans known)
  · obtain ⟨-, m, isIdent, -, given⟩ := sound.id_of_resource? known
    obtain rfl := ident_inj isIdent
    omega

/-- What was not there before is bare. -/
theorem bare (retains : before.Retains after) {id : String} {document : Json}
    (unknown : before.resource? .dashboard id = none)
    (stored : after.resource? .dashboard id = some document) : document.Bare := by
  rcases retains.each id document stored with same | ⟨bare, -⟩
  · cases unknown.symm.trans same
  · exact bare

/-- A dashboard is added to a group. -/
theorem addDashboard (name groupId : String) (layout : List Json) (store : Store) :
    store.Retains (perform (addDashboard name groupId layout) store).2 := by
  rw [perform_addDashboard_snd]
  refine Retains.trans ?_ (of_spares (spares_updateMembers _ _ _) (allocated_updateMembers ..).ge)
  refine ⟨Nat.le_succ _, fun other found stored => ?_⟩
  have there := get?_of_resource? stored
  rw [get?_set] at there
  split at there
  case isTrue here =>
    obtain rfl := Option.some.inj there
    exact .inr ⟨bare_dashboardDocument name groupId layout _, _, (Kind.path_inj here).2,
      Nat.lt_succ_self _⟩
  case isFalse =>
    exact .inl ((resource?_of_clean (clean_of_resource? stored) ..).trans there)

/-- A clone is added after its charts. -/
theorem server_clone (target id : String) (store : Store) :
    store.Retains (server (.post (Request.clonePath target) []
      (.record [("sourceDashboard", some (.str id))])) store).2 := by
  have copies : ∀ entries : List Json,
      store.Retains (perform (entries.mapM copyPlaced) store).2 := fun entries =>
    of_spares (perform_mapM_copyPlaced entries store).1
      (grows_mapM_copyPlaced entries store).evolves.allocated_le
  rw [server_post_clone, clone]
  cases storedSource : store.documents.get? (Kind.dashboard.path id) with
  | none => simpa only [perform_bind, perform_fetch, storedSource] using .refl store
  | some source =>
      cases storedGroup : store.documents.get? (Kind.group.path target) with
      | none =>
          simpa only [perform_bind, perform_fetch, storedSource, storedGroup] using .refl store
      | some group =>
          have copied := copies (source.field "charts").items
          rcases outcome : perform ((source.field "charts").items.mapM copyPlaced) store with
            ⟨fault | layout, between⟩
          all_goals
            rw [outcome] at copied
            simp only [perform_bind, perform_fetch, storedSource, storedGroup, outcome]
          · exact copied
          · exact copied.trans (addDashboard ..)

/-- Whatever a steady request is answered, the dashboards are retained. -/
theorem server_of_steady {request : Request} (steady : request.Steady) (store : Store) :
    store.Retains (server request store).2 := by
  have allocated := (evolves_server request store).allocated_le
  cases steady with
  | nameless nameless => exact of_spares (spares_server nameless store) allocated
  | putGroup id body =>
      refine ⟨allocated, fun other document stored => .inl ?_⟩
      rwa [resource?_congr (get?_server_put (Kind.path_ne (by decide) _ _) body store)] at stored
  | clone target id => exact server_clone target id store

end Retains

end Store

/-- A plan of steady requests retains the dashboards. -/
theorem Plan.Sends.retains {α : Type} {plan : Plan α} (sends : Sends Request.Steady plan)
    (answer : Question → Bool) (store : Store) :
    store.Retains (plan.run Store.server answer store).state :=
  run_keeps_of_requests
    (fun _ between steady retains => retains.trans (.server_of_steady steady between)) plan
    (sends.requests store) (.refl store)

end SignalBoard
