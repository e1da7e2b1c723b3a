/-
# Creating dashboards

A dashboard is created from charts in a group of its own, or for a group that is there. What is
created gets consecutive identifiers; besides, only the list of the group changes.
-/

import Mathlib.Data.List.Forall2
import SignalBoard.Proofs.Store.Fresh
import SignalBoard.Reconcile.Layout

namespace SignalBoard

namespace Store

/-- What something in the second list is related to. -/
theorem exists_of_forall₂_right {α β : Type} {related : α → β → Prop} {items : List α}
    {others : List β} (each : List.Forall₂ related items others) {other : β}
    (member : other ∈ others) : ∃ item ∈ items, related item other := by
  induction each with
  | nil => cases member
  | cons here _ ih =>
      rcases List.mem_cons.mp member with rfl | later
      · exact ⟨_, List.mem_cons_self, here⟩
      · obtain ⟨item, among, holds⟩ := ih later
        exact ⟨item, .tail _ among, holds⟩

/-- What something in the first list is related to. -/
theorem exists_of_forall₂_left {α β : Type} {related : α → β → Prop} {items : List α}
    {others : List β} (each : List.Forall₂ related items others) {item : α}
    (member : item ∈ items) : ∃ other ∈ others, related item other :=
  exists_of_forall₂_right each.flip member

/-- The entries of charts that a dashboard is created from, counting places from a given one. -/
def placedEntries : List String → Nat → List Json
  | [], _ => []
  | id :: rest, place => placedEntry (.str id) place :: placedEntries rest (place + 1)

theorem chartId?_placedEntry (id : String) (place : Nat) :
    Layout.chartId? (placedEntry (.str id) place) = some id := by
  rw [Layout.chartId?, placedEntry, Json.get?_record (by simp)]
  simp [Table.get?, Json.string?]

/-- Entries of charts that a dashboard is created from place these charts. -/
theorem filterMap_placedEntries (ids : List String) (place : Nat) :
    (placedEntries ids place).filterMap Layout.chartId? = ids := by
  induction ids generalizing place with
  | nil => rfl
  | cons id rest ih =>
      rw [placedEntries, List.filterMap_cons_some (chartId?_placedEntry id place), ih]

/-- What relates a list to charts relates it to the entries of a dashboard created from them. -/
theorem forall₂_placedEntries {α : Type} {related : α → String → Prop} {items : List α}
    {ids : List String} (each : List.Forall₂ related items ids) (place : Nat) :
    List.Forall₂ (fun item entry => ∃ id, Layout.chartId? entry = some id ∧ related item id)
      items (placedEntries ids place) := by
  induction each generalizing place with
  | nil => exact .nil
  | @cons item id items ids here _ ih =>
      exact .cons ⟨id, chartId?_placedEntry id place, here⟩ (ih (place + 1))

/-- The document of a dashboard that was created for a group. -/
def dashboardDocument (name groupId : String) (layout : List Json) (id : String) : Json :=
  (Json.record [("name", some (.str name)), ("groupId", some (.str groupId)),
    ("charts", some (.arr layout))]).withField "id" (.str id)

theorem get?_dashboardDocument (name groupId : String) (layout : List Json) (id key : String) :
    (dashboardDocument name groupId layout id).get? key =
      if key = "id" then some (.str id)
      else (Table.get? key [("name", some (Json.str name)), ("groupId", some (.str groupId)),
        ("charts", some (.arr layout))]).join := by
  rw [dashboardDocument, Json.get?_withField (Json.isRecord_record _).isObject,
    Json.get?_record (by simp)]

theorem name?_dashboardDocument (name groupId : String) (layout : List Json) (id : String) :
    (dashboardDocument name groupId layout id).name? = some name := by
  rw [Json.name?, get?_dashboardDocument]
  rfl

theorem charts_dashboardDocument (name groupId : String) (layout : List Json) (id : String) :
    (dashboardDocument name groupId layout id).field "charts" = .arr layout :=
  Json.field_of_get? (get?_dashboardDocument ..)

theorem sorted_dashboardDocument (name groupId : String) (layout : List Json) (id : String) :
    (dashboardDocument name groupId layout id).Sorted :=
  (Json.sorted_record _).withField _ _

/-- Adding an object: it gets a fresh identifier and is kept under it. -/
theorem perform_add_object {document : Json} (object : document.isObject = true)
    (endpoint : String) (store : Store) :
    perform (add endpoint document) store =
      (.ok (document.withField "id" (.str (ident (store.allocated + 1)))),
        store.allocate.set (endpoint ++ "/" ++ ident (store.allocated + 1))
          (document.withField "id" (.str (ident (store.allocated + 1))))) := by
  rw [perform_add, Json.assign_eq object]

/-- Adding charts: each gets the next identifier. -/
theorem perform_addCharts {charts : List Json} (objects : ∀ chart ∈ charts, chart.isObject = true)
    (place : Nat) (store : Store) :
    ∃ after, perform (addCharts place charts) store =
        (.ok (placedEntries (store.freshIds charts.length) place), after) ∧
      after.allocated = store.allocated + charts.length ∧
      store.AgreesOff (Kind.chart.paths (store.freshIds charts.length)) after ∧
      List.Forall₂ (fun chart id => after.documents.get? (Kind.chart.path id) =
        some (chart.withField "id" (.str id))) charts (store.freshIds charts.length) := by
  induction charts generalizing place store with
  | nil => exact ⟨store, rfl, rfl, AgreesOff.refl _ _, .nil⟩
  | cons chart rest ih =>
      have object := objects chart List.mem_cons_self
      let id := ident (store.allocated + 1)
      let between := store.allocate.set (Kind.chart.path id) (chart.withField "id" (.str id))
      obtain ⟨after, ended, allocated, agrees, stored⟩ :=
        ih (fun other member => objects other (.tail _ member)) (place + 1) between
      have ids : store.freshIds (chart :: rest).length = id :: between.freshIds rest.length := by
        rw [List.length_cons, freshIds_succ]
        rfl
      have field : (chart.withField "id" (.str id)).field "id" = .str id :=
        Json.field_of_get? (Json.Stamped.withField_id object id).get?_id
      have notLater : id ∉ between.freshIds rest.length := by
        have once := store.nodup_freshIds (chart :: rest).length
        rw [ids, List.nodup_cons] at once
        exact once.1
      have first : perform (add Kind.chart.endpoint chart) store =
          (.ok (chart.withField "id" (.str id)), between) := perform_add_object object _ store
      have agreesFirst : store.AgreesOff [Kind.chart.path id] between := by
        intro path untouched
        simp only [between, get?_set, documents_allocate]
        rw [if_neg (by simpa using untouched)]
      refine ⟨after, ?_, ?_, ?_, ?_⟩
      · simp only [addCharts, perform_bind, first, ended, perform_pure, field, ids, placedEntries]
      · rw [allocated, List.length_cons]
        simp [between]
        omega
      · rw [ids]
        exact agreesFirst.trans agrees
      · rw [ids]
        refine .cons ?_ stored
        rw [agrees _ fun touched => notLater (Kind.path_mem_paths.mp touched)]
        simp [between]

/-- The document of a group that was created without dashboards. -/
def groupDocument (body : Json) (id : String) : Json :=
  (body.withField "dashboards" (.arr [])).withField "id" (.str id)

/-- Adding a group. -/
theorem perform_addGroup {body : Json} (object : body.isObject = true) (store : Store) :
    perform (addGroup body) store =
      (.ok (groupDocument body (ident (store.allocated + 1))),
        store.allocate.set (Kind.group.path (ident (store.allocated + 1)))
          (groupDocument body (ident (store.allocated + 1)))) := by
  simp only [addGroup, perform_bind, perform_assign, Json.assign_eq object]
  exact perform_add_object (by simpa) _ store

/-- What a new group lists. -/
theorem get?_groupDocument {body : Json} (object : body.isObject = true) (id key : String) :
    (groupDocument body id).get? key =
      if key = "id" then some (.str id)
      else if key = "dashboards" then some (.arr []) else body.get? key := by
  rw [groupDocument, Json.get?_withField (by simpa), Json.get?_withField object]

/-- The list of a stored group is changed. -/
theorem perform_updateMembers {store : Store} {groupId : String} {group : Json}
    {members : List Json}
    (stored : store.documents.get? (Kind.group.path groupId) = some group)
    (lists : group.get? "dashboards" = some (.arr members)) (change : List Json → List Json) :
    perform (updateMembers groupId change) store =
      (.ok (), store.set (Kind.group.path groupId)
        (group.withField "dashboards" (.arr (change members)))) := by
  simp only [updateMembers, perform_bind, perform_get, stored, changeMembers, lists,
    perform_assign, Json.assign_eq (Json.isObject_of_get? lists), perform_keep]

/-- A dashboard that is added is stored under a fresh identifier, and then the list of its group is
changed. -/
theorem perform_addDashboard_eq (name groupId : String) (layout : List Json) (store : Store) :
    let id := ident (store.allocated + 1)
    let document := dashboardDocument name groupId layout id
    perform (addDashboard name groupId layout) store =
      perform (do updateMembers groupId fun members => members ++ [.str id]; return document)
        (store.allocate.set (Kind.dashboard.path id) document) := by
  intro id document
  have first : perform (add Kind.dashboard.endpoint (.record
      [("name", some (.str name)), ("groupId", some (.str groupId)),
        ("charts", some (.arr layout))])) store =
      (.ok document, store.allocate.set (Kind.dashboard.path id) document) :=
    perform_add_object (Json.isRecord_record _).isObject _ store
  have field : document.field "id" = .str id :=
    Json.field_of_get? (Json.Stamped.withField_id (Json.isRecord_record _).isObject id).get?_id
  simp only [addDashboard, perform_bind, first, field]

/-- Once the list is changed, the dashboard is the reply. -/
theorem perform_addDashboard_of_updates {store after : Store} {groupId name : String}
    {layout : List Json}
    (updates : perform
      (updateMembers groupId fun members => members ++ [.str (ident (store.allocated + 1))])
      (store.allocate.set (Kind.dashboard.path (ident (store.allocated + 1)))
        (dashboardDocument name groupId layout (ident (store.allocated + 1)))) = (.ok (), after)) :
    perform (addDashboard name groupId layout) store =
      (.ok (dashboardDocument name groupId layout (ident (store.allocated + 1))), after) := by
  simp only [perform_addDashboard_eq, perform_bind, updates, perform_pure]

/-- Whether or not the list is changed, the store is left as the change of the list leaves it. -/
theorem perform_addDashboard_snd (name groupId : String) (layout : List Json) (store : Store) :
    (perform (addDashboard name groupId layout) store).2 =
      (perform
        (updateMembers groupId fun members => members ++ [.str (ident (store.allocated + 1))])
        (store.allocate.set (Kind.dashboard.path (ident (store.allocated + 1)))
          (dashboardDocument name groupId layout (ident (store.allocated + 1))))).2 := by
  rw [perform_addDashboard_eq, perform_bind]
  split <;> rename_i updates <;> rw [updates] <;> rfl

/-- A dashboard is added for a stored group, which lists it last. -/
theorem perform_addDashboard {store : Store} {groupId : String} {group : Json}
    {members : List Json}
    (stored : store.documents.get? (Kind.group.path groupId) = some group)
    (lists : group.get? "dashboards" = some (.arr members)) (name : String)
    (layout : List Json) :
    perform (addDashboard name groupId layout) store =
      (.ok (dashboardDocument name groupId layout (ident (store.allocated + 1))),
        (store.allocate.set (Kind.dashboard.path (ident (store.allocated + 1)))
          (dashboardDocument name groupId layout (ident (store.allocated + 1)))).set
          (Kind.group.path groupId) (group.withField "dashboards"
            (.arr (members ++ [.str (ident (store.allocated + 1))])))) := by
  refine perform_addDashboard_of_updates (perform_updateMembers ?_ lists _)
  rw [get?_set, if_neg (Kind.path_ne (by decide) _ _), documents_allocate, stored]

/-- What a dashboard that is created from charts adds to a store: its charts, itself, and a
group of its own that lists it. -/
structure SimpleAdded (name : String) (charts : List Json) (groupId : String)
    (chartIds : List String) (id : String) (before after : Store) : Prop where
  allocated : after.allocated = before.allocated + charts.length + 2
  elsewhere : before.AgreesOff (Kind.group.path groupId :: Kind.dashboard.path id ::
    Kind.chart.paths chartIds) after
  group : after.documents.get? (Kind.group.path groupId) =
    some ((groupDocument (.record [("name", some (.str name))]) groupId).withField "dashboards"
      (.arr [.str id]))
  dashboard : after.documents.get? (Kind.dashboard.path id) =
    some (dashboardDocument name groupId (placedEntries chartIds 0) id)
  charts : List.Forall₂ (fun chart chartId => after.documents.get? (Kind.chart.path chartId) =
    some (chart.withField "id" (.str chartId))) charts chartIds

/-- A dashboard is created from charts. -/
theorem server_post_simple {charts : List Json} (objects : ∀ chart ∈ charts, chart.isObject = true)
    (name : String) (store : Store) :
    ∃ after, server (.post "/dashboard/simple" [("name", name)] (.arr charts)) store =
        (.ok (dashboardDocument name (ident (store.allocated + 1))
          (placedEntries (store.allocate.freshIds charts.length) 0)
          (ident (store.allocated + charts.length + 2))), after) ∧
      SimpleAdded name charts (ident (store.allocated + 1))
        (store.allocate.freshIds charts.length) (ident (store.allocated + charts.length + 2))
        store after := by
  generalize isGroup : ident (store.allocated + 1) = groupId
  generalize isCharts : store.allocate.freshIds charts.length = chartIds
  generalize isLast : ident (store.allocated + charts.length + 2) = id
  let group := groupDocument (.record [("name", some (.str name))]) groupId
  have object : (Json.record [("name", some (.str name))]).isObject = true :=
    (Json.isRecord_record _).isObject
  have first : perform (addGroup (.record [("name", some (.str name))])) store =
      (.ok group, store.allocate.set (Kind.group.path groupId) group) := by
    rw [perform_addGroup object store, isGroup]
  have groupField : idOf group = groupId := by
    rw [idOf, Json.field_of_get? (get?_groupDocument object groupId "id")]
    rfl
  obtain ⟨between, second, allocated, agrees, stored⟩ := perform_addCharts objects 0
    (store.allocate.set (Kind.group.path groupId) group)
  rw [freshIds_set, isCharts] at second agrees stored
  have atGroup : between.documents.get? (Kind.group.path groupId) = some group := by
    rw [agrees _ (Kind.path_not_mem_paths (by decide) _ _), get?_set, if_pos rfl]
  have lists : group.get? "dashboards" = some (.arr []) := get?_groupDocument object groupId _
  have number : between.allocated + 1 = store.allocated + charts.length + 2 := by
    rw [allocated]
    simp
    omega
  have third := perform_addDashboard atGroup lists name (placedEntries chartIds 0)
  rw [number, isLast, List.nil_append] at third
  have notGroup : ∀ (kind : Kind) other, kind ≠ .group →
      kind.path other ≠ Kind.group.path groupId :=
    fun kind other different => Kind.path_ne different other groupId
  refine ⟨(between.allocate.set (Kind.dashboard.path id)
      (dashboardDocument name groupId (placedEntries chartIds 0) id)).set
    (Kind.group.path groupId) (group.withField "dashboards" (.arr [.str id])), ?_, ?_⟩
  case refine_1 =>
    have path : ¬ ("/dashboard/simple" = Kind.chart.endpoint ∨
      "/dashboard/simple" = Kind.detector.endpoint) := by decide
    rw [server_eq_perform]
    simp only [answer, post, if_neg path, if_true, Request.nameIn?]
    simp only [addSimpleDashboard, perform_bind, List.find?_cons_of_pos, decide_true,
      Option.map_some, Option.getD_some, first, Json.items, Json.items?, second, groupField]
    exact third
  constructor
  case allocated =>
    simp only [allocated_set, allocated_allocate]
    exact number
  case elsewhere =>
    intro path untouched
    simp only [List.mem_cons, not_or] at untouched
    simp only [get?_set, documents_allocate, if_neg untouched.1, if_neg untouched.2.1]
    rw [agrees path untouched.2.2, get?_set, if_neg untouched.1, documents_allocate]
  case group => rw [get?_set, if_pos rfl]
  case dashboard =>
    rw [get?_set, if_neg (notGroup .dashboard id (by decide)), get?_set, if_pos rfl]
  case charts =>
    refine stored.imp fun chart chartId found => ?_
    rw [get?_set, if_neg (notGroup .chart chartId (by decide)), get?_set,
      if_neg (Kind.path_ne (by decide) chartId id), documents_allocate, found]

end Store

end SignalBoard
