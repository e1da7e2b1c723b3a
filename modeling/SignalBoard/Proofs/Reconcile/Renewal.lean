/-
# Renewing the charts of any layout

A layout may name a chart twice, and a chart by a path that is longer than its identifier. What an
update does to the charts is told for such layouts as well, path by path: a stored chart with a
local name gets the fields of the local chart, under the identifier that it names itself. Doing so
twice is doing so once, so it does not matter how often a layout names a chart.
-/

import SignalBoard.Proofs.Plan.Within
import SignalBoard.Proofs.Reconcile.Charts

namespace SignalBoard.Dashboard

variable {answer : Question → Bool} {dashboard : Dashboard} {store : Store}

/-- A stored chart with the fields of the local chart of its name, if there is one. -/
def renew (dashboard : Dashboard) (old : Json) : Json :=
  match dashboard.chartNamed? (old.name?.getD "") with
  | some chart => chart.revise (Store.idOf old) old
  | none => old

theorem renew_eq {old : Json} {chart : Chart}
    (found : dashboard.chartNamed? (old.name?.getD "") = some chart) :
    dashboard.renew old = chart.revise (Store.idOf old) old := by
  rw [renew, found]

/-- A revised chart names the identifier it is revised under. -/
theorem idOf_revise (chart : Chart) (id : String) (old : Json) :
    Store.idOf (chart.revise id old) = id := by
  have laid := Json.isObject_overlay chart.isObject_document old
  rw [Store.idOf, Chart.revise, Json.field_of_get? (Json.Stamped.withField_id laid id).get?_id]
  rfl

/-- A renewed chart has the name it had. -/
theorem nameOf_renew (old : Json) :
    (dashboard.renew old).name?.getD "" = old.name?.getD "" := by
  cases found : dashboard.chartNamed? (old.name?.getD "") with
  | none => rw [renew, found]
  | some chart =>
      rw [renew_eq found, chart.name?_revise, Option.getD_some]
      exact (mem_of_chartNamed? found).2

/-- Renewing a chart once more changes nothing. -/
theorem renew_renew (old : Json) :
    dashboard.renew (dashboard.renew old) = dashboard.renew old := by
  cases found : dashboard.chartNamed? (old.name?.getD "") with
  | none =>
      have still : dashboard.renew old = old := by rw [renew, found]
      rw [still, still]
  | some chart =>
      have again : dashboard.chartNamed? ((dashboard.renew old).name?.getD "") = some chart := by
        rw [nameOf_renew, found]
      rw [renew_eq again, renew_eq found, idOf_revise, Chart.revise_revise]

/-- How a store has changed once the charts with some identifiers are renewed. -/
structure ChartsRenewed (dashboard : Dashboard) (ids : List String) (before after : Store) :
    Prop where
  allocated : after.allocated = before.allocated
  documents : ∀ path, after.documents.get? path =
    if path ∈ Kind.chart.paths ids then (before.documents.get? path).map dashboard.renew
    else before.documents.get? path

namespace ChartsRenewed

variable {ids ids' : List String} {before between after : Store}

theorem nil (store : Store) : ChartsRenewed dashboard [] store store :=
  ⟨rfl, fun path => by simp [Kind.paths]⟩

/-- Renewing some charts and then others. -/
theorem append (first : dashboard.ChartsRenewed ids before between)
    (second : dashboard.ChartsRenewed ids' between after) :
    dashboard.ChartsRenewed (ids ++ ids') before after := by
  refine ⟨second.allocated.trans first.allocated, fun path => ?_⟩
  rw [second.documents, first.documents, Kind.paths_append]
  simp only [List.mem_append]
  by_cases early : path ∈ Kind.chart.paths ids <;> by_cases late : path ∈ Kind.chart.paths ids'
  case pos =>
    rw [if_pos late, if_pos early, if_pos (.inl early)]
    cases before.documents.get? path with
    | none => rfl
    | some old => exact congrArg some (renew_renew old)
  case neg => rw [if_neg late, if_pos early, if_pos (.inl early)]
  case pos => rw [if_pos late, if_neg early, if_pos (.inr late)]
  case neg => rw [if_neg late, if_neg early, if_neg (not_or.mpr ⟨early, late⟩)]

/-- What is stored still is, under the same name. -/
theorem stored (renewed : dashboard.ChartsRenewed ids before after) {path : String} {old : Json}
    (found : before.documents.get? path = some old) :
    ∃ new, after.documents.get? path = some new ∧ new.name?.getD "" = old.name?.getD "" := by
  rw [renewed.documents, found]
  split
  case isTrue => exact ⟨_, rfl, nameOf_renew old⟩
  case isFalse => exact ⟨old, rfl, rfl⟩

/-- Only charts change. -/
theorem agreesOff (renewed : dashboard.ChartsRenewed ids before after) :
    before.AgreesOff (Kind.chart.paths ids) after :=
  fun path untouched => (renewed.documents path).trans (if_neg untouched)

/-- A renewed chart with a local name is a revision of the local chart. -/
theorem revised (renewed : dashboard.ChartsRenewed ids before after) {id : String}
    (member : id ∈ ids) {old : Json}
    (stored : before.documents.get? (Kind.chart.path id) = some old)
    (identified : old.id? = some id) {chart : Chart}
    (found : dashboard.chartNamed? (old.name?.getD "") = some chart) :
    after.documents.get? (Kind.chart.path id) = some (chart.revise id old) := by
  have own : Store.idOf old = id := by
    rw [Store.idOf, Json.field_of_id? identified]
    rfl
  rw [renewed.documents, if_pos (Kind.path_mem_paths.mpr member), stored, Option.map_some,
    renew_eq found, own]

/-- Renewing charts gives no identifiers away. -/
theorem freshIds_eq (renewed : dashboard.ChartsRenewed ids before after) :
    after.freshIds = before.freshIds := by
  funext count
  rw [Store.freshIds, renewed.allocated, Store.freshIds]

end ChartsRenewed

/-- What is known of a placed chart: it is stored, under the name that was read. -/
def Placed (store : Store) (placed : PlacedChart) : Prop :=
  ∃ document, store.documents.get? (Kind.chart.path placed.id) = some document ∧
    document.name?.getD "" = placed.name

/-- A stored chart is placed under its name. -/
theorem placed_of_isSome {entry : Json}
    (there : (store.documents.get? (Kind.chart.path (store.placed entry).id)).isSome) :
    Placed store (store.placed entry) := by
  obtain ⟨document, stored⟩ := Option.isSome_iff_exists.mp there
  refine ⟨document, stored, ?_⟩
  simp only [Store.placed] at stored ⊢
  rw [stored]
  rfl

/-- A stored chart is renewed. -/
theorem ensures_renew (valid : dashboard.check = .ok ()) (sound : store.Sound)
    {placed : PlacedChart} (known : Placed store placed) :
    Plan.Ensures Store.server answer (dashboard.updatePlaced placed) store
      fun _ after => dashboard.ChartsRenewed [placed.id] store after := by
  obtain ⟨old, stored, named⟩ := known
  cases found : dashboard.chartNamed? placed.name with
  | none =>
      rw [updatePlaced, found]
      apply Plan.ensures_pure
      refine ⟨rfl, fun path => ?_⟩
      split
      case isTrue here =>
        obtain rfl : path = Kind.chart.path placed.id := by simpa [Kind.paths] using here
        rw [stored, Option.map_some, renew, named, found]
      case isFalse => rfl
  | some chart =>
      simp only [updatePlaced, found]
      have isLocal := (mem_of_chartNamed? found).1
      have identified := sound.identified stored
      apply Plan.ensures_bind
        (ensures_updateById (check_charts valid chart isLocal) stored identified)
      rintro _ _ rfl
      apply Plan.ensures_pure
      refine ⟨rfl, fun path => ?_⟩
      rw [Store.get?_set]
      by_cases here : path = Kind.chart.path placed.id
      · subst here
        have own : Store.idOf old = Store.lastSegment (Kind.chart.path placed.id) := by
          rw [Store.idOf, Json.field_of_id? identified]
          rfl
        rw [if_pos rfl, if_pos (by simp [Kind.paths]), stored, Option.map_some,
          renew_eq (named ▸ found), own]
      · rw [if_neg here, if_neg (by simpa [Kind.paths] using here)]

/-- Updating the charts of a layout renews them, however often the layout names them. -/
theorem ensures_renewAll (valid : dashboard.check = .ok ()) {placed : List PlacedChart}
    (sound : store.Sound) (known : ∀ chart ∈ placed, Placed store chart) :
    Plan.Ensures Store.server answer (placed.forM dashboard.updatePlaced) store
      fun _ after => dashboard.ChartsRenewed (placed.map (·.id)) store after := by
  induction placed generalizing store with
  | nil => exact Plan.ensures_pure (.nil store)
  | cons first rest ih =>
      show Plan.Ensures Store.server answer
        (dashboard.updatePlaced first >>= fun _ => rest.forM dashboard.updatePlaced) store _
      apply Plan.ensures_bind ((ensures_renew valid sound (known first List.mem_cons_self)).keeping
        Store.sound_server sound)
      rintro _ between ⟨head, soundBetween⟩
      apply (ih soundBetween ?_).mono
      · intro _ after tail
        exact head.append tail
      · intro chart member
        obtain ⟨document, stored, named⟩ := known chart (.tail _ member)
        obtain ⟨new, storedNew, sameName⟩ := head.stored stored
        exact ⟨new, storedNew, sameName.trans named⟩

/-- Updating a placed chart reads and replaces charts. -/
theorem sends_updatePlaced {allowed : Request → Prop} (reads : ∀ path, allowed (.get path))
    (writes : ∀ id body, allowed (.put (Kind.chart.path id) body)) (placed : PlacedChart) :
    Plan.Sends allowed (dashboard.updatePlaced placed) := by
  unfold updatePlaced
  split
  case h_1 chart _ =>
    apply Plan.sends_bind
    · apply Plan.sends_bind (Plan.sends_checked _)
      intro payload
      apply Plan.sends_call (reads _)
      intro remote
      exact Plan.sends_call (writes _ _) Plan.sends_pure
    · exact fun _ => Plan.sends_pure _
  case h_2 => exact Plan.sends_pure ()

end SignalBoard.Dashboard
