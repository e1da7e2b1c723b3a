/-
# Consistent stores

In a consistent store every document is found under its identifier, every chart that a layout
names is stored, and no chart is named twice, neither by one layout nor by two. An operation on
one dashboard keeps a store consistent when it leaves the layouts of the others alone and takes
for its own layout only charts that were on it before or were not stored at all.
-/

import Mathlib.Data.List.Pairwise
import SignalBoard.Proofs.Store.Sound
import SignalBoard.Reconcile.Layout
import SignalBoard.Reconcile.Lookup

namespace SignalBoard

/-- The charts that the layout of a dashboard names, entry by entry. -/
def Layout.chartIds (dashboard : Json) : List String :=
  (dashboard.field "charts").items.filterMap chartId?

namespace Store

/-- Documents are kept under their identifiers, and layouts name stored charts, each once. -/
structure Consistent (store : Store) : Prop where
  identified : ∀ path document, store.documents.get? path = some document →
    document.id? = some (lastSegment path)
  placed : ∀ id dashboard, store.resource? .dashboard id = some dashboard →
    ∀ chartId ∈ Layout.chartIds dashboard, (store.resource? .chart chartId).isSome
  once : ∀ id dashboard, store.resource? .dashboard id = some dashboard →
    (Layout.chartIds dashboard).Nodup
  apart : ∀ id id' dashboard dashboard', store.resource? .dashboard id = some dashboard →
    store.resource? .dashboard id' = some dashboard' → id ≠ id' →
    ∀ chartId ∈ Layout.chartIds dashboard, chartId ∉ Layout.chartIds dashboard'

/-- The name of the chart that an entry of a layout places, as it is stored. -/
def nameAt? (store : Store) (entry : Json) : Option String :=
  ((Layout.chartId? entry).bind (store.resource? .chart)).bind Json.name?

theorem nameAt?_eq {store : Store} {entry document : Json} {chartId : String}
    (names : Layout.chartId? entry = some chartId)
    (stored : store.resource? .chart chartId = some document) :
    store.nameAt? entry = document.name? := by
  simp [nameAt?, names, stored]

/-- The charts on the layout of the dashboard with an identifier; none without such a
dashboard. -/
def layoutOf (store : Store) (id : String) : List String :=
  ((store.resource? .dashboard id).map Layout.chartIds).getD []

theorem layoutOf_eq {store : Store} {id : String} {dashboard : Json}
    (stored : store.resource? .dashboard id = some dashboard) :
    store.layoutOf id = Layout.chartIds dashboard := by
  simp [layoutOf, stored]

/-- Whether a sound store is consistent can be told from its list of dashboards. -/
theorem Sound.consistent {store : Store} (sound : store.Sound)
    (placed : ∀ dashboard ∈ store.under Kind.dashboard.endpoint,
      ∀ chartId ∈ Layout.chartIds dashboard, (store.resource? .chart chartId).isSome)
    (once : ((store.under Kind.dashboard.endpoint).flatMap Layout.chartIds).Nodup) :
    store.Consistent where
  identified := fun _ _ stored => sound.identified stored
  placed := fun id dashboard stored =>
    placed dashboard ((mem_under_iff sound.ordered ..).mpr ⟨id, stored⟩)
  once := fun id dashboard stored =>
    (List.nodup_flatMap.mp once).1 dashboard ((mem_under_iff sound.ordered ..).mpr ⟨id, stored⟩)
  apart := by
    intro id id' dashboard dashboard' stored stored' different
    have member := (mem_under_iff sound.ordered .dashboard dashboard).mpr ⟨id, stored⟩
    have member' := (mem_under_iff sound.ordered .dashboard dashboard').mpr ⟨id', stored'⟩
    have : Std.Symm (Function.onFun List.Disjoint Layout.chartIds) :=
      ⟨fun _ _ disjoint _ here there => disjoint there here⟩
    refine (List.nodup_flatMap.mp once).2.forall member member' ?_
    rintro rfl
    have same := (sound.id_of_resource? stored).1.symm.trans (sound.id_of_resource? stored').1
    exact different (Option.some.inj same)

namespace Consistent

variable {before after : Store}

/-- A chart on the layout of another dashboard is not on the layout of this one. -/
theorem not_mem_layoutOf (consistent : before.Consistent) {id id' : String} {dashboard : Json}
    (stored : before.resource? .dashboard id' = some dashboard) (different : id' ≠ id)
    {chartId : String} (member : chartId ∈ Layout.chartIds dashboard) :
    chartId ∉ before.layoutOf id := by
  cases own : before.resource? .dashboard id with
  | none => simp [layoutOf, own]
  | some mine =>
      rw [layoutOf_eq own]
      exact consistent.apart id' id dashboard mine stored own different chartId member

/-- An operation on one dashboard keeps a store consistent when the other dashboards stay or go,
charts not on its layout stay, and its new layout names stored charts, each once, which were on
the layout before or are new. -/
theorem of_change (consistent : before.Consistent) (sound : after.Sound) (id : String)
    (others : ∀ id' dashboard, id' ≠ id → after.resource? .dashboard id' = some dashboard →
      ∃ old, before.resource? .dashboard id' = some old ∧
        Layout.chartIds dashboard = Layout.chartIds old)
    (charts : ∀ chartId, (before.resource? .chart chartId).isSome →
      chartId ∉ before.layoutOf id → (after.resource? .chart chartId).isSome)
    (once : (after.layoutOf id).Nodup)
    (own : ∀ chartId ∈ after.layoutOf id, (after.resource? .chart chartId).isSome ∧
      (chartId ∈ before.layoutOf id ∨ before.resource? .chart chartId = none)) :
    after.Consistent where
  identified := fun _ _ stored => sound.identified stored
  placed := by
    intro id' dashboard stored chartId member
    by_cases same : id' = id
    · subst same
      rw [← layoutOf_eq stored] at member
      exact (own chartId member).1
    · obtain ⟨old, storedBefore, layout⟩ := others id' dashboard same stored
      rw [layout] at member
      exact charts chartId (consistent.placed id' old storedBefore chartId member)
        (consistent.not_mem_layoutOf storedBefore same member)
  once := by
    intro id' dashboard stored
    by_cases same : id' = id
    · subst same
      rwa [← layoutOf_eq stored]
    · obtain ⟨old, storedBefore, layout⟩ := others id' dashboard same stored
      rw [layout]
      exact consistent.once id' old storedBefore
  apart := by
    -- A chart of the changed layout is on no other layout: it was on its own, or nowhere.
    have changed : ∀ id' dashboard, id' ≠ id → after.resource? .dashboard id' = some dashboard →
        ∀ chartId ∈ Layout.chartIds dashboard, chartId ∉ after.layoutOf id := by
      intro id' dashboard different stored chartId member here
      obtain ⟨old, storedBefore, layout⟩ := others id' dashboard different stored
      rw [layout] at member
      rcases (own chartId here).2 with mine | absent
      · exact consistent.not_mem_layoutOf storedBefore different member mine
      · have there := consistent.placed id' old storedBefore chartId member
        simp [absent] at there
    intro first second dashboard dashboard' stored stored' different chartId member member'
    by_cases isFirst : first = id
    · subst isFirst
      rw [← layoutOf_eq stored] at member
      exact changed second dashboard' (Ne.symm different) stored' chartId member' member
    by_cases isSecond : second = id
    · subst isSecond
      rw [← layoutOf_eq stored'] at member'
      exact changed first dashboard different stored chartId member member'
    obtain ⟨old, storedBefore, layout⟩ := others first dashboard isFirst stored
    obtain ⟨old', storedBefore', layout'⟩ := others second dashboard' isSecond stored'
    rw [layout] at member
    rw [layout'] at member'
    exact consistent.apart first second old old' storedBefore storedBefore' different chartId
      member member'

end Consistent

end Store

end SignalBoard
