/-
# Identifiers that documents refer to

A document names itself and its group, a dashboard names the charts of its layout, and a group names
the dashboards that it lists. Renaming identifiers changes these places only, so nothing that a user
wrote is renamed by accident. It commutes with laying what is sent for a resource over a document,
because what is sent names no other resource.
-/

import SignalBoard.Proofs.Json.Rename
import SignalBoard.Proofs.Reconcile.Fitting
import SignalBoard.Proofs.Store.Creation

namespace SignalBoard

namespace Json

variable {rename : String → String}

/-- A text, renamed. -/
def renameText (rename : String → String) : Json → Json
  | str text => str (rename text)
  | other => other

/-- The array with every item changed. Only an array has items. -/
def mapItems (change : Json → Json) : Json → Json
  | arr items => arr (items.map change)
  | other => other

/-- The value that an entry of a layout has for a key, with the chart renamed. -/
def renamePlaced (rename : String → String) (key : String) (value : Json) : Json :=
  if key = "chartId" then value.renameText rename else value

/-- The value that a document has for a key, with the identifiers renamed. -/
def renameRef (rename : String → String) (key : String) (value : Json) : Json :=
  if key = "id" ∨ key = "groupId" then value.renameText rename
  else if key = "charts" then value.mapItems (mapFields (renamePlaced rename))
  else if key = "dashboards" then value.mapItems (renameText rename)
  else value

/-- The document with the identifiers renamed: its own, that of its group, and those of the charts
and of the dashboards that it lists. -/
def renameRefs (rename : String → String) : Json → Json := mapFields (renameRef rename)

/-- The text that a value is, if it is one. -/
def texts (value : Json) : List String := value.string?.toList

/-- The texts by which an entry of a layout refers to a chart. -/
def placedRefs : Json → List String
  | obj fields => fields.flatMap fun entry => if entry.1 = "chartId" then entry.2.texts else []
  | _ => []

/-- The texts by which the value of a key refers to documents. -/
def refsAt (key : String) (value : Json) : List String :=
  if key = "id" ∨ key = "groupId" then value.texts
  else if key = "charts" then value.items.flatMap placedRefs
  else if key = "dashboards" then value.items.flatMap texts
  else []

/-- The texts by which a document refers to documents. -/
def refs : Json → List String
  | obj fields => fields.flatMap fun entry => refsAt entry.1 entry.2
  | _ => []

theorem renameText_eq_self {value : Json} (kept : ∀ text ∈ value.texts, rename text = text) :
    value.renameText rename = value := by
  cases value with
  | str text => exact congrArg str (kept text List.mem_cons_self)
  | _ => rfl

theorem mapItems_eq_self {value : Json} {change : Json → Json}
    (kept : ∀ item ∈ value.items, change item = item) : value.mapItems change = value := by
  cases value with
  | arr items => exact congrArg arr ((List.map_congr_left kept).trans (List.map_id _))
  | _ => rfl

theorem mapFields_eq_self {change : String → Json → Json} {fields : Table Json}
    (kept : ∀ entry ∈ fields, change entry.1 entry.2 = entry.2) :
    (obj fields).mapFields change = obj fields := by
  have same : ∀ entry ∈ fields, (entry.1, change entry.1 entry.2) = id entry :=
    fun entry member => Prod.ext rfl (kept entry member)
  exact congrArg obj ((List.map_congr_left same).trans (List.map_id _))

/-- An entry stays as it is when the chart that it names keeps its name. -/
theorem mapFields_renamePlaced_eq_self {entry : Json}
    (kept : ∀ text ∈ entry.placedRefs, rename text = text) :
    entry.mapFields (renamePlaced rename) = entry := by
  cases entry with
  | obj fields =>
      apply mapFields_eq_self
      rintro ⟨key, value⟩ member
      unfold renamePlaced
      split
      case isTrue isChart =>
        apply renameText_eq_self
        intro text among
        exact kept text (List.mem_flatMap.mpr ⟨_, member, by rwa [if_pos isChart]⟩)
      case isFalse => rfl
  | _ => rfl

/-- The value of a key stays as it is when what it refers to keeps its name. -/
theorem renameRef_eq_self {key : String} {value : Json}
    (kept : ∀ text ∈ refsAt key value, rename text = text) :
    renameRef rename key value = value := by
  unfold renameRef
  unfold refsAt at kept
  split
  case isTrue own => exact renameText_eq_self (by simpa [own] using kept)
  case isFalse notOwn =>
    rw [if_neg notOwn] at kept
    split
    case isTrue isCharts =>
      rw [if_pos isCharts] at kept
      exact mapItems_eq_self fun item member => mapFields_renamePlaced_eq_self fun text among =>
        kept text (List.mem_flatMap.mpr ⟨item, member, among⟩)
    case isFalse notCharts =>
      rw [if_neg notCharts] at kept
      split
      case isTrue isDashboards =>
        rw [if_pos isDashboards] at kept
        exact mapItems_eq_self fun item member => renameText_eq_self fun text among =>
          kept text (List.mem_flatMap.mpr ⟨item, member, among⟩)
      case isFalse => rfl

/-- A document stays as it is when what it refers to keeps its name. -/
theorem renameRefs_eq_self {document : Json} (kept : ∀ text ∈ document.refs, rename text = text) :
    document.renameRefs rename = document := by
  cases document with
  | obj fields =>
      exact mapFields_eq_self fun entry member => renameRef_eq_self fun text among =>
        kept text (List.mem_flatMap.mpr ⟨entry, member, among⟩)
  | _ => rfl

/-- Renaming leaves alone what has none of the keys, but for an identifier of its own. -/
theorem renameRef_of_foreign {key : String} (foreign : key ∉ ["groupId", "charts", "dashboards"])
    (notId : key ≠ "id") (value : Json) : renameRef rename key value = value := by
  simp only [List.mem_cons, List.not_mem_nil, or_false, not_or] at foreign
  rw [renameRef, if_neg (not_or.mpr ⟨notId, foreign.1⟩), if_neg foreign.2.1, if_neg foreign.2.2]

/-- What is sent refers to no other document. -/
def Unbound (document : Json) : Prop :=
  document.Sorted ∧ ∀ key ∈ ["groupId", "charts", "dashboards"], document.get? key = none

end Json

namespace Table

variable {α : Type} {change : String → α → α} {key : String}

/-- What is changed for one key only does not count if that key is assigned later. -/
theorem insert_insertAll_mapValues {upper : Table α}
    (only : ∀ entry ∈ upper, entry.1 ≠ key → change entry.1 entry.2 = entry.2) (value : α)
    (base : Table α) :
    (insertAll (mapValues change upper) base).insert key value =
      (insertAll upper base).insert key value := by
  -- On the way the two tables may differ for the key.
  suffices every : ∀ first second : Table α, first.insert key value = second.insert key value →
      (insertAll (mapValues change upper) first).insert key value =
        (insertAll upper second).insert key value from every base base rfl
  induction upper with
  | nil => exact fun _ _ same => same
  | cons entry rest ih =>
      obtain ⟨k, v⟩ := entry
      intro first second same
      apply ih (fun other later => only other (.tail _ later))
      by_cases here : k = key
      · subst here
        rw [insert_insert, insert_insert, same]
      · have still : change k v = v := only (k, v) List.mem_cons_self here
        rw [insert_comm here, insert_comm here, same, still]

/-- Changing values keeps the keys ascending. -/
theorem Ordered.mapValues {table : Table α} (ordered : table.Ordered) :
    (Table.mapValues change table).Ordered := by
  refine List.pairwise_map.mpr (List.Pairwise.imp ?_ ordered)
  exact fun ascending => ascending

/-- What is changed for one key only does not count if that key is assigned later. -/
theorem Ordered.insert_mapValues {table : Table α} (ordered : table.Ordered)
    (only : ∀ entry ∈ table, entry.1 ≠ key → change entry.1 entry.2 = entry.2) (value : α) :
    (Table.mapValues change table).insert key value = table.insert key value := by
  apply (ordered.mapValues.insert key value).ext (ordered.insert key value)
  intro other
  rw [get?_insert, get?_insert, get?_mapValues]
  split
  case isTrue => rfl
  case isFalse different =>
    cases found : table.get? other with
    | none => rfl
    | some old => exact congrArg some (only _ (mem_of_get? found) different)

end Table

namespace Json

variable {rename : String → String}

/-- A document without these keys. -/
theorem unbound_record {fields : List (String × Option Json)}
    (once : (fields.map Prod.fst).Nodup)
    (foreign : ∀ key ∈ ["groupId", "charts", "dashboards"], key ∉ fields.map Prod.fst) :
    (record fields).Unbound := by
  refine ⟨sorted_record _, fun key isRef => ?_⟩
  rw [get?_record once, Table.get?_eq_none (foreign key isRef)]
  rfl

/-- In what is sent nothing but its own identifier can be renamed. -/
theorem Unbound.renameRef_eq_self {fields : Table Json} (unbound : (obj fields).Unbound)
    {entry : String × Json} (member : entry ∈ fields) (notId : entry.1 ≠ "id") :
    renameRef rename entry.1 entry.2 = entry.2 := by
  apply renameRef_of_foreign _ notId
  intro isRef
  have found : Table.get? entry.1 fields = some entry.2 :=
    (Table.Ordered.mem_iff unbound.1).mp member
  cases (unbound.2 _ isRef).symm.trans found

/-- What is sent is laid over a document and gets its identifier, and then is renamed. -/
theorem Unbound.renameRefs_overlay {upper base : Json} (unbound : upper.Unbound)
    (object : base.isObject = true) (id : String) :
    ((base.overlay upper).withField "id" (.str id)).renameRefs rename =
      ((base.renameRefs rename).overlay upper).withField "id" (.str (rename id)) := by
  cases upper with
  | obj uppers =>
      cases base with
      | obj fields =>
          rw [renameRefs, mapFields_withField, mapFields_overlay rfl]
          exact congrArg obj
            (Table.insert_insertAll_mapValues (fun _ => unbound.renameRef_eq_self) _ _)
      | _ => cases object
  | _ => cases unbound.1

/-- What is sent gets an identifier, and then is renamed. -/
theorem Unbound.renameRefs_withField {document : Json} (unbound : document.Unbound) (id : String) :
    (document.withField "id" (.str id)).renameRefs rename =
      document.withField "id" (.str (rename id)) := by
  cases document with
  | obj fields =>
      rw [renameRefs, mapFields_withField]
      exact congrArg obj
        (Table.Ordered.insert_mapValues unbound.1 (fun _ => unbound.renameRef_eq_self) _)
  | _ => cases unbound.1

end Json

namespace Chart

variable {rename : String → String}

theorem unbound_document (chart : Chart) : chart.document.Unbound :=
  Json.unbound_record (by simp) (by simp)

/-- A new chart under another identifier. -/
theorem renameRefs_storedAs (chart : Chart) (id : String) :
    (chart.storedAs id).renameRefs rename = chart.storedAs (rename id) :=
  chart.unbound_document.renameRefs_withField id

/-- A chart that is updated under another identifier. -/
theorem renameRefs_revise (chart : Chart) (id : String) {old : Json}
    (object : old.isObject = true) :
    (chart.revise id old).renameRefs rename = chart.revise (rename id) (old.renameRefs rename) :=
  chart.unbound_document.renameRefs_overlay object id

end Chart

theorem Detector.unbound_document (detector : Detector) : detector.document.Unbound :=
  Json.unbound_record (by simp) (by simp)

namespace Dashboard

variable {rename : String → String}

theorem unbound_settings (dashboard : Dashboard) : (Json.record dashboard.settings).Unbound :=
  Json.unbound_record (by simp [settings]) (by simp [settings])

/-- What is written besides the layout, under another identifier. -/
theorem renameRefs_finish (dashboard : Dashboard) (id : String) {document : Json}
    (object : document.isObject = true) :
    (dashboard.finish {} id document).renameRefs rename =
      dashboard.finish {} (rename id) (document.renameRefs rename) := by
  show ((dashboard.withSettings document).withField "id" (.str id)).renameRefs rename =
    (dashboard.withSettings (document.renameRefs rename)).withField "id" (.str (rename id))
  unfold withSettings settingsPayload?
  split
  case h_1 settings present =>
    split at present
    · cases present
    · obtain rfl := Option.some.inj present
      exact dashboard.unbound_settings.renameRefs_overlay object id
  case h_2 => exact Json.mapFields_withField ..

/-- A document with another layout, renamed. -/
theorem renameRefs_withField_charts (document : Json) (layout : List Json) :
    (document.withField "charts" (.arr layout)).renameRefs rename =
      (document.renameRefs rename).withField "charts"
        (.arr (layout.map (Json.mapFields (Json.renamePlaced rename)))) :=
  Json.mapFields_withField ..

end Dashboard

namespace Layout

variable {rename : String → String}

/-- An entry that is added for a chart of another name. -/
theorem renamePlaced_added (id : String) (row : UInt64) :
    (added id row).mapFields (Json.renamePlaced rename) = added (rename id) row := by
  rw [added, Json.mapFields_record]
  rfl

/-- Entries that are added for charts of other names. -/
theorem map_renamePlaced_stacked (ids : List String) (row : UInt64) :
    (stacked ids row).map (Json.mapFields (Json.renamePlaced rename)) =
      stacked (ids.map rename) row := by
  induction ids generalizing row with
  | nil => rfl
  | cons id rest ih => rw [stacked, List.map_cons, renamePlaced_added, ih, List.map_cons, stacked]

end Layout

namespace Store

variable {rename : String → String}

/-- An entry of a chart that a dashboard is created from, under another name. -/
theorem renamePlaced_placedEntry (id : String) (place : Nat) :
    (placedEntry (.str id) place).mapFields (Json.renamePlaced rename) =
      placedEntry (.str (rename id)) place := by
  rw [placedEntry, Json.mapFields_record]
  rfl

/-- Entries of charts that a dashboard is created from, under other names. -/
theorem map_renamePlaced_placedEntries (ids : List String) (place : Nat) :
    (placedEntries ids place).map (Json.mapFields (Json.renamePlaced rename)) =
      placedEntries (ids.map rename) place := by
  induction ids generalizing place with
  | nil => rfl
  | cons id rest ih =>
      rw [placedEntries, List.map_cons, renamePlaced_placedEntry, ih, List.map_cons, placedEntries]

/-- A new dashboard in a group of another name, and under another name itself. -/
theorem renameRefs_dashboardDocument (name groupId : String) (layout : List Json) (id : String) :
    (dashboardDocument name groupId layout id).renameRefs rename =
      dashboardDocument name (rename groupId)
        (layout.map (Json.mapFields (Json.renamePlaced rename))) (rename id) := by
  rw [dashboardDocument, Json.renameRefs, Json.mapFields_withField, Json.mapFields_record]
  rfl

/-- A new group that lists one dashboard, both under other names. -/
theorem renameRefs_groupDocument (name groupId id : String) :
    ((groupDocument (.record [("name", some (.str name))]) groupId).withField "dashboards"
      (.arr [.str id])).renameRefs rename =
      (groupDocument (.record [("name", some (.str name))]) (rename groupId)).withField "dashboards"
        (.arr [.str (rename id)]) := by
  simp only [groupDocument, Json.renameRefs, Json.mapFields_withField, Json.mapFields_record]
  rfl

end Store

end SignalBoard
