/-
# Fresh identifiers and what stays

A store gives consecutive identifiers, so those that it gives next are known beforehand, and
nothing is kept under them yet. An operation that says which paths it touches leaves everything
else as it was, and what two operations touch together is touched by neither alone.
-/

import SignalBoard.Proofs.Store.Answer

namespace SignalBoard

namespace Store

/-- The stores have the same documents but for those at some paths. -/
def AgreesOff (paths : List String) (first second : Store) : Prop :=
  ∀ path, path ∉ paths → second.documents.get? path = first.documents.get? path

theorem AgreesOff.refl (paths : List String) (store : Store) : AgreesOff paths store store :=
  fun _ _ => rfl

theorem AgreesOff.trans {paths paths' : List String} {first second third : Store}
    (earlier : AgreesOff paths first second) (later : AgreesOff paths' second third) :
    AgreesOff (paths ++ paths') first third := by
  intro path untouched
  rw [List.mem_append, not_or] at untouched
  rw [later path untouched.2, earlier path untouched.1]

/-- A chart is stored under the identifier that it names itself. -/
def HasChart (store : Store) (id : String) : Prop :=
  ∃ document, store.documents.get? (Kind.chart.path id) = some document ∧ document.id? = some id

/-- A stored chart is still stored when its path is left alone. -/
theorem HasChart.of_agreesOff {paths : List String} {first second : Store} {id : String}
    (has : first.HasChart id) (agrees : AgreesOff paths first second)
    (untouched : Kind.chart.path id ∉ paths) : second.HasChart id := by
  obtain ⟨document, stored, identified⟩ := has
  exact ⟨document, (agrees _ untouched).trans stored, identified⟩

/-- The next identifiers that a store gives. -/
def freshIds (store : Store) (count : Nat) : List String :=
  (List.range' (store.allocated + 1) count).map ident

theorem freshIds_succ (store : Store) (count : Nat) :
    store.freshIds (count + 1) =
      ident (store.allocated + 1) :: store.allocate.freshIds count := by
  simp [freshIds, List.range'_succ]

@[simp] theorem freshIds_set (store : Store) (path : String) (document : Json) (count : Nat) :
    (store.set path document).freshIds count = store.freshIds count := rfl

theorem mem_freshIds_iff (store : Store) (count : Nat) (id : String) :
    id ∈ store.freshIds count ↔
      ∃ n, id = ident n ∧ store.allocated < n ∧ n ≤ store.allocated + count := by
  simp only [freshIds, List.mem_map, List.mem_range'_1]
  constructor
  · rintro ⟨n, bounds, rfl⟩
    exact ⟨n, rfl, by omega, by omega⟩
  · rintro ⟨n, rfl, lower, upper⟩
    exact ⟨n, by omega, rfl⟩

/-- No identifier is given twice. -/
theorem nodup_freshIds (store : Store) (count : Nat) : (store.freshIds count).Nodup :=
  List.Nodup.map (fun _ _ => ident_inj) List.nodup_range'

/-- The identifiers that a dashboard with charts takes: one for its group, those of the charts, and
then its own. -/
theorem freshIds_add_two (store : Store) (count : Nat) :
    store.freshIds (count + 2) = ident (store.allocated + 1) ::
      (store.allocate.freshIds count ++ [ident (store.allocated + count + 2)]) := by
  rw [freshIds_succ, freshIds, List.range'_concat, List.map_append]
  simp only [allocated_allocate, Nat.one_mul, List.map_cons, List.map_nil, freshIds]
  congr 4
  omega

section Fresh

variable {store : Store} {kind : Kind} {id : String} {count : Nat}

theorem clean_of_mem_freshIds (member : id ∈ store.freshIds count) : '/' ∉ id.toList := by
  obtain ⟨n, rfl, -⟩ := (mem_freshIds_iff ..).mp member
  exact slash_not_mem_ident n

/-- Nothing is kept under an identifier that is given next. -/
theorem Sound.get?_of_mem_freshIds (sound : store.Sound) (member : id ∈ store.freshIds count)
    (kind : Kind) : store.documents.get? (kind.path id) = none := by
  obtain ⟨n, rfl, later, -⟩ := (mem_freshIds_iff ..).mp member
  exact sound.get?_fresh later kind.endpoint

/-- No resource has an identifier that is given next. -/
theorem Sound.resource?_of_mem_freshIds (sound : store.Sound) (member : id ∈ store.freshIds count)
    (kind : Kind) : store.resource? kind id = none := by
  rw [resource?_of_clean (clean_of_mem_freshIds member), sound.get?_of_mem_freshIds member kind]

/-- A document that is kept under its identifier is not kept under a fresh one. -/
theorem not_mem_freshIds (sound : store.Sound) {document : Json}
    (stored : store.documents.get? (kind.path id) = some document) (count : Nat) :
    id ∉ store.freshIds count := by
  intro member
  rw [sound.get?_of_mem_freshIds member] at stored
  cases stored

end Fresh

end Store

namespace Kind

/-- The paths of the resources of a kind with some identifiers. -/
def paths (kind : Kind) (ids : List String) : List String := ids.map kind.path

theorem paths_append (kind : Kind) (first second : List String) :
    kind.paths (first ++ second) = kind.paths first ++ kind.paths second :=
  List.map_append

theorem path_mem_paths {kind : Kind} {id : String} {ids : List String} :
    kind.path id ∈ kind.paths ids ↔ id ∈ ids := by
  simp only [paths, List.mem_map]
  constructor
  · rintro ⟨other, member, same⟩
    rwa [(path_inj same).2] at member
  · exact fun member => ⟨id, member, rfl⟩

/-- The path of a resource is among paths of its own kind only. -/
theorem path_not_mem_paths {kind kind' : Kind} (different : kind ≠ kind') (id : String)
    (ids : List String) : kind.path id ∉ kind'.paths ids := by
  intro member
  obtain ⟨other, -, same⟩ := List.mem_map.mp member
  exact path_ne different id other same.symm

/-- The paths at which a dashboard is created with its charts and its group. -/
theorem path_mem_created_iff {kind : Kind} {id groupId dashboardId : String}
    {chartIds : List String} :
    kind.path id ∈ Kind.group.path groupId :: Kind.dashboard.path dashboardId ::
        Kind.chart.paths chartIds ↔
      kind = .group ∧ id = groupId ∨ kind = .dashboard ∧ id = dashboardId ∨
        kind = .chart ∧ id ∈ chartIds := by
  have same : ∀ (kind' : Kind) id', kind.path id = kind'.path id' ↔ kind = kind' ∧ id = id' :=
    fun kind' id' => ⟨path_inj, fun ⟨here, there⟩ => by rw [here, there]⟩
  have among : kind.path id ∈ Kind.chart.paths chartIds ↔ kind = .chart ∧ id ∈ chartIds := by
    constructor
    · intro member
      obtain ⟨id', member', isPath⟩ := List.mem_map.mp member
      obtain ⟨rfl, rfl⟩ := path_inj isPath
      exact ⟨rfl, member'⟩
    · rintro ⟨rfl, member⟩
      exact path_mem_paths.mpr member
  rw [List.mem_cons, List.mem_cons, same, same, among]

end Kind

end SignalBoard
