/-
# Resources of a store

The documents right under an endpoint are the resources of a kind, and each has an identifier:
what follows the endpoint in its path. A search by a name finds in particular the resources of
exactly that name, so what a look-up by name sees is told by the resources alone.
-/

import Mathlib.Data.List.Nodup
import SignalBoard.Proofs.Store.Path
import SignalBoard.Proofs.Table.Order
import SignalBoard.Reconcile.Lookup

namespace SignalBoard.Store

/-- The resource of a kind with an identifier, if the store has it. -/
def resource? (store : Store) (kind : Kind) (id : String) : Option Json :=
  if '/' ∈ id.toList then none else store.documents.get? (kind.path id)

/-- The resources of a kind with exactly the name. -/
def named (store : Store) (kind : Kind) (name : String) : List Json :=
  (store.under kind.endpoint).filter fun document => document.name? = some name

/-- A resource is stored at its path. -/
theorem get?_of_resource? {store : Store} {kind : Kind} {id : String} {document : Json}
    (found : store.resource? kind id = some document) :
    store.documents.get? (kind.path id) = some document := by
  unfold resource? at found
  split at found
  · cases found
  · exact found

/-- The identifier of a resource holds no slash. -/
theorem clean_of_resource? {store : Store} {kind : Kind} {id : String} {document : Json}
    (found : store.resource? kind id = some document) : '/' ∉ id.toList := by
  unfold resource? at found
  split at found
  · cases found
  · assumption

/-- A document at the path of an identifier without slashes is a resource. -/
theorem resource?_of_clean {id : String} (clean : '/' ∉ id.toList) (store : Store)
    (kind : Kind) : store.resource? kind id = store.documents.get? (kind.path id) :=
  if_neg clean

/-- Stores with the same document at a path have the same resource there. -/
theorem resource?_congr {first second : Store} {kind : Kind} {id : String}
    (same : first.documents.get? (kind.path id) = second.documents.get? (kind.path id)) :
    first.resource? kind id = second.resource? kind id := by
  simp only [resource?, same]

/-- The paths right under an endpoint are those of identifiers without slashes. -/
theorem isUnder_iff (kind : Kind) (path : String) :
    isUnder kind.endpoint path = true ↔ ∃ id, path = kind.path id ∧ '/' ∉ id.toList := by
  have before : (kind.path "").toList = kind.endpoint.toList ++ ['/'] := by
    simp [Kind.path, String.toList_append]
  simp only [isUnder, Bool.and_eq_true, Bool.not_eq_true', ← before]
  constructor
  · rintro ⟨beginning, clean⟩
    obtain ⟨rest, split⟩ := List.isPrefixOf_iff_prefix.mp beginning
    refine ⟨String.ofList rest, ?_, ?_⟩
    · apply String.toList_injective
      rw [Kind.toList_path, ← split, String.toList_ofList]
    · rw [← split, List.drop_left] at clean
      simpa using clean
  · rintro ⟨id, rfl, clean⟩
    rw [Kind.toList_path kind id, List.drop_left]
    exact ⟨List.isPrefixOf_iff_prefix.mpr (List.prefix_append _ _), by simpa using clean⟩

/-- The documents right under an endpoint are the resources of the kind. -/
theorem mem_under_iff {store : Store} (ordered : store.documents.Ordered) (kind : Kind)
    (document : Json) :
    document ∈ store.under kind.endpoint ↔ ∃ id, store.resource? kind id = some document := by
  simp only [under, List.mem_map, List.mem_filter, isUnder_iff]
  constructor
  · rintro ⟨⟨_, _⟩, ⟨member, id, rfl, clean⟩, rfl⟩
    exact ⟨id, by rw [resource?_of_clean clean]; exact ordered.mem_iff.mp member⟩
  · rintro ⟨id, found⟩
    exact ⟨⟨kind.path id, document⟩, ⟨ordered.mem_iff.mpr (get?_of_resource? found), id, rfl,
      clean_of_resource? found⟩, rfl⟩

/-- The entries of the resources of a kind with exactly the name. -/
def namedEntries (store : Store) (kind : Kind) (name : String) : Table Json :=
  (store.documents.filter fun (path, _) => isUnder kind.endpoint path).filter
    fun (_, document) => document.name? = some name

theorem named_eq_map (store : Store) (kind : Kind) (name : String) :
    store.named kind name = (store.namedEntries kind name).map (·.2) := by
  rw [named, under, List.filter_map]
  rfl

/-- The entries found by a name are those of the resources that have it. -/
theorem mem_namedEntries_iff {store : Store} (ordered : store.documents.Ordered) (kind : Kind)
    (name path : String) (document : Json) :
    (path, document) ∈ store.namedEntries kind name ↔
      ∃ id, path = kind.path id ∧ store.resource? kind id = some document ∧
        document.name? = some name := by
  simp only [namedEntries, List.mem_filter, decide_eq_true_eq, isUnder_iff]
  constructor
  · rintro ⟨⟨stored, id, rfl, clean⟩, isNamed⟩
    exact ⟨id, rfl, (resource?_of_clean clean _ _).trans (ordered.mem_iff.mp stored), isNamed⟩
  · rintro ⟨id, rfl, found, isNamed⟩
    exact ⟨⟨ordered.mem_iff.mpr (get?_of_resource? found), id, rfl, clean_of_resource? found⟩,
      isNamed⟩

/-- Nothing is found by a name exactly when no resource has it. -/
theorem named_eq_nil_iff {store : Store} (ordered : store.documents.Ordered) (kind : Kind)
    (name : String) :
    store.named kind name = [] ↔
      ∀ id document, store.resource? kind id = some document → document.name? ≠ some name := by
  simp only [named, List.filter_eq_nil_iff, decide_eq_true_eq, mem_under_iff ordered]
  exact ⟨fun none id document found => none document ⟨id, found⟩,
    fun none document ⟨id, found⟩ => none id document found⟩

/-- A resource that alone has its name is found alone by it. -/
theorem named_eq_singleton {store : Store} (ordered : store.documents.Ordered) {kind : Kind}
    {name id : String} {document : Json} (found : store.resource? kind id = some document)
    (isNamed : document.name? = some name)
    (only : ∀ id' document', store.resource? kind id' = some document' →
      document'.name? = some name → id' = id) : store.named kind name = [document] := by
  have member : (kind.path id, document) ∈ store.namedEntries kind name :=
    (mem_namedEntries_iff ordered ..).mpr ⟨id, rfl, found, isNamed⟩
  have same : ∀ entry ∈ store.namedEntries kind name, entry = (kind.path id, document) := by
    rintro ⟨path, document'⟩ member'
    obtain ⟨id', rfl, found', isNamed'⟩ := (mem_namedEntries_iff ordered ..).mp member'
    obtain rfl := only id' document' found' isNamed'
    rw [Option.some.inj (found'.symm.trans found)]
  have once : (store.namedEntries kind name).Nodup :=
    ((List.Nodup.of_map _ ordered.nodup).filter _).filter _
  have single : store.namedEntries kind name = [(kind.path id, document)] :=
    List.perm_singleton.mp ((List.perm_ext_iff_of_nodup once (List.nodup_singleton _)).mpr
      fun entry => ⟨fun there => List.mem_singleton.mpr (same entry there),
        fun there => List.mem_singleton.mp there ▸ member⟩)
  rw [named_eq_map, single, List.map_singleton]

/-- A text occurs in itself. -/
theorem occurs_self (cs : List Char) : occurs cs cs = true := by
  cases cs with
  | nil => rfl
  | cons c rest => simp [occurs]

end SignalBoard.Store
