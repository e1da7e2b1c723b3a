/-
# Identifiers of a dry run

A dry run numbers what it adds like a store does, with identifiers of its own. What the one does
is told from what the other does by renaming: the i-th identifier that the store gave becomes the
i-th of the dry run, in the last segment of a path and wherever a document holds an identifier.
-/

import SignalBoard.DryRun
import SignalBoard.Proofs.Json.Rename
import SignalBoard.Proofs.Reconcile.Charts

namespace SignalBoard

namespace DryRun

/-- The identifier of the n-th addition of a dry run. -/
def ident (n : Nat) : String := "dry-run-" ++ String.ofList (natText n)

/-- Identifiers of a dry run hold no slash. -/
theorem slash_not_mem_ident (n : Nat) : '/' ∉ (ident n).toList := by
  simp only [ident, String.toList_append, String.toList_ofList, List.mem_append, not_or]
  exact ⟨by decide, slash_not_mem_natText n⟩

/-- No identifier of a dry run is one of a store. -/
theorem ident_ne (n m : Nat) : ident n ≠ Store.ident m := by
  intro same
  have chars := congrArg (fun text => text.toList.head?) same
  simp [ident, Store.ident, String.toList_append] at chars

/-- What an identifier is called in a dry run when a store gave these, first to last. -/
def rename (given : List String) (text : String) : String :=
  match given.idxOf? text with
  | some place => ident (place + 1)
  | none => text

/-- An identifier that was not given keeps its name. -/
theorem rename_of_not_mem {given : List String} {text : String} (foreign : text ∉ given) :
    rename given text = text := by
  rw [rename, List.idxOf?_eq_none_iff.mpr foreign]

/-- The n-th identifier that a store gives becomes the n-th of the dry run. -/
theorem rename_freshIds (store : Store) {count n : Nat} (inside : n < count) :
    rename (store.freshIds count) (Store.ident (store.allocated + n + 1)) = ident (n + 1) := by
  have at' : ∀ place (within : place < (store.freshIds count).length),
      (store.freshIds count)[place] = Store.ident (store.allocated + place + 1) := by
    intro place within
    simp only [Store.freshIds, List.getElem_map, List.getElem_range']
    congr 1
    omega
  have place : (store.freshIds count).idxOf? (Store.ident (store.allocated + n + 1)) = some n := by
    refine List.idxOf?_eq_some_iff.mpr ⟨by simpa [Store.freshIds] using inside, at' .., ?_⟩
    intro earlier before same
    rw [at'] at same
    have := Store.ident_inj same
    omega
  rw [rename, place]

/-- Renaming makes no slashes. -/
theorem slash_not_mem_rename (given : List String) {text : String} (clean : '/' ∉ text.toList) :
    '/' ∉ (rename given text).toList := by
  unfold rename
  split
  · exact slash_not_mem_ident _
  · exact clean

/-- The path with its last segment renamed. -/
def renamePath (rename : String → String) (path : String) : String :=
  String.ofList (path.toList.take (path.toList.length - (Store.lastSegment path).toList.length))
    ++ rename (Store.lastSegment path)

/-- Renaming in a path that ends in an identifier. -/
theorem renamePath_append (rename : String → String) (endpoint : String) {id : String}
    (clean : '/' ∉ id.toList) :
    renamePath rename (endpoint ++ "/" ++ id) = endpoint ++ "/" ++ rename id := by
  have before : (endpoint ++ "/" ++ id).toList.take
      ((endpoint ++ "/" ++ id).toList.length - id.toList.length) =
      (endpoint ++ "/").toList := by
    rw [String.toList_append, List.length_append, Nat.add_sub_cancel, List.take_left]
  rw [renamePath, Store.lastSegment_append endpoint clean, before, String.ofList_toList]

end DryRun

/-- The request with the identifiers in it renamed. -/
def Request.renameIds (rename : String → String) : Request → Request
  | search kind name => search kind name
  | get path => get (DryRun.renamePath rename path)
  | post path query body => post (DryRun.renamePath rename path) query (body.renameIds rename)
  | put path body => put (DryRun.renamePath rename path) (body.renameIds rename)
  | delete path => delete (DryRun.renamePath rename path)

end SignalBoard
