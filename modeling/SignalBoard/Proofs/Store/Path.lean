/-
# Identifiers and paths

A store numbers what it adds: the identifier of the n-th addition is told by its number alone and
holds no slash, so it is the last segment of the path at which the addition is kept. Paths of
resources of different kinds or with different identifiers differ, and the path to which clones
are posted gives the group back.
-/

import Mathlib.Data.List.Basic
import Mathlib.Tactic.Common
import SignalBoard.Store
import SignalBoard.Text.Fields

namespace SignalBoard

/-- A text with a digits-only tail is told by the number. -/
theorem natText_inj {first second : Nat} (same : natText first = natText second) :
    first = second := by
  have read := congrArg (Nat.ofDigitChars 10 · 0) same
  simpa [natText] using read

/-- The digits of a number hold no slash. -/
theorem slash_not_mem_natText (n : Nat) : '/' ∉ natText n := by
  intro member
  have digit := Nat.isDigit_of_mem_toDigits (by decide) (by decide) member
  exact absurd digit (by decide)

namespace Store

/-- The identifier of the n-th addition to a store. -/
def ident (n : Nat) : String := "id-" ++ String.ofList (natText n)

/-- An identifier is told by its number. -/
theorem ident_inj {first second : Nat} (same : ident first = ident second) : first = second := by
  have chars := congrArg String.toList same
  simp only [ident, String.toList_append, String.toList_ofList] at chars
  exact natText_inj (List.append_cancel_left chars)

/-- Identifiers hold no slash. -/
theorem slash_not_mem_ident (n : Nat) : '/' ∉ (ident n).toList := by
  simp only [ident, String.toList_append, String.toList_ofList, List.mem_append, not_or]
  exact ⟨by decide, slash_not_mem_natText n⟩

end Store

/-- What follows the last separator is the last field. -/
theorem Text.getLastD_fields (separator : Char) (before : List Char) {after : List Char}
    (clean : separator ∉ after) :
    (Text.fields separator (before ++ separator :: after)).getLastD [] = after := by
  induction before with
  | nil => simp [Text.fields, Text.fields_of_not_mem clean]
  | cons c rest ih =>
      rw [List.cons_append, Text.fields]
      cases split : Text.fields separator (rest ++ separator :: after) with
      | nil => exact absurd split (Text.fields_ne_nil _ _)
      | cons first others =>
          -- The text before the separator is a field by itself, so there are others.
          cases others with
          | nil =>
              rw [split] at ih
              obtain rfl : first = after := by simpa using ih
              have whole := Text.intercalate_fields separator (rest ++ separator :: first)
              have lengths := congrArg List.length whole
              simp [split, List.intercalate] at lengths
              omega
          | cons second others =>
              rw [split] at ih
              split <;> simpa using ih

/-- Two texts that end in a slash and something without one agree on both sides of it. -/
theorem split_at_last_slash {before after before' after' : List Char} (clean : '/' ∉ after)
    (clean' : '/' ∉ after') (same : before ++ '/' :: after = before' ++ '/' :: after') :
    before = before' ∧ after = after' := by
  have reversed := congrArg List.reverse same
  simp only [List.reverse_append, List.reverse_cons, List.append_assoc, List.singleton_append]
    at reversed
  have last : after.reverse = after'.reverse := by
    have taken := congrArg (List.takeWhile (· ≠ '/')) reversed
    rw [List.takeWhile_append_of_pos, List.takeWhile_append_of_pos] at taken
    · simpa using taken
    · intro c member
      have : c ≠ '/' := fun slash => clean' (by simpa [slash] using member)
      simpa using this
    · intro c member
      have : c ≠ '/' := fun slash => clean (by simpa [slash] using member)
      simpa using this
  have tails := List.reverse_injective last
  subst tails
  exact ⟨List.append_cancel_right same, rfl⟩

/-- A path that ends in an identifier splits before it in one way only. -/
theorem split_path {endpoint endpoint' id id' : String} (clean : '/' ∉ id.toList)
    (clean' : '/' ∉ id'.toList) (same : endpoint ++ "/" ++ id = endpoint' ++ "/" ++ id') :
    endpoint = endpoint' ∧ id = id' := by
  have chars := congrArg String.toList same
  have slash : "/".toList = ['/'] := rfl
  simp only [String.toList_append, slash, List.append_assoc, List.singleton_append] at chars
  obtain ⟨first, last⟩ := split_at_last_slash clean clean' chars
  exact ⟨String.toList_injective first, String.toList_injective last⟩

/-- A path of a store splits at its last slash in one way only. -/
theorem path_split {endpoint endpoint' : String} {n n' : Nat}
    (same : endpoint ++ "/" ++ Store.ident n = endpoint' ++ "/" ++ Store.ident n') :
    endpoint = endpoint' ∧ n = n' := by
  obtain ⟨first, last⟩ :=
    split_path (Store.slash_not_mem_ident n) (Store.slash_not_mem_ident n') same
  exact ⟨first, Store.ident_inj last⟩

namespace Store

/-- The last segment of a path. -/
def lastSegment (path : String) : String :=
  String.ofList ((Text.fields '/' path.toList).getLastD [])

/-- The last segment of a path is what stands after its last slash. -/
theorem lastSegment_append (endpoint : String) {id : String} (clean : '/' ∉ id.toList) :
    lastSegment (endpoint ++ "/" ++ id) = id := by
  have slash : "/".toList = ['/'] := rfl
  rw [lastSegment]
  simp only [String.toList_append, slash, List.append_assoc, List.singleton_append]
  rw [Text.getLastD_fields '/' _ clean, String.ofList_toList]

end Store

namespace Kind

/-- What stands before the identifier in a path is never the beginning of what stands there for
another kind. -/
theorem eq_of_begins :
    ∀ kind kind' : Kind, (kind.path "").toList <+: (kind'.path "").toList → kind = kind' := by
  intro kind kind' beginning
  cases kind <;> cases kind' <;> first | rfl | exact absurd beginning (by decide)

/-- The characters of a path. -/
theorem toList_path (kind : Kind) (id : String) :
    (kind.path id).toList = (kind.path "").toList ++ id.toList := by
  simp [path, String.toList_append]

/-- A path begins as the paths of its own kind do, and of no other kind. -/
theorem isPrefixOf_path_iff (kind kind' : Kind) (id : String) :
    (kind.path "").toList.isPrefixOf (kind'.path id).toList = true ↔ kind = kind' := by
  rw [List.isPrefixOf_iff_prefix, toList_path kind']
  constructor
  · intro beginning
    rcases List.prefix_or_prefix_of_prefix beginning (List.prefix_append _ _) with shorter | longer
    · exact eq_of_begins kind kind' shorter
    · exact (eq_of_begins kind' kind longer).symm
  · rintro rfl
    exact List.prefix_append _ _

/-- The path of a resource tells its kind and its identifier. -/
theorem path_inj {kind kind' : Kind} {id id' : String} (same : kind.path id = kind'.path id') :
    kind = kind' ∧ id = id' := by
  have chars := congrArg String.toList same
  rw [toList_path kind, toList_path kind'] at chars
  obtain rfl : kind = kind' := by
    rw [← isPrefixOf_path_iff kind kind' id', toList_path kind', ← chars]
    exact List.isPrefixOf_iff_prefix.mpr (List.prefix_append _ _)
  exact ⟨rfl, String.toList_injective (List.append_cancel_left chars)⟩

/-- Paths of resources of different kinds differ. -/
theorem path_ne {kind kind' : Kind} (different : kind ≠ kind') (id id' : String) :
    kind.path id ≠ kind'.path id' :=
  fun same => different (path_inj same).1

end Kind

namespace Request

theorem toList_clonePath (groupId : String) : (clonePath groupId).toList =
    "/dashboardgroup/".toList ++ (groupId.toList ++ "/dashboard".toList) := by
  have before : (Kind.group.path "").toList = "/dashboardgroup/".toList := by decide
  rw [clonePath, String.toList_append, Kind.toList_path, before, List.append_assoc]

/-- The path to which clones are posted gives the group back. -/
theorem cloneTarget?_clonePath (groupId : String) :
    cloneTarget? (clonePath groupId) = some groupId := by
  have beginning : "/dashboardgroup/".toList.isPrefixOf (clonePath groupId).toList = true := by
    rw [toList_clonePath, List.isPrefixOf_iff_prefix]
    exact List.prefix_append _ _
  have rest : (clonePath groupId).toList.drop "/dashboardgroup/".toList.length =
      groupId.toList ++ "/dashboard".toList := by
    rw [toList_clonePath, List.drop_left]
  have ending : "/dashboard".toList.isSuffixOf (groupId.toList ++ "/dashboard".toList) = true :=
    List.isSuffixOf_iff_suffix.mpr (List.suffix_append _ _)
  simp only [cloneTarget?, beginning, rest, ending, Bool.and_self, if_true, Option.some.injEq]
  rw [List.length_append, Nat.add_sub_cancel, List.take_left, String.ofList_toList]

/-- A path that begins differently is not one to which clones are posted. -/
theorem clonePath_ne (groupId : String) {path : String}
    (different : "/dashboardgroup/".toList.isPrefixOf path.toList = false) :
    clonePath groupId ≠ path := by
  rintro rfl
  rw [toList_clonePath, List.isPrefixOf_iff_prefix.mpr (List.prefix_append _ _)] at different
  cases different

end Request

end SignalBoard
