/-
# Identifiers in another order

Operations that run in another order get other identifiers: what one of them took comes after what
the other took. Exchanging the two blocks of identifiers is a bijection, and two stores are equal up
to it when each has, under the renamed identifiers, the renamed documents of the other.
-/

import Mathlib.GroupTheory.Perm.ViaEmbedding
import SignalBoard.Proofs.Json.References

namespace SignalBoard.Store

/-- Two blocks of numbers, one right after the other, change places. -/
def exchangeNumbers (base left right : Nat) : Equiv.Perm Nat where
  toFun n :=
    if n ≤ base then n else if n ≤ base + left then n + right
    else if n ≤ base + left + right then n - left else n
  invFun n :=
    if n ≤ base then n else if n ≤ base + right then n + left
    else if n ≤ base + left + right then n - right else n
  left_inv := by
    intro n
    dsimp only
    split_ifs <;> omega
  right_inv := by
    intro n
    dsimp only
    split_ifs <;> omega

/-- The renaming that lets two blocks of identifiers change places. -/
noncomputable def exchange (base left right : Nat) : Equiv.Perm String :=
  (exchangeNumbers base left right).viaEmbedding ⟨ident, fun _ _ => ident_inj⟩

variable {base left right : Nat}

theorem exchange_ident (n : Nat) :
    exchange base left right (ident n) = ident (exchangeNumbers base left right n) :=
  Equiv.Perm.viaEmbedding_apply _ ⟨ident, fun _ _ => ident_inj⟩ n

/-- Nothing else is renamed. -/
theorem exchange_of_foreign {text : String}
    (foreign : ∀ n, base < n → n ≤ base + left + right → text ≠ ident n) :
    exchange base left right text = text := by
  by_cases isIdent : ∃ n, text = ident n
  case pos =>
    obtain ⟨n, rfl⟩ := isIdent
    rw [exchange_ident]
    congr 1
    by_contra moved
    apply foreign n _ _ rfl
    all_goals
      simp only [exchangeNumbers, Equiv.coe_fn_mk] at moved
      split_ifs at moved <;> omega
  case neg =>
    apply Equiv.Perm.viaEmbedding_apply_of_notMem
    rintro ⟨n, rfl⟩
    exact isIdent ⟨n, rfl⟩

/-- An identifier that was given before keeps its name. -/
theorem exchange_of_le {n : Nat} (given : n ≤ base) :
    exchange base left right (ident n) = ident n := by
  rw [exchange_ident]
  exact congrArg ident (if_pos given)

/-- Renaming makes no slashes. -/
theorem slash_not_mem_exchange {text : String} (clean : '/' ∉ text.toList) :
    '/' ∉ (exchange base left right text).toList := by
  by_cases isIdent : ∃ n, text = ident n
  case pos =>
    obtain ⟨n, rfl⟩ := isIdent
    rw [exchange_ident]
    exact slash_not_mem_ident _
  case neg => rwa [exchange_of_foreign fun n _ _ same => isIdent ⟨n, same⟩]

variable {before after : Store}

/-- What is taken first becomes what is taken last. -/
theorem map_exchange_left (isBefore : before.allocated = base)
    (isAfter : after.allocated = base + right) :
    (before.freshIds left).map (exchange base left right) = after.freshIds left := by
  apply List.ext_getElem
  · simp [freshIds]
  intro i inside _
  have bound : i < left := by simpa [freshIds] using inside
  simp only [freshIds, List.getElem_map, List.getElem_range', exchange_ident, isBefore, isAfter]
  congr 1
  simp only [exchangeNumbers, Equiv.coe_fn_mk]
  split_ifs <;> omega

/-- What is taken last becomes what is taken first. -/
theorem map_exchange_right (isBefore : before.allocated = base + left)
    (isAfter : after.allocated = base) :
    (before.freshIds right).map (exchange base left right) = after.freshIds right := by
  apply List.ext_getElem
  · simp [freshIds]
  intro i inside _
  have bound : i < right := by simpa [freshIds] using inside
  simp only [freshIds, List.getElem_map, List.getElem_range', exchange_ident, isBefore, isAfter]
  congr 1
  simp only [exchangeNumbers, Equiv.coe_fn_mk]
  split_ifs <;> omega

/-- Every document is right under an endpoint, and the second store has, under the renamed
identifiers, the renamed documents of the first one. -/
structure EqualUpTo (rename : Equiv.Perm String) (first second : Store) : Prop where
  split : ∀ path document, first.documents.get? path = some document ∨
      second.documents.get? path = some document →
    ∃ endpoint id, path = endpoint ++ "/" ++ id ∧ '/' ∉ id.toList
  documents : ∀ endpoint id, '/' ∉ id.toList →
    second.documents.get? (endpoint ++ "/" ++ rename id) =
      (first.documents.get? (endpoint ++ "/" ++ id)).map (Json.renameRefs rename)

/-- What a renamed document has for a key is what the document has for it, renamed. -/
theorem EqualUpTo.bind_get? {rename : Equiv.Perm String} {first second : Store}
    (equal : EqualUpTo rename first second) (endpoint : String) {id : String}
    (clean : '/' ∉ id.toList) (key : String) :
    (second.documents.get? (endpoint ++ "/" ++ rename id)).bind (Json.get? key) =
      ((first.documents.get? (endpoint ++ "/" ++ id)).bind (Json.get? key)).map
        (Json.renameRef rename key) := by
  rw [equal.documents endpoint id clean]
  cases first.documents.get? (endpoint ++ "/" ++ id) with
  | none => rfl
  | some document => exact Json.get?_mapFields ..

end SignalBoard.Store
