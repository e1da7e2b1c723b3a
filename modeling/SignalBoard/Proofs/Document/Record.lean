/-
# Records tell their fields

A document is a record of fields, some of which may have no value and are left out. If no key occurs
twice among the fields, each of them can be read off the record: one that is left out is told apart
from any that is there. So records of the same keys are equal only if all their fields are.
-/

import SignalBoard.Proofs.Json.Lookup

namespace SignalBoard.Json

/-- The fields that a record was built from can be read off it. -/
theorem fields_eq {fields : List (String × Option Json)} (once : (fields.map Prod.fst).Nodup) :
    fields = (fields.map Prod.fst).map fun key => (key, (record fields).get? key) := by
  rw [List.map_map]
  conv_lhs => rw [← List.map_id fields]
  refine List.map_congr_left fun field among => ?_
  obtain ⟨key, value⟩ := field
  simp [get?_record once, Table.get?_of_mem once among]

/-- Records of the same keys, none of them twice, are equal only if their fields are. -/
theorem record_inj {first second : List (String × Option Json)}
    (same : record first = record second) (keys : first.map Prod.fst = second.map Prod.fst)
    (once : (first.map Prod.fst).Nodup) : first = second := by
  have once' : (second.map Prod.fst).Nodup := keys ▸ once
  calc
    first = (first.map Prod.fst).map fun key => (key, (record first).get? key) := fields_eq once
    _ = (second.map Prod.fst).map fun key => (key, (record second).get? key) := by rw [keys, same]
    _ = second := (fields_eq once').symm

@[simp]
theorem ofString?_inj {first second : Option String} :
    ofString? first = ofString? second ↔ first = second :=
  Option.map_inj_right fun _ _ => str.inj

@[simp]
theorem ofNat_inj {first second : Nat} : ofNat first = ofNat second ↔ first = second := by
  rw [ofNat, ofNat, int.injEq, Int.natCast_inj]

/-- A list that is left out if it is empty can be read off what is there. -/
theorem ofItems?_inj {α : Type} {document : α → Json}
    (injective : ∀ one other, document one = document other → one = other) {first second : List α} :
    ofItems? document first = ofItems? document second ↔ first = second := by
  constructor
  · intro same
    cases first <;> cases second
    case nil.nil => rfl
    case cons.cons => exact (List.map_inj_right injective).mp (arr.inj (Option.some.inj same))
    all_goals cases same
  · exact fun same => same ▸ rfl

end SignalBoard.Json
