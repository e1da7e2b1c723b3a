/-
# Fields of a text

A text in which a separator stands between fields. There is always one field more than there
are separators, so neighbouring separators enclose an empty field.
-/

namespace SignalBoard.Text

/-- The fields between the separators. -/
def fields (separator : Char) : List Char → List (List Char)
  | [] => [[]]
  | c :: rest =>
      if c = separator then [] :: fields separator rest
      else
        match fields separator rest with
        | [] => [[c]]
        | first :: others => (c :: first) :: others

/-- There is always a field. -/
theorem fields_ne_nil (separator : Char) (cs : List Char) : fields separator cs ≠ [] := by
  cases cs with
  | nil => simp [fields]
  | cons c rest =>
      unfold fields
      split
      · simp
      · split <;> simp

/-- The fields with separators between them are the text again. -/
theorem intercalate_fields (separator : Char) (cs : List Char) :
    [separator].intercalate (fields separator cs) = cs := by
  induction cs with
  | nil => simp [fields, List.intercalate]
  | cons c rest ih =>
      unfold fields
      split
      · rename_i same
        subst same
        cases h : fields c rest with
        | nil => exact absurd h (fields_ne_nil c rest)
        | cons first others =>
            rw [h] at ih
            simp [List.intercalate, List.intersperse] at ih ⊢
            exact ih
      · cases h : fields separator rest with
        | nil => exact absurd h (fields_ne_nil separator rest)
        | cons first others =>
            rw [h] at ih
            cases others <;> simp_all [List.intercalate, List.intersperse]

/-- No field holds a separator. -/
theorem not_mem_of_mem_fields (separator : Char) (cs : List Char) :
    ∀ field ∈ fields separator cs, separator ∉ field := by
  induction cs with
  | nil => simp [fields]
  | cons c rest ih =>
      intro field member
      unfold fields at member
      split at member
      · rcases List.mem_cons.mp member with rfl | later
        · simp
        · exact ih field later
      · rename_i other
        cases h : fields separator rest with
        | nil => exact absurd h (fields_ne_nil separator rest)
        | cons first others =>
            rw [h] at member ih
            rcases List.mem_cons.mp member with rfl | later
            · have := ih first (by simp)
              simp [this, Ne.symm other]
            · exact ih field (by simp [later])

/-- A text without the separator is one field. -/
theorem fields_of_not_mem {separator : Char} {cs : List Char} (clean : separator ∉ cs) :
    fields separator cs = [cs] := by
  induction cs with
  | nil => rfl
  | cons c rest ih =>
      rw [List.mem_cons, not_or] at clean
      rw [fields, if_neg (Ne.symm clean.1), ih clean.2]

/-- The field before the first separator, and the others. -/
theorem fields_append_cons {separator : Char} {first : List Char} (clean : separator ∉ first)
    (rest : List Char) :
    fields separator (first ++ separator :: rest) = first :: fields separator rest := by
  induction first with
  | nil => simp [fields]
  | cons c others ih =>
      rw [List.mem_cons, not_or] at clean
      rw [List.cons_append, fields, if_neg (Ne.symm clean.1), ih clean.2]

/-- Parts that hold no separator are told from the text that they are joined to. -/
theorem fields_intercalate {separator : Char} {parts : List (List Char)} (some : parts ≠ [])
    (clean : ∀ part ∈ parts, separator ∉ part) :
    fields separator ([separator].intercalate parts) = parts := by
  induction parts with
  | nil => exact absurd rfl some
  | cons first rest ih =>
      cases rest with
      | nil =>
          rw [List.intercalate_singleton, fields_of_not_mem (clean first List.mem_cons_self)]
      | cons second others =>
          rw [List.intercalate_cons_cons, List.append_assoc, List.singleton_append,
            fields_append_cons (clean first List.mem_cons_self),
            ih (by simp) fun part later => clean part (.tail _ later)]

end SignalBoard.Text
