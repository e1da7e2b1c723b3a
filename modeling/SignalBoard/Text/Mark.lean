/-
# Byte order marks

A text that was stored as bytes may begin with a byte order mark, which is no part of it. Only
one mark is left out: a second one belongs to the text.
-/

namespace SignalBoard.Text

/-- The code point of the byte order mark. -/
def markCode : Nat := 0xFEFF

/-- The characters after a byte order mark, or all of them if there is none. -/
def afterMark : List Char → List Char
  | c :: rest => if c.toNat = markCode then rest else c :: rest
  | [] => []

/-- The text without a byte order mark in front. -/
def withoutMark (s : String) : String := String.ofList (afterMark s.toList)

/-- A text that does not begin with a mark is not changed. -/
theorem afterMark_eq_self {cs : List Char} (h : ∀ c ∈ cs.head?, c.toNat ≠ markCode) :
    afterMark cs = cs := by
  cases cs with
  | nil => rfl
  | cons c rest => simp [afterMark, h c (by simp)]

end SignalBoard.Text
