/-
# Blank text

A setting that must be given is refused when it is blank: when it holds no character that is
not white space. White space is the Unicode property of that name, so a no-break space or a
line separator does not count as content. The table lists its twenty-five characters.
-/

namespace SignalBoard.Text

/-- The ranges of the Unicode property `White_Space`, first and last code point. -/
def blankRanges : List (Nat × Nat) :=
  [(0x9, 0xD), (0x20, 0x20), (0x85, 0x85), (0xA0, 0xA0), (0x1680, 0x1680), (0x2000, 0x200A),
    (0x2028, 0x2029), (0x202F, 0x202F), (0x205F, 0x205F), (0x3000, 0x3000)]

/-- Is the character white space? -/
def blankChar (c : Char) : Bool :=
  blankRanges.any fun (first, last) => first ≤ c.toNat && c.toNat ≤ last

/-- Does the text hold no character but white space? -/
def blank (s : String) : Bool :=
  s.toList.all blankChar

/-- The characters without the white space at their two ends. -/
def trimChars (cs : List Char) : List Char :=
  ((cs.dropWhile blankChar).reverse.dropWhile blankChar).reverse

/-- The text without the white space at its two ends. -/
def trim (s : String) : String :=
  String.ofList (trimChars s.toList)

/-- Dropping a class of characters leaves nothing exactly when all belong to it. -/
theorem dropWhile_eq_nil_iff_all {α : Type} (p : α → Bool) (xs : List α) :
    xs.dropWhile p = [] ↔ xs.all p = true := by
  induction xs with
  | nil => simp
  | cons x xs ih => cases h : p x <;> simp [List.dropWhile, h, ih]

/-- A text is blank exactly when trimming leaves nothing of it. -/
theorem blank_iff_trim (s : String) : blank s = true ↔ trimChars s.toList = [] := by
  unfold blank trimChars
  rw [List.reverse_eq_nil_iff, dropWhile_eq_nil_iff_all, List.all_reverse,
    ← dropWhile_eq_nil_iff_all]
  constructor
  · intro h; simp [h]
  · intro h
    have all := (dropWhile_eq_nil_iff_all _ _).mp
      ((dropWhile_eq_nil_iff_all blankChar _).mpr h)
    cases hd : s.toList.dropWhile blankChar with
    | nil => rfl
    | cons c cs =>
        have head : ¬ blankChar c = true := by
          have := List.head_dropWhile_not blankChar (l := s.toList) (by simp [hd])
          simpa [hd] using this
        rw [hd] at all
        simp_all

end SignalBoard.Text
