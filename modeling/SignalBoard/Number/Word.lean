/-
# Powers and words

The powers that number formats are made of, and the ranges of integers that fit in a word of 64
bits, with a sign and without. A power of two or ten is written as a function so that it means
the same whichever library of algebra stands around it.
-/

namespace SignalBoard

/-- A power of two. -/
def twoTo (exponent : Nat) : Nat := Nat.pow 2 exponent

/-- A power of ten. -/
def tenTo (exponent : Nat) : Nat := Nat.pow 10 exponent

/-- Is the number below the limit of words without a sign? -/
def fitsWord (n : Nat) : Bool := n < 0x10000000000000000

/-- The largest word without a sign. -/
def largestWord : Nat := 0xFFFFFFFFFFFFFFFF

/-- Does the integer fit in a word with a sign? -/
def fitsSignedWord (n : Int) : Bool := -0x8000000000000000 ≤ n && n < 0x8000000000000000

/-- The words are the numbers below the sixty-fourth power of two. -/
theorem fitsWord_iff (n : Nat) : fitsWord n = true ↔ n < twoTo 64 := by
  simp [fitsWord, twoTo]

end SignalBoard
