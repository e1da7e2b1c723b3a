/-
# Double precision numbers

A number of the IEEE format with 64 bits, kept as a sign and the rank of its magnitude in the
order of all magnitudes: rank 0 is zero, the next ranks are the subnormal and normal numbers in
increasing order, `infinityRank` is infinity, and the ranks above it are not numbers. All
arithmetic is exact arithmetic on natural numbers; no hardware number takes part.
-/

import SignalBoard.Number.Word

namespace SignalBoard

/-- A double precision number. -/
structure Binary64 where
  /-- Is the sign bit set? -/
  negative : Bool
  /-- The place of the magnitude in the order of all magnitudes; 63 bits hold it. -/
  rank : Fin 0x8000000000000000
deriving DecidableEq

namespace Binary64

/-- How many magnitudes share one exponent: as many as 52 bits tell apart. -/
def binade : Nat := 0x10000000000000

/-- The rank of infinity. -/
def infinityRank : Nat := 2047 * binade

/-- The number with the given sign and rank; a rank of infinity or above gives infinity. -/
def ofRank (negative : Bool) (rank : Nat) : Binary64 :=
  ⟨negative, ⟨min rank infinityRank, by
    have : min rank infinityRank ≤ infinityRank := Nat.min_le_right _ _
    have : infinityRank < 0x8000000000000000 := by decide
    omega⟩⟩

/-- Zero, with the given sign. -/
def zero (negative : Bool) : Binary64 := ofRank negative 0

/-- Infinity, with the given sign. -/
def infinity (negative : Bool) : Binary64 := ofRank negative infinityRank

/-- The quiet value that is not a number. -/
def notANumber : Binary64 :=
  ⟨false, ⟨infinityRank + binade / 2, by decide⟩⟩

/-- Is the value no number at all? -/
def isNaN (x : Binary64) : Bool := infinityRank < x.rank.val

/-- Is the value plus or minus infinity? -/
def isInfinite (x : Binary64) : Bool := x.rank.val == infinityRank

/-- Is the value a finite number? -/
def isFinite (x : Binary64) : Bool := x.rank.val < infinityRank

/-- Is the value plus or minus zero? -/
def isZero (x : Binary64) : Bool := x.rank.val == 0

/-- The integer significand: a finite magnitude is `significand * 2 ^ scale`. -/
def significand (x : Binary64) : Nat :=
  if x.rank.val < binade then x.rank.val else binade + x.rank.val % binade

/-- The power of two that goes with `significand`. -/
def scale (x : Binary64) : Int :=
  (max (x.rank.val / binade) 1 : Nat) - 1075

/-- The number with the other sign. -/
def negate (x : Binary64) : Binary64 := { x with negative := !x.negative }

/-- The quotient rounded to the nearest integer, a half to the even neighbour. -/
def roundQuotient (num den : Nat) : Nat :=
  let q := num / den
  let twice := 2 * (num % den)
  if twice < den then q
  else if den < twice then q + 1
  else q + q % 2

/-- The largest `e` with `2 ^ e ≤ num / den`, for positive `num` and `den`. -/
def floorLog2 (num den : Nat) : Int :=
  let e : Int := (num.log2 : Int) - den.log2
  if den * twoTo e.toNat ≤ num * twoTo (-e).toNat then e else e - 1

/-- The double nearest to `num / den` with the given sign, a tie going to the even
significand. A magnitude of a given power of two lies on a grid of 53-bit integers, so the
rounded integer added to the ranks below its binade is the rank of the result; a carry into the
next binade needs no case of its own. -/
def ofRatio (negative : Bool) (num den : Nat) : Binary64 :=
  if num = 0 then zero negative
  else
    let scale : Int := max (floorLog2 num den - 52) (-1074)
    let grid := roundQuotient (num * twoTo (-scale).toNat) (den * twoTo scale.toNat)
    ofRank negative ((scale + 1074).toNat * binade + grid)

/-- The double nearest to an integer. -/
def ofInt (n : Int) : Binary64 := ofRatio (n < 0) n.natAbs 1

/-- The finite magnitude as a fraction. -/
def ratio (x : Binary64) : Nat × Nat :=
  (x.significand * twoTo x.scale.toNat, twoTo (-x.scale).toNat)

/-- The product of two finite numbers. -/
def mul (x y : Binary64) : Binary64 :=
  ofRatio (x.negative != y.negative) (x.ratio.1 * y.ratio.1) (x.ratio.2 * y.ratio.2)

/-- The quotient of two finite numbers, the second not zero. -/
def div (x y : Binary64) : Binary64 :=
  ofRatio (x.negative != y.negative) (x.ratio.1 * y.ratio.2) (x.ratio.2 * y.ratio.1)

/-- The nearest integer of a finite number, a half going away from zero. -/
def round (x : Binary64) : Int :=
  let magnitude := (2 * x.ratio.1 + x.ratio.2) / (2 * x.ratio.2)
  if x.negative then -(magnitude : Int) else magnitude

/-- The place of a value in the total order, in which `-0` comes before `0` and values that
are no numbers come at the two ends. -/
def order (x : Binary64) : Int :=
  if x.negative then -(x.rank.val : Int) - 1 else x.rank.val

/-- Equality as numbers: the two zeros are equal, and what is no number equals nothing. -/
def equals (x y : Binary64) : Bool :=
  !x.isNaN && !y.isNaN && (x = y || (x.isZero && y.isZero))

instance : BEq Binary64 := ⟨equals⟩

/-- Order as numbers: false as soon as one side is no number. -/
def less (x y : Binary64) : Bool :=
  !x.isNaN && !y.isNaN && !(x.isZero && y.isZero) && x.order < y.order

end Binary64

end SignalBoard
