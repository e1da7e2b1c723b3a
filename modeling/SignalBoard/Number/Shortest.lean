/-
# Shortest decimal text of a double

The digits that stand for a double are the fewest that read back as that double, and of those
the nearest to it. A value has two neighbours on each decimal grid; if any point of the grid
reads back as the value, one of the two neighbours does. So it is enough to test the
neighbours for one digit, two digits and so on: seventeen always succeed.
-/

import SignalBoard.Number.Binary64

namespace SignalBoard

/-- The positive decimal number `digits * 10 ^ exponent`. -/
structure Decimal where
  digits : Nat
  exponent : Int
deriving DecidableEq, Repr

namespace Decimal

/-- The same number without zeros at the end of its digits. -/
def strip (d : Decimal) : Decimal :=
  if h : d.digits ≠ 0 ∧ d.digits % 10 = 0 then
    strip ⟨d.digits / 10, d.exponent + 1⟩
  else d
termination_by d.digits
decreasing_by omega

end Decimal

/-- Which neighbour stands for a value exactly half way between the two. -/
inductive Tie where
  | up
  | even
deriving DecidableEq, Repr

namespace Binary64

/-- The upper end of the interval of reals that round to the magnitude, as a fraction. -/
def upperEnd (x : Binary64) : Nat × Nat :=
  ((2 * x.significand + 1) * twoTo x.scale.toNat, 2 * twoTo (-x.scale).toNat)

/-- The lower end of that interval. Below the first magnitude of a binade the grid is twice as
fine, so the interval ends earlier there. -/
def lowerEnd (x : Binary64) : Nat × Nat :=
  if x.significand = binade ∧ binade < x.rank.val then
    ((4 * x.significand - 1) * twoTo x.scale.toNat, 4 * twoTo (-x.scale).toNat)
  else
    ((2 * x.significand - 1) * twoTo x.scale.toNat, 2 * twoTo (-x.scale).toNat)

/-- Does the fraction read back as the magnitude? The ends of the interval do so exactly when
the significand is even. -/
def readsBack (x : Binary64) (num den : Nat) : Bool :=
  let (low, lowDen) := x.lowerEnd
  let (high, highDen) := x.upperEnd
  let inside := low * den < num * lowDen && num * highDen < high * den
  let onEnd := low * den == num * lowDen || num * highDen == high * den
  inside || (onEnd && x.significand % 2 == 0)

/-- How many digits stand before the decimal point of the magnitude; zero or less when it is
below one tenth. Every positive double has an integer part once scaled by `10 ^ 400`. -/
def pointPlace (x : Binary64) : Int :=
  (Nat.toDigits 10 (x.ratio.1 * tenTo 400 / x.ratio.2)).length - 400

/-- The better neighbour of the magnitude among the multiples of `10 ^ exponent`, if one reads
back. -/
def neighbour? (tie : Tie) (x : Binary64) (exponent : Int) : Option Decimal :=
  let (num, den) := x.ratio
  let unit := tenTo exponent.toNat
  let parts := tenTo (-exponent).toNat
  let below := num * parts / (den * unit)
  let rest := num * parts % (den * unit)
  let above := below + 1
  let belowFits := x.readsBack (below * unit) parts
  let aboveFits := x.readsBack (above * unit) parts
  let takeAbove :=
    if 2 * rest = den * unit then
      match tie with
      | .up => true
      | .even => below % 2 == 1
    else decide (den * unit < 2 * rest)
  if belowFits && (!aboveFits || !takeAbove) then some ⟨below, exponent⟩
  else if aboveFits then some ⟨above, exponent⟩
  else none

/-- The shortest decimal that reads back as a finite magnitude other than zero. -/
def shortest (tie : Tie) (x : Binary64) : Decimal :=
  let place := x.pointPlace
  let found := (List.range 17).findSome? fun n => x.neighbour? tie (place - 1 - (n : Nat))
  (found.getD ⟨0, 0⟩).strip

end Binary64

end SignalBoard
