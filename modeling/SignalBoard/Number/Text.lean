/-
# Number texts

How numbers are written into flow programs and into documents, and how decimal text is read.
Both formats start from the shortest digits; they differ in the tie, in when an exponent is
written, and in whether a whole number keeps a fraction.
-/

import SignalBoard.Number.Shortest

namespace SignalBoard

/-- The digits of a natural number. -/
def natText (n : Nat) : List Char := Nat.toDigits 10 n

/-- The digits of an integer, after a minus sign if it is negative. -/
def intText : Int → List Char
  | .ofNat n => natText n
  | .negSucc n => '-' :: natText (n + 1)

namespace Decimal

/-- The digits of the decimal. -/
def chars (d : Decimal) : List Char := natText d.digits

/-- How many of the digits stand before the decimal point. -/
def point (d : Decimal) : Int := d.chars.length + d.exponent

/-- The decimal without an exponent: zeros fill the places between digits and point. A whole
number has no point. -/
def positional (d : Decimal) : List Char :=
  if 0 ≤ d.exponent then d.chars ++ List.replicate d.exponent.toNat '0'
  else if 0 < d.point then
    d.chars.take d.point.toNat ++ '.' :: d.chars.drop d.point.toNat
  else '0' :: '.' :: List.replicate (-d.point).toNat '0' ++ d.chars

/-- The decimal with its point after the first digit, and the power of ten that goes with it. -/
def scientific (d : Decimal) : List Char :=
  let exponent := d.point - 1
  let sign := if exponent < 0 then '-' else '+'
  let lead := match d.chars with
    | [] => []
    | [c] => [c]
    | c :: rest => c :: '.' :: rest
  lead ++ 'e' :: sign :: natText exponent.natAbs

end Decimal

/-- The decisions in which number formats differ. -/
structure NumberFormat where
  /-- The choice between two equally near shortest decimals. -/
  tie : Tie
  /-- The places of the point for which no exponent is written; all of them if `none`. -/
  positional : Option (Int × Int)
  /-- Is `.0` added to a whole number that has no exponent? -/
  keepsFraction : Bool

namespace NumberFormat

/-- Numbers in flow programs never have an exponent, a whole number has no point, and of two
equally short and near decimals the larger is written. -/
def flow : NumberFormat := ⟨.up, none, false⟩

/-- Numbers in documents always show that they are no integers. From `1e-5` up to below `1e16`
they have no exponent. -/
def document : NumberFormat := ⟨.even, some (-4, 16), true⟩

end NumberFormat

namespace Binary64

/-- The text of a number; a value that is no number is `NaN`, an infinity `inf`. -/
def render (format : NumberFormat) (x : Binary64) : List Char :=
  let sign := if x.negative then ['-'] else []
  if x.isNaN then "NaN".toList
  else if x.isInfinite then sign ++ "inf".toList
  else
    let d : Decimal := if x.isZero then ⟨0, 0⟩ else x.shortest format.tie
    let plain := match format.positional with
      | none => true
      | some (first, last) => first ≤ d.point && d.point ≤ last
    let fraction := if format.keepsFraction && 0 ≤ d.exponent then ".0".toList else []
    sign ++ if plain then d.positional ++ fraction else d.scientific

end Binary64

/-- The number that a run of decimal digits denotes. -/
def digitsValue (cs : List Char) : Nat :=
  cs.foldl (fun n c => 10 * n + (c.toNat - '0'.toNat)) 0

/-- The double nearest to `digits * 10 ^ exponent`. An exponent far outside the range of
doubles is not computed with. -/
def Binary64.ofDecimal (negative : Bool) (digits : Nat) (exponent : Int) : Binary64 :=
  let place := (natText digits).length + exponent
  if digits = 0 ∨ place < -400 then .zero negative
  else if 400 < place then .infinity negative
  else .ofRatio negative (digits * tenTo exponent.toNat) (tenTo (-exponent).toNat)

/-- A signed run of decimal digits, at least one. -/
def readSignedDigits? (cs : List Char) : Option Int :=
  let (negative, digits) := match cs with
    | '-' :: rest => (true, rest)
    | '+' :: rest => (false, rest)
    | rest => (false, rest)
  if digits.isEmpty || !digits.all Char.isDigit then none
  else some (if negative then -(digitsValue digits : Int) else digitsValue digits)

/-- The exponent part of decimal text: nothing, or `e` and a signed run of digits. -/
def readExponent? : List Char → Option Int
  | [] => some 0
  | c :: rest => if c = 'e' ∨ c = 'E' then readSignedDigits? rest else none

/-- The magnitude that decimal text without a sign denotes: `inf`, `infinity` or `nan` in any
case, or digits with at most one point among them and at least one digit, then perhaps an
exponent. -/
def readMagnitude? (negative : Bool) (cs : List Char) : Option Binary64 :=
  let word := String.ofList (cs.map Char.toLower)
  if word = "inf" ∨ word = "infinity" then some (.infinity negative)
  else if word = "nan" then some .notANumber
  else
    let whole := cs.takeWhile Char.isDigit
    let afterWhole := cs.dropWhile Char.isDigit
    let (fraction, rest) := match afterWhole with
      | '.' :: more => (more.takeWhile Char.isDigit, more.dropWhile Char.isDigit)
      | more => ([], more)
    if whole.isEmpty && fraction.isEmpty then none
    else (readExponent? rest).map fun e =>
      .ofDecimal negative (digitsValue (whole ++ fraction)) (e - fraction.length)

/-- The double nearest to the number that decimal text denotes. -/
def Binary64.ofText? (s : String) : Option Binary64 :=
  match s.toList with
  | '-' :: rest => readMagnitude? true rest
  | '+' :: rest => readMagnitude? false rest
  | rest => readMagnitude? false rest

end SignalBoard
