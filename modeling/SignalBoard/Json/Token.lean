/-
# Tokens of JSON texts

A JSON text is a sequence of brackets, commas, colons and literals with blanks between them.
A number literal without fraction and exponent is an integer as long as it fits in 64 bits.
Any other number is a double made in two steps: a significand of at most 64 bits, rounded, then
scaled by a power of ten and rounded again. Digits beyond those 64 bits are dropped.
-/

import SignalBoard.Json.Basic

namespace SignalBoard.Json

/-- A token of a JSON text. -/
inductive Token where
  | beginArray
  | endArray
  | beginObject
  | endObject
  | comma
  | colon
  | literal (value : Json)

namespace Token

/-- Takes digits into a significand as long as it stays below `2 ^ 64`, and counts them. -/
def absorb (significand count : Nat) : List Char → Nat × Nat
  | [] => (significand, count)
  | c :: rest =>
      let next := 10 * significand + (c.toNat - '0'.toNat)
      if fitsWord next then absorb next (count + 1) rest else (significand, count)

/-- The double nearest to a power of ten. -/
def powerOfTen (exponent : Nat) : Binary64 := .ofDecimal false 1 exponent

/-- Scales a significand by a power of ten. A result beyond the largest double is refused; one
below the smallest is zero. Exponents under `-308` take two divisions. -/
def scaleByTen? (significand : Nat) (exponent : Int) : Option Binary64 :=
  let x := Binary64.ofInt significand
  if significand = 0 then some x
  else if 308 < exponent then none
  else if 0 ≤ exponent then
    let y := x.mul (powerOfTen exponent.toNat)
    if y.isInfinite then none else some y
  else if -308 ≤ exponent then some (x.div (powerOfTen (-exponent).toNat))
  else if -616 ≤ exponent then
    some ((x.div (powerOfTen 308)).div (powerOfTen (-exponent - 308).toNat))
  else some (.zero false)

/-- The exponent that may follow a number, and what comes after it. -/
def readExponent? : List Char → Option (Option Int × List Char)
  | c :: rest =>
      if c = 'e' ∨ c = 'E' then
        let (negative, rest) := match rest with
          | '-' :: more => (true, more)
          | '+' :: more => (false, more)
          | more => (false, more)
        let digits := rest.takeWhile Char.isDigit
        if digits.isEmpty then none
        else
          let n : Int := digitsValue digits
          some (some (if negative then -n else n), rest.dropWhile Char.isDigit)
      else some (none, c :: rest)
  | [] => some (none, [])

/-- The fraction that may follow the digits of a number, and what comes after it. -/
def readFraction? : List Char → Option (Option (List Char) × List Char)
  | '.' :: rest =>
      let digits := rest.takeWhile Char.isDigit
      if digits.isEmpty then none else some (some digits, rest.dropWhile Char.isDigit)
  | rest => some (none, rest)

/-- Is a run of digits allowed before the point? A zero must stand alone. -/
def wholeAllowed : List Char → Bool
  | [] => false
  | ['0'] => true
  | c :: _ => c != '0'

/-- The number at the start of a text, its minus sign already read. -/
def readNumber? (negative : Bool) (cs : List Char) : Option (Json × List Char) := do
  let whole := cs.takeWhile Char.isDigit
  if !wholeAllowed whole then none
  else
    let (fraction, rest) ← readFraction? (cs.dropWhile Char.isDigit)
    let (exponent, rest) ← readExponent? rest
    let (significand, taken) := absorb 0 0 whole
    let dropped := whole.length - taken
    let fits := dropped = 0 ∧ (¬ negative ∨ 0 < significand ∧ fitsSignedWord (-significand))
    if fraction.isNone && exponent.isNone && fits then
      some (.int (if negative then -(significand : Int) else significand), rest)
    else
      let (significand, places) := absorb significand 0 (fraction.getD [])
      let magnitude ← scaleByTen? significand (exponent.getD 0 + dropped - places)
      some (.float (if negative then magnitude.negate else magnitude), rest)

/-- The value of a hexadecimal digit. -/
def hexValue? (c : Char) : Option Nat :=
  if '0' ≤ c ∧ c ≤ '9' then some (c.toNat - '0'.toNat)
  else if 'a' ≤ c ∧ c ≤ 'f' then some (c.toNat - 'a'.toNat + 10)
  else if 'A' ≤ c ∧ c ≤ 'F' then some (c.toNat - 'A'.toNat + 10)
  else none

/-- The value of four hexadecimal digits. -/
def hexQuad? (a b c d : Char) : Option Nat := do
  return ((← hexValue? a) * 16 + (← hexValue? b)) * 256 + ((← hexValue? c) * 16 + (← hexValue? d))

/-- The character that a letter after a backslash stands for. -/
def escaped? : Char → Option Char
  | '"' => some '"'
  | '\\' => some '\\'
  | '/' => some '/'
  | 'b' => some (Char.ofNat 8)
  | 'f' => some (Char.ofNat 12)
  | 'n' => some '\n'
  | 'r' => some '\r'
  | 't' => some '\t'
  | _ => none

/-- The rest of a string after its opening quote, the characters read so far being given in
reverse. A pair of surrogates is one character, and a surrogate without its partner is refused,
as is a raw control character. -/
def readString? (done : List Char) : List Char → Option (String × List Char)
  | '"' :: rest => some (String.ofList done.reverse, rest)
  | '\\' :: 'u' :: a :: b :: c :: d :: '\\' :: 'u' :: e :: f :: g :: h :: rest =>
      match hexQuad? a b c d with
      | none => none
      | some high =>
          if 0xD800 ≤ high ∧ high < 0xDC00 then
            match hexQuad? e f g h with
            | none => none
            | some low =>
                if 0xDC00 ≤ low ∧ low < 0xE000 then
                  let code := 0x10000 + (high - 0xD800) * 0x400 + (low - 0xDC00)
                  readString? (Char.ofNat code :: done) rest
                else none
          else if 0xDC00 ≤ high ∧ high < 0xE000 then none
          else readString? (Char.ofNat high :: done) ('\\' :: 'u' :: e :: f :: g :: h :: rest)
  | '\\' :: 'u' :: a :: b :: c :: d :: rest =>
      match hexQuad? a b c d with
      | none => none
      | some code =>
          if 0xD800 ≤ code ∧ code < 0xE000 then none
          else readString? (Char.ofNat code :: done) rest
  | '\\' :: c :: rest =>
      match escaped? c with
      | some x => readString? (x :: done) rest
      | none => none
  | c :: rest => if c.toNat < 32 then none else readString? (c :: done) rest
  | [] => none

/-- The blanks between tokens. -/
def isSpace (c : Char) : Bool := c = ' ' || c = '\n' || c = '\t' || c = '\r'

/-- The token that starts with the given character, and what comes after it. -/
def readToken? (c : Char) (rest : List Char) : Option (Token × List Char) :=
  match c, rest with
  | '[', _ => some (beginArray, rest)
  | ']', _ => some (endArray, rest)
  | '{', _ => some (beginObject, rest)
  | '}', _ => some (endObject, rest)
  | ',', _ => some (comma, rest)
  | ':', _ => some (colon, rest)
  | '"', _ => (readString? [] rest).map fun (s, more) => (literal (.str s), more)
  | 't', 'r' :: 'u' :: 'e' :: more => some (literal (.bool true), more)
  | 'f', 'a' :: 'l' :: 's' :: 'e' :: more => some (literal (.bool false), more)
  | 'n', 'u' :: 'l' :: 'l' :: more => some (literal .null, more)
  | '-', _ => (readNumber? true rest).map fun (n, more) => (literal n, more)
  | _, _ => (readNumber? false (c :: rest)).map fun (n, more) => (literal n, more)

/-- The tokens of a text, in order. Every token takes at least one character. -/
def readAll? (cs : List Char) : Option (List Token) :=
  match cs with
  | [] => some []
  | c :: rest =>
      if isSpace c then readAll? rest
      else
        match readToken? c rest with
        | none => none
        | some (token, more) =>
            if more.length ≤ rest.length then (readAll? more).map (token :: ·) else none
termination_by cs.length

end Token

end SignalBoard.Json
