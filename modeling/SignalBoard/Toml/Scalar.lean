/-
# Values of TOML texts that hold no other values

Such a value is a string or a word. A word is a truth value, a number, or a date-time, for which
its text stands. It goes on up to a character that cannot belong to it; the one space in it may
stand between a day and a time. Integers have 64 bits, and a double that would be infinite must
say so in words.
-/

import SignalBoard.Text.Fields
import SignalBoard.Toml.DateTime
import SignalBoard.Toml.Text

namespace SignalBoard.Toml

/-- Digits of a base in which an underscore may stand between two digits, without the
underscores. -/
def plainDigits? (isDigit : Char → Bool) (cs : List Char) : Option (List Char) :=
  let parts := Text.fields '_' cs
  if parts.all fun part => !part.isEmpty && part.all isDigit then some parts.flatten else none

/-- Decimal digits that do not begin with a zero, unless it is the only one. -/
def wholeDigits? (cs : List Char) : Option (List Char) := do
  let digits ← plainDigits? Char.isDigit cs
  if Json.Token.wholeAllowed digits then some digits else none

/-- An integer, if it is one of 64 bits. -/
def bounded? (n : Int) : Option Json :=
  if fitsSignedWord n then some (.int n) else none

/-- An integer in the digits of a base. -/
def readBase? (base : Nat) (cs : List Char) : Option Json := do
  let digits ← plainDigits? (fun c => ((Json.Token.hexValue? c).any (· < base))) cs
  let values ← digits.mapM Json.Token.hexValue?
  bounded? (values.foldl (fun (n : Nat) d => base * n + d) 0 : Nat)

/-- The fraction and exponent of a number, without underscores. -/
def plainTail? (cs : List Char) : Option (List Char) := do
  let isMark (c : Char) : Bool := c = 'e' || c = 'E'
  let fraction ← match cs.takeWhile (!isMark ·) with
    | [] => some []
    | '.' :: digits => (plainDigits? Char.isDigit digits).map ('.' :: ·)
    | _ => none
  let exponent ← match cs.dropWhile (!isMark ·) with
    | [] => some []
    | _ :: '+' :: digits => (plainDigits? Char.isDigit digits).map ('e' :: ·)
    | _ :: '-' :: digits => (plainDigits? Char.isDigit digits).map ('e' :: '-' :: ·)
    | _ :: digits => (plainDigits? Char.isDigit digits).map ('e' :: ·)
  return fraction ++ exponent

/-- A decimal number after its sign. A fraction or an exponent makes it a double. -/
def readNumber? (negative : Bool) (cs : List Char) : Option Json :=
  let isPart (c : Char) : Bool := c.isDigit || c = '_'
  if cs = "inf".toList then some (.float (.infinity negative))
  else if cs = "nan".toList then some (.float .notANumber)
  else do
    let whole ← wholeDigits? (cs.takeWhile isPart)
    match cs.dropWhile isPart with
    | [] => bounded? (if negative then -(digitsValue whole : Int) else digitsValue whole)
    | tail => do
        let x ← readMagnitude? negative (whole ++ (← plainTail? tail))
        if x.isInfinite then none else some (.float x)

/-- The value that a word denotes. -/
def wordValue? (word : List Char) : Option Json :=
  if word = "true".toList then some (.bool true)
  else if word = "false".toList then some (.bool false)
  else
    match DateTime.ofWord? word, word with
    | some moment, _ => some (.str (String.ofList moment.text))
    | none, '0' :: 'x' :: digits => readBase? 16 digits
    | none, '0' :: 'o' :: digits => readBase? 8 digits
    | none, '0' :: 'b' :: digits => readBase? 2 digits
    | none, '-' :: rest => readNumber? true rest
    | none, '+' :: rest => readNumber? false rest
    | none, rest => readNumber? false rest

/-- May the character stand in a word or between two words? -/
def isWordChar (c : Char) : Bool :=
  !(['=', ',', '[', ']', '\x7b', '\x7d', '#', '\r', '\n', '"', '\x27'].contains c)

/-- The word at the start of a text, without the spaces after it. -/
def takeWord (cs : List Char) : List Char :=
  ((cs.takeWhile isWordChar).reverse.dropWhile isSpace).reverse

/-- A value that holds no other values. -/
def readScalar? : List Char → Option (Json × List Char)
  | '"' :: rest => do
      let (text, left) ← readString? ('"' :: rest)
      return (.str text, left)
  | '\x27' :: rest => do
      let (text, left) ← readString? ('\x27' :: rest)
      return (.str text, left)
  | cs => do
      let word := takeWord cs
      return (← wordValue? word, cs.drop word.length)

end SignalBoard.Toml
