/-
# Texts of JSON documents

A document has a compact text without blanks and a spread text with one item a line, indented
by two blanks a level. In both, a character stands for itself unless it is a quote, a backslash
or a control character below the blank.
-/

import SignalBoard.Json.Basic

namespace SignalBoard.Json

/-- Two hexadecimal digits of a number below 256. -/
def hexPair (n : Nat) : List Char :=
  [Nat.digitChar (n / 16), Nat.digitChar (n % 16)]

/-- How one character stands inside a string of a document. -/
def escapeChar (c : Char) : List Char :=
  if c = '"' then ['\\', '"']
  else if c = '\\' then ['\\', '\\']
  else if c = '\n' then ['\\', 'n']
  else if c = '\r' then ['\\', 'r']
  else if c = '\t' then ['\\', 't']
  else if c.toNat = 8 then ['\\', 'b']
  else if c.toNat = 12 then ['\\', 'f']
  else if c.toNat < 32 then ['\\', 'u', '0', '0'] ++ hexPair c.toNat
  else [c]

/-- A string of a document. -/
def stringChars (s : String) : List Char :=
  '"' :: s.toList.flatMap escapeChar ++ ['"']

/-- A double; what is no finite number has no text of its own and is written as `null`. -/
def floatChars (x : Binary64) : List Char :=
  if x.isFinite then x.render .document else "null".toList

mutual

/-- The compact text of a document. -/
def chars : Json → List Char
  | null => "null".toList
  | bool true => "true".toList
  | bool false => "false".toList
  | int n => intText n
  | float x => floatChars x
  | str s => stringChars s
  | arr items => '[' :: itemChars items ++ [']']
  | obj fields => '{' :: fieldChars fields ++ ['}']

/-- The items of an array with commas between them. -/
def itemChars : List Json → List Char
  | [] => []
  | [item] => chars item
  | item :: rest => chars item ++ ',' :: itemChars rest

/-- The fields of an object with commas between them. -/
def fieldChars : List (String × Json) → List Char
  | [] => []
  | [(key, value)] => stringChars key ++ ':' :: chars value
  | (key, value) :: rest => stringChars key ++ ':' :: chars value ++ ',' :: fieldChars rest

end

/-- The compact text of a document. -/
def compact (doc : Json) : String := String.ofList doc.chars

/-- A new line at a level of indentation. -/
def newLine (level : Nat) : List Char := '\n' :: List.replicate (2 * level) ' '

mutual

/-- The spread text of a document at a level of indentation. Empty arrays and objects stay on
one line. -/
def spreadChars (level : Nat) : Json → List Char
  | arr [] => ['[', ']']
  | arr items => '[' :: spreadItems (level + 1) items ++ newLine level ++ [']']
  | obj [] => ['{', '}']
  | obj fields => '{' :: spreadFields (level + 1) fields ++ newLine level ++ ['}']
  | other => chars other

/-- The items of an array, one a line. -/
def spreadItems (level : Nat) : List Json → List Char
  | [] => []
  | [item] => newLine level ++ spreadChars level item
  | item :: rest => newLine level ++ spreadChars level item ++ ',' :: spreadItems level rest

/-- The fields of an object, one a line. -/
def spreadFields (level : Nat) : List (String × Json) → List Char
  | [] => []
  | [(key, value)] => newLine level ++ stringChars key ++ ':' :: ' ' :: spreadChars level value
  | (key, value) :: rest =>
      newLine level ++ stringChars key ++ ':' :: ' ' :: spreadChars level value ++
        ',' :: spreadFields level rest

end

/-- The spread text of a document. -/
def spread (doc : Json) : String := String.ofList (doc.spreadChars 0)

end SignalBoard.Json
