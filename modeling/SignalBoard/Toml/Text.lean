/-
# Strings and keys of TOML texts

Strings come in four forms: in double quotes or in single ones, on one line or, in three quotes
each, on several. Only in double quotes a backslash begins an escape. Line breaks in a string
stay as they are, but for one right after the opening quotes. A key is a sequence of parts, each
a bare word or a string on one line.
-/

import SignalBoard.Json.Token
import SignalBoard.Toml.Line

namespace SignalBoard.Toml

/-- The character that a letter after a backslash stands for. -/
def escaped? : Char → Option Char
  | '"' => some '"'
  | '\\' => some '\\'
  | 'b' => some (Char.ofNat 8)
  | 'e' => some (Char.ofNat 27)
  | 'f' => some (Char.ofNat 12)
  | 'n' => some '\n'
  | 'r' => some '\r'
  | 't' => some '\t'
  | _ => none

/-- The character whose code point is given in hexadecimal digits. -/
def codePoint? (digits : List Char) : Option Char := do
  let values ← digits.mapM Json.Token.hexValue?
  let code := values.foldl (fun n d => 16 * n + d) 0
  if code.isValidChar then some (Char.ofNat code) else none

/-- The rest of a string in double quotes, what was read of it being given in reverse. -/
def readQuoted? (done : List Char) : List Char → Option (String × List Char)
  | '"' :: rest => some (String.ofList done.reverse, rest)
  | '\\' :: 'x' :: a :: b :: rest => do
      readQuoted? ((← codePoint? [a, b]) :: done) rest
  | '\\' :: 'u' :: a :: b :: c :: d :: rest => do
      readQuoted? ((← codePoint? [a, b, c, d]) :: done) rest
  | '\\' :: 'U' :: a :: b :: c :: d :: e :: f :: g :: h :: rest => do
      readQuoted? ((← codePoint? [a, b, c, d, e, f, g, h]) :: done) rest
  | '\\' :: c :: rest => do readQuoted? ((← escaped? c) :: done) rest
  | c :: rest => if standsOnLine c then readQuoted? (c :: done) rest else none
  | [] => none

/-- The rest of a string in three double quotes. After a backslash at the end of a line, all
spaces and line breaks up to the next character are left out. Up to two quotes may stand right
before the closing ones. -/
def readLongQuoted? (skipping : Bool) (done : List Char) :
    List Char → Option (String × List Char)
  | '"' :: '"' :: '"' :: '"' :: '"' :: rest =>
      some (String.ofList ('"' :: '"' :: done).reverse, rest)
  | '"' :: '"' :: '"' :: '"' :: rest => some (String.ofList ('"' :: done).reverse, rest)
  | '"' :: '"' :: '"' :: rest => some (String.ofList done.reverse, rest)
  | '\\' :: 'x' :: a :: b :: rest => do
      readLongQuoted? false ((← codePoint? [a, b]) :: done) rest
  | '\\' :: 'u' :: a :: b :: c :: d :: rest => do
      readLongQuoted? false ((← codePoint? [a, b, c, d]) :: done) rest
  | '\\' :: 'U' :: a :: b :: c :: d :: e :: f :: g :: h :: rest => do
      readLongQuoted? false ((← codePoint? [a, b, c, d, e, f, g, h]) :: done) rest
  | '\\' :: c :: rest =>
      if (afterBreak? (skipSpaces (c :: rest))).isSome then readLongQuoted? true done rest
      else do readLongQuoted? false ((← escaped? c) :: done) rest
  | '\r' :: '\n' :: rest =>
      readLongQuoted? skipping (if skipping then done else '\n' :: '\r' :: done) rest
  | c :: rest =>
      if skipping && (isSpace c || c = '\n') then readLongQuoted? true done rest
      else if standsOnLine c || c = '\n' then readLongQuoted? false (c :: done) rest
      else none
  | [] => none

/-- The rest of a string in single quotes, in which nothing is escaped. -/
def readLiteral? (done : List Char) : List Char → Option (String × List Char)
  | '\x27' :: rest => some (String.ofList done.reverse, rest)
  | c :: rest => if standsOnLine c then readLiteral? (c :: done) rest else none
  | [] => none

/-- The rest of a string in three single quotes. -/
def readLongLiteral? (done : List Char) : List Char → Option (String × List Char)
  | '\x27' :: '\x27' :: '\x27' :: '\x27' :: '\x27' :: rest =>
      some (String.ofList ('\x27' :: '\x27' :: done).reverse, rest)
  | '\x27' :: '\x27' :: '\x27' :: '\x27' :: rest =>
      some (String.ofList ('\x27' :: done).reverse, rest)
  | '\x27' :: '\x27' :: '\x27' :: rest => some (String.ofList done.reverse, rest)
  | '\r' :: '\n' :: rest => readLongLiteral? ('\n' :: '\r' :: done) rest
  | c :: rest => if standsOnLine c || c = '\n' then readLongLiteral? (c :: done) rest else none
  | [] => none

/-- The text without a line break right in front. -/
def skipBreak (cs : List Char) : List Char := (afterBreak? cs).getD cs

/-- A string in any of its four forms. -/
def readString? : List Char → Option (String × List Char)
  | '"' :: '"' :: '"' :: rest => readLongQuoted? false [] (skipBreak rest)
  | '"' :: rest => readQuoted? [] rest
  | '\x27' :: '\x27' :: '\x27' :: rest => readLongLiteral? [] (skipBreak rest)
  | '\x27' :: rest => readLiteral? [] rest
  | _ => none

/-- May the character stand in a key without quotes? -/
def isBare (c : Char) : Bool := c.isAlpha || c.isDigit || c = '_' || c = '-'

/-- One part of a key. -/
def readKeyPart? : List Char → Option (String × List Char)
  | '"' :: rest => readQuoted? [] rest
  | '\x27' :: rest => readLiteral? [] rest
  | cs =>
      let part := cs.takeWhile isBare
      if part.isEmpty then none else some (String.ofList part, cs.dropWhile isBare)

/-- The largest number of parts of a key. -/
def keyLimit : Nat := 80

/-- A key of at most `limit` parts with points between them. -/
def readKeyParts? : Nat → List Char → Option (List String × List Char)
  | 0, _ => none
  | limit + 1, cs => do
      let (part, rest) ← readKeyPart? (skipSpaces cs)
      match skipSpaces rest with
      | '.' :: more => do
          let (parts, left) ← readKeyParts? limit more
          return (part :: parts, left)
      | left => return ([part], left)

/-- A key with what comes after it. -/
def readKey? (cs : List Char) : Option (List String × List Char) := readKeyParts? keyLimit cs

end SignalBoard.Toml
