/-
# Reading TOML texts

A TOML text is a sequence of statements: a header begins a table, a header in two pairs of
brackets the next table of an array, and an assignment gives a key of the table begun last its
value. The statements of a text are read first; then a document is built from them.
-/

import SignalBoard.Text.Mark
import SignalBoard.Toml.Scalar
import SignalBoard.Toml.Tree

namespace SignalBoard.Toml

/-- The largest number of arrays and inline tables that may stand inside each other. -/
def depthLimit : Nat := 80

mutual

/-- A value with at most `depth` levels of arrays and inline tables. Each step into a value and
from one item to the next costs one of `limit`. -/
def readValue? : Nat → Nat → List Char → Option (Json × List Char)
  | 0, _, _ => none
  | limit + 1, depth, '[' :: rest => do
      guard (0 < depth)
      let (items, left) ← readItems? limit (depth - 1) (← skipLines? limit rest)
      return (.arr items, left)
  | limit + 1, depth, '\x7b' :: rest => do
      guard (0 < depth)
      let (entries, left) ← readFields? limit (depth - 1) [] (← skipLines? limit rest)
      return (.obj (entriesJson entries), left)
  | _ + 1, _, cs => readScalar? cs

/-- The items of an array, up to its closing bracket. A comma may stand after the last one. -/
def readItems? : Nat → Nat → List Char → Option (List Json × List Char)
  | 0, _, _ => none
  | _ + 1, _, ']' :: left => some ([], left)
  | limit + 1, depth, cs => do
      let (item, rest) ← readValue? limit depth cs
      match ← skipLines? limit rest with
      | ',' :: more =>
          let (items, left) ← readItems? limit depth (← skipLines? limit more)
          return (item :: items, left)
      | ']' :: left => return ([item], left)
      | _ => none

/-- The fields of an inline table, up to its closing brace, after those that were read. A comma
may stand after the last one, and a key stands on one line. -/
def readFields? : Nat → Nat → Entries → List Char → Option (Entries × List Char)
  | 0, _, _, _ => none
  | _ + 1, _, entries, '\x7d' :: left => some (entries, left)
  | limit + 1, depth, entries, cs => do
      let (key, rest) ← readKey? cs
      let rest ← skipLines? limit (← after? '=' (← skipLines? limit rest))
      let (value, rest) ← readValue? limit depth rest
      let entries ← assign value key entries
      match ← skipLines? limit rest with
      | ',' :: more => readFields? limit depth entries (← skipLines? limit more)
      | '\x7d' :: left => return (entries, left)
      | _ => none

end

/-- A statement of a text. -/
inductive Statement where
  /-- Begins the table with the key. -/
  | header (key : List String)
  /-- Begins the next table of the array with the key. -/
  | item (key : List String)
  /-- Gives a key of the table begun last its value. -/
  | assignment (key : List String) (value : Json)

/-- A statement at the start of a line. No value needs more than `limit` steps. -/
def readStatement? (limit : Nat) : List Char → Option (Statement × List Char)
  | '[' :: '[' :: rest => do
      let (key, rest) ← readKey? rest
      let left ← after? ']' (← after? ']' rest)
      return (.item key, left)
  | '[' :: rest => do
      let (key, rest) ← readKey? rest
      return (.header key, ← after? ']' rest)
  | cs => do
      let (key, rest) ← readKey? cs
      let (value, left) ← readValue? limit depthLimit (skipSpaces (← after? '=' rest))
      return (.assignment key value, left)

/-- The statements of a text, each on lines of its own. -/
def readStatements? : Nat → List Char → Option (List Statement)
  | 0, _ => none
  | limit + 1, cs => do
      match ← skipLines? (limit + 1) cs with
      | [] => return []
      | cs =>
          let (statement, rest) ← readStatement? (limit + 1) cs
          let statements ← readStatements? limit (← afterLine? rest)
          return statement :: statements

/-- A document with the path of the table begun last. -/
abbrev Draft := Entries × List String

/-- Carries a statement out. -/
def Draft.extend? (draft : Draft) (statement : Statement) : Option Draft := do
  let (entries, path) := draft
  match statement with
  | .header key => return (← within (openTable (key.getLastD "")) key.dropLast entries, key)
  | .item key => return (← within (appendTable (key.getLastD "")) key.dropLast entries, key)
  | .assignment key value => return (← within (assign value key) path entries, path)

/-- The fields of the document that a text denotes. A byte order mark in front does not count. -/
def read? (text : String) : Option Json.Fields := do
  let cs := Text.afterMark text.toList
  let statements ← readStatements? (cs.length + 1) cs
  let (entries, _) ← statements.foldlM Draft.extend? ([], [])
  return entriesJson entries

end SignalBoard.Toml
