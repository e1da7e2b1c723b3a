/-
# TOML documents under construction

A TOML text names tables in several ways: by a header, by a longer header that passes through
them, and by a key with points in it. Whether a table may still be named again depends on how it
was named before, so the tables of a document that is being built remember this. A value that is
complete, an inline table included, is never extended.
-/

import SignalBoard.Json.Basic

namespace SignalBoard.Toml

/-- How a table has been named so far. -/
inductive Naming where
  /-- Only by longer headers. -/
  | passed
  /-- By a key with points in it. -/
  | dotted
  /-- By a header of its own. -/
  | headed
deriving DecidableEq, Repr

/-- What a key of a document stands for. -/
inductive Node where
  | value (value : Json)
  | table (naming : Naming) (entries : List (String × Node))
  /-- An array of tables, each with a header of its own, the last one first. -/
  | tables (items : List (List (String × Node)))

/-- The keys of a table with what they stand for. -/
abbrev Entries := Table Node

/-- Changes the table at a path of headers. Tables that are missing on the way are made; an
array of tables is passed through its last one. -/
def within (change : Entries → Option Entries) : List String → Entries → Option Entries
  | [], entries => change entries
  | key :: rest, entries =>
      match entries.get? key with
      | none => do
          let inner ← within change rest []
          return entries.insert key (.table .passed inner)
      | some (.table naming inner) => do
          let inner ← within change rest inner
          return entries.insert key (.table naming inner)
      | some (.tables (last :: earlier)) => do
          let last ← within change rest last
          return entries.insert key (.tables (last :: earlier))
      | some _ => none

/-- Gives a key its value. The tables that a key with points passes through are made, unless
they are there and have no header; an array of tables is passed through its last one. The table
that gets the value may be none of an array, as `isOpen` tells, and counts from then on as one
that the key made. -/
def assignIn (isOpen : Bool) (value : Json) : List String → Entries → Option Entries
  | [], _ => none
  | [key], entries =>
      if !isOpen || entries.has key then none else some (entries.insert key (.value value))
  | key :: rest, entries =>
      match entries.get? key with
      | none => do
          let inner ← assignIn true value rest []
          return entries.insert key (.table .dotted inner)
      | some (.table naming inner) =>
          if naming = .headed then none
          else do
            let inner ← assignIn true value rest inner
            let getsValue := rest.length = 1
            return entries.insert key (.table (if getsValue then .dotted else naming) inner)
      | some (.tables (last :: earlier)) => do
          let last ← assignIn false value rest last
          return entries.insert key (.tables (last :: earlier))
      | some _ => none

/-- Gives a key of a table its value. -/
def assign (value : Json) (key : List String) (entries : Entries) : Option Entries :=
  assignIn true value key entries

/-- Gives a table its header. It may have none yet, and no key may have made it. -/
def openTable (key : String) (entries : Entries) : Option Entries :=
  match entries.get? key with
  | none => some (entries.insert key (.table .headed []))
  | some (.table .passed inner) => some (entries.insert key (.table .headed inner))
  | some _ => none

/-- Begins the next table of an array of tables. -/
def appendTable (key : String) (entries : Entries) : Option Entries :=
  match entries.get? key with
  | none => some (entries.insert key (.tables [[]]))
  | some (.tables items) => some (entries.insert key (.tables ([] :: items)))
  | some _ => none

mutual

/-- The document that a key stands for. -/
def Node.json : Node → Json
  | .value value => value
  | .table _ entries => .obj (entriesJson entries)
  | .tables items => .arr (itemsJson items).reverse

/-- The documents that the keys of a table stand for. -/
def entriesJson : List (String × Node) → List (String × Json)
  | [] => []
  | (key, node) :: rest => (key, node.json) :: entriesJson rest

/-- The documents of the tables of an array. -/
def itemsJson : List (List (String × Node)) → List Json
  | [] => []
  | entries :: rest => .obj (entriesJson entries) :: itemsJson rest

end

end SignalBoard.Toml
