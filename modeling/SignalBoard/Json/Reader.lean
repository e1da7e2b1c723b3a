/-
# Reading JSON texts

The reader goes once over the tokens and keeps a stack of the arrays and objects that are still
open. A text that nests more than 127 of them is refused. The tree it builds has the fields of
every object as they were written; the canonical form of that tree is the document read.
-/

import SignalBoard.Json.Token

namespace SignalBoard.Json

/-- An array or object that is still open. -/
inductive Frame where
  /-- An array with its items so far, the last one first. -/
  | array (items : List Json)
  /-- An object with its fields so far, the last one first. -/
  | object (fields : Fields)
  /-- An object in which the value of a key is being read. -/
  | member (fields : Fields) (key : String)

/-- What may come next. -/
inductive Phase where
  /-- A value. -/
  | value
  /-- A value, or the end of an array that has just begun. -/
  | firstItem
  /-- A key, or the end of an object that has just begun. -/
  | firstKey
  /-- A key. -/
  | key
  /-- The colon after a key. -/
  | colon
  /-- The given value is complete: a comma, the end of what contains it, or of the text. -/
  | complete (value : Json)

/-- The largest number of arrays and objects that may be open at once. -/
def depthLimit : Nat := 127

/-- Begins a value with its first token. -/
def beginValue (stack : List Frame) : Token → Option (List Frame × Phase)
  | .literal value => some (stack, .complete value)
  | .beginArray =>
      if stack.length < depthLimit then some (.array [] :: stack, .firstItem) else none
  | .beginObject =>
      if stack.length < depthLimit then some (.object [] :: stack, .firstKey) else none
  | _ => none

/-- Goes on after one more token. -/
def advance : List Frame × Phase → Token → Option (List Frame × Phase)
  | (stack, .value), token => beginValue stack token
  | (.array [] :: stack, .firstItem), .endArray => some (stack, .complete (.arr []))
  | (stack, .firstItem), token => beginValue stack token
  | (.object [] :: stack, .firstKey), .endObject => some (stack, .complete (.obj []))
  | (.object fields :: stack, .firstKey), .literal (.str key) =>
      some (.member fields key :: stack, .colon)
  | (.object fields :: stack, .key), .literal (.str key) =>
      some (.member fields key :: stack, .colon)
  | (stack, .colon), .colon => some (stack, .value)
  | (.array items :: stack, .complete value), .comma =>
      some (.array (value :: items) :: stack, .value)
  | (.array items :: stack, .complete value), .endArray =>
      some (stack, .complete (.arr (value :: items).reverse))
  | (.member fields key :: stack, .complete value), .comma =>
      some (.object ((key, value) :: fields) :: stack, .key)
  | (.member fields key :: stack, .complete value), .endObject =>
      some (stack, .complete (.obj ((key, value) :: fields).reverse))
  | _, _ => none

/-- The tree that a text denotes, with the fields of every object as they were written. -/
def readTree? (text : String) : Option Json := do
  let tokens ← Token.readAll? text.toList
  match ← tokens.foldlM advance ([], .value) with
  | ([], .complete value) => some value
  | _ => none

/-- The document that a text denotes. -/
def read? (text : String) : Option Json :=
  (readTree? text).map canonical

end SignalBoard.Json
