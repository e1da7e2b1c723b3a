/-
# Addresses and targets

An address names a service and what is wanted of it. The service is told the target only: the
path and the query, in the characters that a request line may hold. Segments of the path that
stand for the same or the parent directory are resolved first, and a fragment is never sent.
Line breaks and tabs do not count, and neither do blanks at the ends.
-/

import SignalBoard.Text.Fields
import SignalBoard.Text.Percent

namespace SignalBoard.Http

/-- The characters before the first one of a class, and those from it on. -/
def cutAt (stop : Char → Bool) (cs : List Char) : List Char × List Char :=
  (cs.takeWhile fun c => !stop c, cs.dropWhile fun c => !stop c)

/-- An address with its parts told apart. -/
structure Address where
  /-- The scheme and the authority, up to the slash that begins the path. -/
  origin : List Char
  path : List Char
  /-- The query without its question mark. -/
  query? : Option (List Char)
deriving DecidableEq, Repr

/-- A slash in either direction. -/
def isSlash (c : Char) : Bool := c = '/' || c = '\\'

/-- The characters of an address that count. -/
def counted (cs : List Char) : List Char :=
  let isBlank (c : Char) : Bool := c.toNat ≤ 0x20
  let trimmed := ((cs.dropWhile isBlank).reverse.dropWhile isBlank).reverse
  trimmed.filter fun c => !(['\t', '\n', '\r'].contains c)

/-- What follows the scheme of an address and its slashes, and the scheme itself. -/
def splitScheme? (cs : List Char) : Option (List Char × List Char) :=
  match cutAt (· == ':') cs with
  | (scheme, ':' :: rest) =>
      if (String.ofList scheme).toLower ∈ ["http", "https"] then
        some (scheme ++ "://".toList, rest.dropWhile isSlash)
      else none
  | _ => none

/-- Tells the parts of an address apart. An address names a scheme and a service. -/
def Address.ofText? (text : String) : Option Address := do
  let (scheme, rest) ← splitScheme? (counted text.toList)
  let (authority, rest) := cutAt (fun c => isSlash c || c = '?' || c = '#') rest
  if authority.isEmpty then none
  else
    let (rest, _) := cutAt (· == '#') rest
    match cutAt (· == '?') rest with
    | (path, _ :: query) => some ⟨scheme ++ authority, path, some query⟩
    | (path, []) => some ⟨scheme ++ authority, path, none⟩

/-- The address with the fields of a form behind its query. A query that is empty then is left
out. -/
def Address.withForm (pairs : List (String × String)) (address : Address) : Address :=
  let parts := [address.query?.getD [], (Text.formQuery pairs).toList]
  match parts.filter (!·.isEmpty) with
  | [] => { address with query? := none }
  | parts => { address with query? := some (['&'].intercalate parts) }

/-- A segment with an escaped point written as a point. -/
def plainPoints : List Char → List Char
  | '%' :: '2' :: c :: rest =>
      if c = 'e' ∨ c = 'E' then '.' :: plainPoints rest else '%' :: '2' :: c :: plainPoints rest
  | c :: rest => c :: plainPoints rest
  | [] => []

/-- Resolves the segments that stand for a directory. The segments before are given in reverse.
At the end of a path such a segment leaves an empty one behind. -/
def resolve (before : List (List Char)) : List (List Char) → List (List Char)
  | [] => before.reverse
  | segment :: rest =>
      let isLast := rest.isEmpty
      let leave (kept : List (List Char)) := if isLast then [] :: kept else kept
      if plainPoints segment = ['.', '.'] then resolve (leave (before.drop 1)) rest
      else if plainPoints segment = ['.'] then resolve (leave before) rest
      else resolve (segment :: before) rest

/-- The segments of a path. A backslash separates them like a slash. -/
def segments (path : List Char) : List (List Char) :=
  Text.fields '/' ((path.map fun c => if isSlash c then '/' else c).drop 1)

/-- The target of a request for what an address names. -/
def Address.target (address : Address) : String :=
  let path := (resolve [] (segments address.path)).flatMap fun segment =>
    '/' :: Text.percentEncode Text.keptInPath segment
  let query := match address.query? with
    | some query => '?' :: Text.percentEncode Text.keptInQuery query
    | none => []
  String.ofList (path ++ query)

end SignalBoard.Http
