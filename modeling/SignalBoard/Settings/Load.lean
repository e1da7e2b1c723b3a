/-
# Loading settings

Settings are taken from defaults, a file and the environment, each winning over the one before.
The defaults lie under what the file and the environment say together.
A file is named by the user, and must then exist, or looked for at a fixed place. Its format is
told by the end of its name. A value of the environment that reads as a truth value or a number
is one; wherever a text is wanted it is written out again, and a text is read where a count is
wanted.
-/

import SignalBoard.Json.Reader
import SignalBoard.Settings.Basic
import SignalBoard.Settings.Layers
import SignalBoard.Toml.Reader

namespace SignalBoard.Settings

/-- A character in lower case. Of the characters outside ASCII only the Kelvin sign has an ASCII
letter for its lower case, and keys and words that mean something here are ASCII. -/
def lowerChar (c : Char) : Char := if c.toNat = 0x212A then 'k' else c.toLower

/-- A text in lower case. -/
def lower (s : String) : String := s.map lowerChar

/-- A signed run of digits that is an integer of 64 bits. -/
def integer? (s : String) : Option Int := do
  let n ← readSignedDigits? s.toList
  if fitsSignedWord n then some n else none

/-- The value of a variable of the environment. -/
def variableValue (s : String) : Json :=
  if lower s = "true" then .bool true
  else if lower s = "false" then .bool false
  else
    match integer? s, Binary64.ofText? s with
    | some n, _ => .int n
    | none, some x => .float x
    | none, none => .str s

/-- Two underscores in a row become a point. -/
def pointed : List Char → List Char
  | '_' :: '_' :: rest => '.' :: pointed rest
  | c :: rest => c :: pointed rest
  | [] => []

/-- The key that a variable of the environment sets, if it sets one. Case does not matter. -/
def variableKey? (name : String) : Option String :=
  let mark := "signalfx_".toList
  let cs := (lower name).toList
  if mark.isPrefixOf cs then some (String.ofList (pointed (cs.drop mark.length))) else none

/-- The layer that the environment is. -/
def ofEnvironment (environment : List (String × String)) : List (String × Json) :=
  environment.filterMap fun (name, value) =>
    (variableKey? name).map fun key => (key, variableValue value)

/-- The layer of defaults. -/
def defaults : List (String × Json) :=
  let settings : Settings := {}
  [("api.base_url", .str settings.baseUrl), ("api.token", .str settings.token),
    ("api.timeout_secs", .ofNat settings.timeoutSeconds)]

/-- What follows the last point of the last part of a path. A point that begins that part does
not count. -/
def extension? (path : String) : Option String :=
  match (Text.fields '.' ((Text.fields '/' path.toList).getLastD [])).reverse with
  | [] | [_] | [_, []] => none
  | last :: _ => some (String.ofList last)

/-- The layer that the text of a file denotes in the format that the path tells. A byte order
mark in front of the text does not count. -/
def ofFile? (path text : String) : Option (List (String × Json)) :=
  let text := Text.withoutMark text
  match extension? path with
  | some "json" =>
      match Json.read? text with
      | some (.obj fields) => some fields
      | _ => none
  | some "toml" => Toml.read? text
  | _ => none

/-- The places where a file is looked for when none is named. -/
def usualPlaces : List String := ["config/signalfx.toml", "config/signalfx.json"]

/-- The layer of the file that was named, or of the one at the usual place. -/
def fileLayer? (files : String → Option String) (named : Option String) :
    Option (List (String × Json)) :=
  match named with
  | some path => (files path).bind (ofFile? path)
  | none =>
      match usualPlaces.find? fun path => (files path).isSome with
      | some path => (files path).bind (ofFile? path)
      | none => some []

/-- A value where a text is wanted. -/
def text? : Json → Option String
  | .str s => some s
  | .bool b => some (if b then "true" else "false")
  | .int n => some (String.ofList (intText n))
  | .float x => some (String.ofList (x.render .flow))
  | _ => none

/-- A text where a count is wanted. -/
def countOfText? (s : String) : Option Nat :=
  if lower s ∈ ["true", "on", "yes"] then some 1
  else if lower s ∈ ["false", "off", "no"] then some 0
  else
    let digits := match s.toList with
      | '+' :: rest => rest
      | rest => rest
    let n := digitsValue digits
    if !digits.isEmpty && digits.all Char.isDigit && fitsWord n then some n else none

/-- A value where a count is wanted. A double is rounded and brought into the range of 64
bits. -/
def count? : Json → Option Nat
  | .str s => countOfText? s
  | .bool b => some (if b then 1 else 0)
  | .int n => if 0 ≤ n then some n.toNat else none
  | .float x => some (if x.isNaN then 0 else min x.round.toNat largestWord)
  | _ => none

/-- The settings that a table gives by name, or an array in the order of the address, the token
and the time limit. In a table the token may be missing, and what is there besides does not
count. -/
def ofValue? : Json → Option Settings
  | .obj fields => do
      let token ← match Table.get? "token" fields with
        | some token => text? token
        | none => some ""
      return {
        baseUrl := ← text? (← Table.get? "base_url" fields)
        token
        timeoutSeconds := ← count? (← Table.get? "timeout_secs" fields) }
  | .arr (baseUrl :: token :: timeoutSeconds :: _) => do
      return {
        baseUrl := ← text? baseUrl
        token := ← text? token
        timeoutSeconds := ← count? timeoutSeconds }
  | _ => none

/-- The settings of the program. The file and the environment become one layer before they are
laid over the defaults, so a default that the file alone would have replaced by a value of
another shape is back where the environment replaces that value in turn. -/
def load (files : String → Option String) (environment : List (String × String))
    (named : Option String) : Except Fault Settings :=
  let settings := do
    let file ← fileLayer? files named
    let root := layAll (together [file, ofEnvironment environment]) (.obj (together [defaults]))
    ofValue? (← root.get? "api")
  match settings with
  | some settings => .ok settings
  | none => .error .settings

end SignalBoard.Settings
