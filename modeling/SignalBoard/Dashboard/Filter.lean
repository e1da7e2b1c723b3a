/-
# Filters of dashboards

A dashboard may narrow what its charts show by saved variables, by conditions on properties and
by a span of time. Each part is built by settings made one after the other, and a part is taken
up only when it is complete: a variable needs an alias and a property, a condition a property
and values, a span either two instants in order or an offset back from now.
-/

import SignalBoard.Invalid
import SignalBoard.Json.Basic

namespace SignalBoard

/-- A saved filter that is offered on a dashboard. -/
structure FilterVariable where
  /-- The alias: the name under which the filter is offered. -/
  shownAs : Option String := none
  property : Option String := none
  applyIfExists : Option Bool := none
  description : Option String := none
  suggestions : Option (List String) := none
  replaceOnly : Option Bool := none
  required : Option Bool := none
  restricted : Option Bool := none
  value : Option (List String) := none
deriving DecidableEq

namespace FilterVariable

/-- A setting of a saved filter. -/
inductive Setting where
  | shownAs (text : String)
  | property (text : String)
  | applyIfExists (value : Bool)
  | description (text : String)
  | suggestions (texts : List String)
  | replaceOnly (value : Bool)
  | required (value : Bool)
  | restricted (value : Bool)
  | value (texts : List String)
deriving DecidableEq

/-- Makes a setting. Alias and property must not be blank. -/
def set (saved : FilterVariable) : Setting → Checked FilterVariable
  | .shownAs text => do
      requireFilled text "alias"
      return { saved with shownAs := some text }
  | .property text => do
      requireFilled text "property"
      return { saved with property := some text }
  | .applyIfExists value => .ok { saved with applyIfExists := some value }
  | .description text => .ok { saved with description := some text }
  | .suggestions texts => .ok { saved with suggestions := some texts }
  | .replaceOnly value => .ok { saved with replaceOnly := some value }
  | .required value => .ok { saved with required := some value }
  | .restricted value => .ok { saved with restricted := some value }
  | .value texts => .ok { saved with value := some texts }

/-- The variable that settings make of an empty one. -/
def build (settings : List Setting) : Checked FilterVariable := settings.foldlM set {}

/-- A variable is complete with an alias and a property. -/
def check (saved : FilterVariable) : Checked Unit :=
  match saved.shownAs, saved.property with
  | none, none => .error (.missing "alias" ["property"])
  | none, some _ => .error (.missing "alias" [])
  | some _, none => .error (.missing "property" [])
  | some _, some _ => .ok ()

/-- The document of a saved filter. -/
def document (saved : FilterVariable) : Json := .record
  [("alias", Json.ofString? saved.shownAs), ("property", Json.ofString? saved.property),
    ("applyIfExists", saved.applyIfExists.map .bool),
    ("description", Json.ofString? saved.description),
    ("preferredSuggestions", saved.suggestions.map Json.ofStrings),
    ("replaceOnly", saved.replaceOnly.map .bool),
    ("required", saved.required.map .bool), ("restricted", saved.restricted.map .bool),
    ("value", saved.value.map Json.ofStrings)]

end FilterVariable

/-- A condition on a property that all charts of a dashboard obey. -/
structure FilterSource where
  property : Option String := none
  value : Option (List String) := none
  /-- Is what matches left out rather than kept? -/
  excludes : Option Bool := none
deriving DecidableEq

namespace FilterSource

/-- A setting of a condition. -/
inductive Setting where
  | property (text : String)
  | value (texts : List String)
  | excludes (value : Bool)
deriving DecidableEq

/-- Makes a setting. The property must not be blank, and there must be values, none of them
blank. -/
def set (source : FilterSource) : Setting → Checked FilterSource
  | .property text => do
      requireFilled text "property"
      return { source with property := some text }
  | .value texts => do
      require (!texts.isEmpty && !texts.any Text.blank) (.blankItems "value")
      return { source with value := some texts }
  | .excludes value => .ok { source with excludes := some value }

/-- The condition that settings make of an empty one. -/
def build (settings : List Setting) : Checked FilterSource := settings.foldlM set {}

/-- A condition is complete with a property and values. -/
def check (source : FilterSource) : Checked Unit :=
  match source.property, source.value with
  | none, none => .error (.missing "property" ["value"])
  | none, some _ => .error (.missing "property" [])
  | some _, none => .error (.missing "value" [])
  | some _, some _ => .ok ()

/-- The document of a condition. -/
def document (source : FilterSource) : Json := .record
  [("property", Json.ofString? source.property), ("value", source.value.map Json.ofStrings),
    ("NOT", source.excludes.map .bool)]

end FilterSource

/-- An end of a span of time. -/
inductive FilterInstant where
  /-- Milliseconds since the epoch. -/
  | millis (value : Int)
  /-- A word relative to now. -/
  | relative (text : String)
deriving DecidableEq

/-- The document of an end of a span. -/
def FilterInstant.document : FilterInstant → Json
  | millis value => .int value
  | relative text => .str text

/-- A span of time. -/
structure FilterTime where
  start : Option FilterInstant := none
  stop : Option FilterInstant := none
deriving DecidableEq

/-- Is the character a unit of time: minute, hour, day or week? -/
def isTimeUnit (c : Char) : Bool := c = 'm' || c = 'h' || c = 'd' || c = 'w'

/-- An offset back from now is a minus sign, digits, and a unit. -/
def checkOffset (start : String) : Checked Unit :=
  match start.toList with
  | '-' :: rest =>
      match rest.getLast? with
      | none => .error (.offsetUnit start)
      | some unit => do
          require (isTimeUnit unit) (.offsetUnit start)
          let amount := rest.dropLast
          require (!amount.isEmpty && amount.all Char.isDigit)
            (.offsetAmount (String.ofList amount))
  | _ => .error .offsetSign

namespace FilterTime

/-- A setting of a span. -/
inductive Setting where
  | start (instant : FilterInstant)
  | stop (instant : FilterInstant)
deriving DecidableEq

/-- Makes a setting. -/
def set (time : FilterTime) : Setting → FilterTime
  | .start instant => { time with start := some instant }
  | .stop instant => { time with stop := some instant }

/-- The span that settings make of an empty one. -/
def build (settings : List Setting) : FilterTime := settings.foldl set {}

/-- A span is two instants in order, or an offset and the word `Now`. -/
def check (time : FilterTime) : Checked Unit :=
  match time.start, time.stop with
  | none, none => .error .noTimes
  | some _, none => .error .noEndTime
  | none, some _ => .error .noStartTime
  | some (.millis start), some (.millis stop) => do
      require (0 ≤ start && 0 ≤ stop) .negativeTime
      require (start ≤ stop) .timesReversed
  | some (.relative start), some (.relative stop) => do
      checkOffset start
      require (stop = "Now") (.endNotNow stop)
  | some _, some _ => .error .mixedTimes

/-- The document of a span. -/
def document (time : FilterTime) : Json := .record
  [("start", time.start.map FilterInstant.document), ("end", time.stop.map FilterInstant.document)]

end FilterTime

/-- The filters of a dashboard. -/
structure DashboardFilters where
  /-- The variables that may be chosen. -/
  saved : Option (List FilterVariable) := none
  sources : Option (List FilterSource) := none
  time : Option FilterTime := none
deriving DecidableEq

namespace DashboardFilters

/-- A setting of the filters. -/
inductive Setting where
  | saved (filters : List FilterVariable)
  | sources (sources : List FilterSource)
  | time (time : FilterTime)
deriving DecidableEq

/-- Makes a setting, all parts of which must be complete. -/
def set (filters : DashboardFilters) : Setting → Checked DashboardFilters
  | .saved saved => do
      saved.forM FilterVariable.check
      return { filters with saved := some saved }
  | .sources sources => do
      sources.forM FilterSource.check
      return { filters with sources := some sources }
  | .time time => do
      time.check
      return { filters with time := some time }

/-- The filters that settings make of empty ones. -/
def build (settings : List Setting) : Checked DashboardFilters := settings.foldlM set {}

/-- The document of the filters. -/
def document (filters : DashboardFilters) : Json := .record
  [("variables", filters.saved.map fun saved =>
      .arr (saved.map FilterVariable.document)),
    ("sources", filters.sources.map fun sources => .arr (sources.map FilterSource.document)),
    ("time", filters.time.map FilterTime.document)]

end DashboardFilters

end SignalBoard
