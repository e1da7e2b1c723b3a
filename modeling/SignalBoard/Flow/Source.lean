/-
# Sources of streams

The functions of the flow language that yield a stream or a predicate, each with the arguments
it may be given. An argument that is not given is not written, so the service's own default
applies.
-/

import SignalBoard.Flow.Expr

namespace SignalBoard.Flow

/-- How the values of a metric within one interval become one value. -/
inductive Rollup where
  | average | count | delta | lag | latest | max | min | rate | sum
deriving DecidableEq, Repr

/-- The word for a rollup. -/
def Rollup.word : Rollup → String
  | average => "average"
  | count => "count"
  | delta => "delta"
  | lag => "lag"
  | latest => "latest"
  | max => "max"
  | min => "min"
  | rate => "rate"
  | sum => "sum"

/-- How gaps in a metric are filled. -/
inductive Extrapolation where
  | null | zero | lastValue
deriving DecidableEq, Repr

/-- The word for an extrapolation. -/
def Extrapolation.word : Extrapolation → String
  | null => "null"
  | zero => "zero"
  | lastValue => "last_value"

/-- The time series of a metric. -/
structure Metric where
  name : String
  filter : Option Expr := none
  rollup : Option Rollup := none
  extrapolation : Option Extrapolation := none
  maxExtrapolations : Option Int := none

/-- The call of a function on a metric with the arguments that are given. -/
def Metric.call (metric : Metric) (function : String) : Call :=
  (Call.named function).pass (.str metric.name)
    |>.passAs? "filter" metric.filter
    |>.passAs? "rollup" (metric.rollup.map fun rollup => .str rollup.word)
    |>.passAs? "extrapolation" (metric.extrapolation.map fun kind => .str kind.word)
    |>.passAs? "maxExtrapolations" (metric.maxExtrapolations.map .int)

/-- The data of a metric, at a resolution if one is given. -/
def Metric.data (metric : Metric) (resolution : Option String) : Stream :=
  .ofCall ((metric.call "data").passAs? "resolution" (resolution.map .str))

/-- The data of a metric whose name is a path, with names for some places of the path. -/
def Metric.path (metric : Metric) (function : String) (nodes : List (String × Nat)) : Stream :=
  .ofCall (nodes.foldl (fun call (name, place) => call.passAs name (.int place))
    (metric.call function))

/-- Time series whose property has one of the values. -/
structure PropertyFilter where
  property : String
  values : List String
  /-- Do time series without the property match too? -/
  matchMissing : Bool := false

/-- The filter as a stream predicate. -/
def PropertyFilter.stream (filter : PropertyFilter) : Stream :=
  .ofCall ((filter.values.foldl (fun call value => call.pass (.str value))
    ((Call.named "filter").pass (.str filter.property))).flag "match_missing" filter.matchMissing)

/-- A constant time series with the dimensions given. -/
def Stream.constant (value : Expr) (dimensions : List (String × Expr)) : Stream :=
  let key := if dimensions.isEmpty then none else some (.dict dimensions)
  .ofCall (((Call.named "const").pass value).passAs? "key" key)

/-- The time series of all the streams together. -/
def Stream.union (streams : List Expr) : Stream :=
  .ofCall (streams.foldl Call.pass (.named "union"))

/-- Do an alert's events come in pairs of beginning and end? -/
inductive DetectMode where
  | paired | split
deriving DecidableEq, Repr

/-- The word for a mode. -/
def DetectMode.word : DetectMode → String
  | paired => "paired"
  | split => "split"

/-- Events at which a condition begins to hold, and perhaps another one ends them. -/
def Stream.detect (on : Expr) (off : Option Expr) (mode : Option DetectMode) : Stream :=
  .ofCall (((Call.named "detect").pass on).passAs? "off" off
    |>.passAs? "mode" (mode.map fun m => .str m.word))

/-- A predicate that must have held for some time, or for a share of it. -/
def Stream.when (predicate : Expr) (lasting : Option String) (atLeast : Option Binary64) : Stream :=
  .ofCall (((Call.named "when").pass predicate).passAs? "lasting" (lasting.map .str)
    |>.passAs? "at_least" (atLeast.map .float))

/-- A time for which, or for a share of which, something must last. -/
def Stream.lasting (duration : String) (atLeast : Option Binary64) : Stream :=
  .ofCall (((Call.named "lasting").passAs "lasting" (.str duration)).passAs? "at_least"
    (atLeast.map .float))

/-- A constant drawn as a threshold. -/
def Stream.threshold (value : Expr) : Stream := .ofCall ((Call.named "threshold").pass value)

end SignalBoard.Flow
