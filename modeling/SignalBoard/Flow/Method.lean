/-
# Methods of streams

The calls that may be appended to a stream. Most are a name and an optional grouping; the
others pass their arguments by the keywords that the language gives them. A flag that is false
is not written.
-/

import SignalBoard.Flow.Expr

namespace SignalBoard.Flow

/-- Over what an aggregation runs. -/
inductive Grouping where
  /-- Over all time series at one instant. -/
  | all
  /-- Over those that share the values of the dimensions. -/
  | by (dimensions : List String)
  /-- Over a window of time. -/
  | window (length : String)
deriving DecidableEq, Repr

/-- Adds a grouping to an aggregation. -/
def Call.grouped (call : Call) : Grouping → Call
  | .all => call
  | .by dimensions => call.passAs "by" (.list (dimensions.map .str))
  | .window length => call.passAs "over" (.str length)

/-- Which ends of a range belong to it, and whether values outside are moved to its ends. -/
structure RangeOptions where
  lowInclusive : Bool := false
  highInclusive : Bool := false
  clamp : Bool := false
deriving DecidableEq, Repr

namespace Call

/-- An aggregation that needs nothing but its name. -/
def aggregate (name : String) (grouping : Grouping) : Call := (named name).grouped grouping

/-- An aggregation that picks a number of time series. -/
def pick (name : String) (count : Nat) (grouping : Grouping) : Call :=
  ((named name).passAs "count" (.int count)).grouped grouping

/-- The mean plus a number of standard deviations. -/
def meanPlusDeviations (deviations : Binary64) (grouping : Grouping) : Call :=
  ((named "mean_plus_stddev").passAs "stddevs" (.float deviations)).grouped grouping

/-- A percentile. -/
def percentile (percentage : Binary64) (grouping : Grouping) : Call :=
  ((named "percentile").pass (.float percentage)).grouped grouping

/-- A moving average that weights the newest value by a factor. -/
def movingAverage (weight : Binary64) : Call := (named "ewma").pass (.float weight)

/-- The data raised to a power. -/
def power (exponent : Expr) : Call := (named "pow").pass exponent

/-- A base raised to the power of the data. -/
def powerOf (base : Expr) : Call := (named "pow").passAs "base" base

/-- The data times a factor. -/
def scale (factor : Expr) : Call := (named "scale").pass factor

/-- Only the values on one side of a limit; `name` tells which. -/
def beyond (name : String) (limit : Expr) (inclusive clamp : Bool) : Call :=
  (((named name).pass limit).flag "inclusive" inclusive).flag "clamp" clamp

/-- Only the values inside a range. -/
def inside (low high : Expr) (options : RangeOptions) : Call :=
  ((named "between").pass low).pass high
    |>.flag "low_inclusive" options.lowInclusive
    |>.flag "high_inclusive" options.highInclusive
    |>.flag "clamp" options.clamp

/-- Only the values outside a range. The language has no clamping for it, so that option is not
written. -/
def outside (low high : Expr) (options : RangeOptions) : Call :=
  ((named "not_between").pass low).pass high
    |>.flag "low_inclusive" options.lowInclusive
    |>.flag "high_inclusive" options.highInclusive

/-- Only the values that are equal, or that are not; `name` tells which. The others may be
replaced. -/
def comparing (name : String) (value : Expr) (replacement : Option Expr) : Call :=
  ((named name).pass value).passAs? "replacement" replacement

/-- Fills gaps with a value, perhaps only for some time. -/
def fill (value : Expr) (duration : Option String) : Call :=
  ((named "fill").pass value).passAs? "duration" (duration.map .str)

/-- Applies a function literal to every value. -/
def map (function : String) : Call := (named "map").pass (.raw function)

/-- Turns properties into dimensions. -/
def promote (properties : List String) : Call :=
  properties.foldl (fun call property => call.pass (.str property)) (named "promote")

/-- The data of some time ago. -/
def timeShift (offset : String) : Call := (named "timeshift").pass (.str offset)

/-- Publishes the stream under a label. -/
def publishAs (label : String) : Call := (named "publish").passAs "label" (.str label)

/-- Publishes the stream under a label without showing it. -/
def publishHidden (label : String) : Call := (publishAs label).passAs "enable" (.bool false)

end Call

end SignalBoard.Flow
