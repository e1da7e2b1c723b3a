/-
# Charts

A chart has a name, a program that fetches what it shows, and options that depend on its type.
Four of the five types draw data and share the display options; a text chart shows markdown and
has no use for its program.
-/

import SignalBoard.Flow.Program
import SignalBoard.Invalid

namespace SignalBoard

/-- By what the series of a chart are coloured. -/
inductive ColorBy where
  | dimension | metric | scale
deriving DecidableEq, Repr

/-- In which order the values of a chart are listed. -/
inductive SortBy where
  | descending | ascending
deriving DecidableEq, Repr

/-- Whether large values are shortened by thousands or by powers of two. -/
inductive UnitPrefix where
  | metric | binary
deriving DecidableEq, Repr

/-- How a series is drawn. -/
inductive PlotType where
  | line | area | column | histogram
deriving DecidableEq, Repr

/-- The word for a plot type. -/
def PlotType.word : PlotType → String
  | line => "LineChart"
  | area => "AreaChart"
  | column => "ColumnChart"
  | histogram => "Histogram"

/-- The colours of the palette, in the order of their indices. -/
inductive PaletteColor where
  | gray | navyBlue | skyBlue | shakespeare | rust | tangerine | sunflower | mulberry
  | hotPink | rose | slateBlue | violet | plum | green | lightGreen | mountainGreen
deriving DecidableEq, Repr

/-- The colours by name. -/
def PaletteColor.names : List (String × PaletteColor) :=
  [("Gray", gray), ("NavyBlue", navyBlue), ("SkyBlue", skyBlue), ("Shakespeare", shakespeare),
    ("Rust", rust), ("Tangerine", tangerine), ("Sunflower", sunflower), ("Mulberry", mulberry),
    ("HotPink", hotPink), ("Rose", rose), ("SlateBlue", slateBlue), ("Violet", violet),
    ("Plum", plum), ("Green", green), ("LightGreen", lightGreen),
    ("MountainGreen", mountainGreen)]

/-- The index of a colour in the palette. -/
def PaletteColor.index (color : PaletteColor) : Nat := color.ctorIdx

/-- The span of time a chart shows, in milliseconds. -/
inductive TimeWindow where
  /-- Up to now. -/
  | relative (range : Nat)
  /-- Between two instants, counted from the epoch. -/
  | absolute (start stop : Int)
deriving DecidableEq, Repr

/-- An axis of a chart. -/
structure Axis where
  min : Binary64
  max : Binary64
  label : String
  lowWatermark : Binary64
  highWatermark : Binary64
deriving BEq, DecidableEq

/-- An axis whose bounds are not reversed. A bound that is no number is not compared. -/
def Axis.make (min max : Binary64) (label : String) (highWatermark lowWatermark : Binary64) :
    Checked Axis := do
  require (!max.less min) (.axisBounds label)
  return { min, max, label, lowWatermark, highWatermark }

/-- A column of the table of values. -/
structure Column where
  property : String
  enabled : Bool
deriving DecidableEq

/-- A column for a property, which must be named. -/
def Column.make (property : String) (enabled : Bool) : Checked Column := do
  requireFilled property "field option property"
  return { property, enabled }

/-- How the series published under a label is drawn. -/
structure SeriesStyle where
  label : String
  /-- `0` for the left axis, `1` for the right one. -/
  axis : Nat
  color : PaletteColor
  plotType : PlotType
  displayName : String
deriving DecidableEq

/-- A style for a named series on one of the two axes. -/
def SeriesStyle.make (label : String) (axis : Nat) (color : PaletteColor) (plotType : PlotType)
    (displayName : String) : Checked SeriesStyle := do
  requireFilled label "publish label"
  requireFilled displayName "display name"
  require (axis ≤ 1) (.axisSide axis)
  return { label, axis, color, plotType, displayName }

/-- How a chart's program is run; times in milliseconds. -/
structure ProgramOptions where
  minimumResolution : Nat
  maxDelay : Nat
  disableSampling : Bool
deriving DecidableEq

/-- The options that all charts of data share. -/
structure DisplayOptions where
  colorBy : Option ColorBy := none
  sortBy : Option SortBy := none
  unitPrefix : Option UnitPrefix := none
  program : Option ProgramOptions := none
  series : Option (List SeriesStyle) := none
deriving DecidableEq

/-- The legend drawn on a chart. -/
structure Legend where
  dimension : String
  shown : Bool
deriving DecidableEq

/-- Thresholds at which values change their colour. -/
structure ColorScale where
  thresholds : List Binary64
  inverted : Option Bool
deriving BEq, DecidableEq

/-- A colour scale with its thresholds from the highest to the lowest. -/
def ColorScale.make (thresholds : List Binary64) (inverted : Option Bool) : ColorScale :=
  ⟨thresholds.mergeSort fun a b => b.order ≤ a.order, inverted⟩

/-- The options of a chart that draws series over time. -/
structure TimeSeriesOptions where
  display : DisplayOptions := {}
  time : Option TimeWindow := none
  axes : Option (List Axis) := none
  columns : Option (List Column) := none
  eventLines : Option Bool := none
  /-- Does a line show its data points? -/
  lineMarkers : Option Bool := none
  /-- Does an area show its data points? -/
  areaMarkers : Option Bool := none
  stacked : Option Bool := none
  plotType : Option PlotType := none
  axisPrecision : Option Nat := none
  legend : Option Legend := none
deriving BEq, DecidableEq

/-- The options of a chart that shows one value. -/
structure SingleValueOptions where
  display : DisplayOptions := {}
  refreshInterval : Option Nat := none
  maximumPrecision : Option Nat := none
  timestampHidden : Option Bool := none
  sparkLine : Option Bool := none
  colorScale : Option ColorScale := none
deriving BEq, DecidableEq

/-- The options of a chart that lists values. -/
structure ListOptions where
  display : DisplayOptions := {}
  refreshInterval : Option Nat := none
  maximumPrecision : Option Nat := none
deriving DecidableEq

/-- The options of a heat map. -/
structure HeatmapOptions where
  display : DisplayOptions := {}
  colorScale : Option ColorScale := none
deriving BEq, DecidableEq

/-- The type of a chart with its options. -/
inductive ChartOptions where
  | timeSeries (options : TimeSeriesOptions)
  | singleValue (options : SingleValueOptions)
  | list (options : ListOptions)
  | heatmap (options : HeatmapOptions)
  | text (markdown : String)
deriving BEq, DecidableEq

/-- A chart. One with an identifier stands for the stored chart of that identifier. -/
structure Chart where
  id : Option String := none
  name : String := ""
  description : Option String := none
  program : Flow.Program := {}
  options : ChartOptions
deriving BEq

namespace TimeSeriesOptions

/-- Markers of lines belong to a line chart and markers of areas to an area chart, unless the
chart names no plot type. -/
def checkPlotType (options : TimeSeriesOptions) : Checked Unit :=
  match options.plotType with
  | none => .ok ()
  | some actual => do
      require (options.lineMarkers.isNone || actual = .line)
        (.plotMismatch "lineChartOptions" actual.word)
      require (options.areaMarkers.isNone || actual = .area)
        (.plotMismatch "areaChartOptions" actual.word)

/-- Sets the markers of lines. -/
def withLineMarkers (options : TimeSeriesOptions) (shown : Bool) : Checked TimeSeriesOptions := do
  let options := { options with lineMarkers := some shown }
  options.checkPlotType
  return options

/-- Sets the markers of areas. -/
def withAreaMarkers (options : TimeSeriesOptions) (shown : Bool) : Checked TimeSeriesOptions := do
  let options := { options with areaMarkers := some shown }
  options.checkPlotType
  return options

end TimeSeriesOptions

namespace Chart

/-- Checks the options of a chart and the program they are for. -/
def checkOptions (chart : Chart) : Checked Unit :=
  match chart.options with
  | .text markdown => requireFilled markdown "text chart markdown"
  | .timeSeries options => do
      options.checkPlotType
      checkedFlow chart.program.check
  | _ => checkedFlow chart.program.check

/-- Checks a chart: its name, its identifier if it has one, then its options and program. -/
def check (chart : Chart) : Checked Unit := do
  requireFilled chart.name "chart name"
  chart.id.forM fun id => requireFilled id "chart id"
  chart.checkOptions

end Chart

end SignalBoard
