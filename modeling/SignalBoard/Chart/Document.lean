/-
# Documents of charts

A chart is sent as one object. What is not set has no key. The options of a chart, the shared
ones among them, are the fields of one object whose `type` names the chart's type.
-/

import SignalBoard.Chart.Basic
import SignalBoard.Json.Basic

namespace SignalBoard

open Json (ofNat ofString?)

/-- The word for what colours a chart. -/
def ColorBy.word : ColorBy → String
  | dimension => "Dimension"
  | metric => "Metric"
  | scale => "Scale"

/-- The word for an order of values. -/
def SortBy.word : SortBy → String
  | descending => "-value"
  | ascending => "+value"

/-- The word for a way to shorten values. -/
def UnitPrefix.word : UnitPrefix → String
  | metric => "Metric"
  | binary => "Binary"

/-- A double in a document. What is no finite number becomes `null`. -/
def Json.ofBinary64 (x : Binary64) : Json :=
  if x.isFinite then .float x else .null

/-- The document of a time window. -/
def TimeWindow.document : TimeWindow → Json
  | relative range => .record [("type", some (.str "relative")), ("range", some (ofNat range))]
  | absolute start stop => .record
      [("type", some (.str "absolute")), ("start", some (.int start)), ("end", some (.int stop))]

/-- The document of an axis. -/
def Axis.document (axis : Axis) : Json := .record
  [("min", some (.ofBinary64 axis.min)), ("max", some (.ofBinary64 axis.max)),
    ("label", some (.str axis.label)),
    ("lowWatermark", some (.ofBinary64 axis.lowWatermark)),
    ("highWatermark", some (.ofBinary64 axis.highWatermark))]

/-- The document of a column. -/
def Column.document (column : Column) : Json := .record
  [("property", some (.str column.property)), ("enabled", some (.bool column.enabled))]

/-- The document of a series style. -/
def SeriesStyle.document (style : SeriesStyle) : Json := .record
  [("label", some (.str style.label)), ("yAxis", some (ofNat style.axis)),
    ("paletteIndex", some (ofNat style.color.index)),
    ("plotType", some (.str style.plotType.word)),
    ("displayName", some (.str style.displayName))]

/-- The document of program options. -/
def ProgramOptions.document (options : ProgramOptions) : Json := .record
  [("minimumResolution", some (ofNat options.minimumResolution)),
    ("maxDelay", some (ofNat options.maxDelay)),
    ("disableSampling", some (.bool options.disableSampling))]

/-- The document of a legend. -/
def Legend.document (legend : Legend) : Json := .record
  [("showLegend", some (.bool legend.shown)),
    ("dimensionInLegend", some (.str legend.dimension))]

/-- The document of a colour scale. -/
def ColorScale.document (scale : ColorScale) : Json := .record
  [("thresholds", some (.arr (scale.thresholds.map Json.ofBinary64))),
    ("inverted", scale.inverted.map .bool)]

/-- The document that says whether data points are shown. -/
def markersDocument (shown : Bool) : Json := .record [("showDataMarkers", some (.bool shown))]

/-- The fields of the shared options. -/
def DisplayOptions.fields (options : DisplayOptions) : List (String × Option Json) :=
  [("colorBy", options.colorBy.map (.str ·.word)),
    ("sortBy", options.sortBy.map (.str ·.word)),
    ("unitPrefix", options.unitPrefix.map (.str ·.word)),
    ("programOptions", options.program.map ProgramOptions.document),
    ("publishLabelOptions", options.series.map fun styles =>
      .arr (styles.map SeriesStyle.document))]

/-- The fields of the options of a chart over time. -/
def TimeSeriesOptions.fields (options : TimeSeriesOptions) : List (String × Option Json) :=
  options.display.fields ++
  [("time", options.time.map TimeWindow.document),
    ("axes", options.axes.map fun axes => .arr (axes.map Axis.document)),
    ("legendOptions", options.columns.map fun columns =>
      .record [("fields", some (.arr (columns.map Column.document)))]),
    ("showEventLines", options.eventLines.map .bool),
    ("lineChartOptions", options.lineMarkers.map markersDocument),
    ("areaChartOptions", options.areaMarkers.map markersDocument),
    ("stacked", options.stacked.map .bool),
    ("defaultPlotType", options.plotType.map (.str ·.word)),
    ("axisPrecision", options.axisPrecision.map ofNat),
    ("onChartLegendOptions", options.legend.map Legend.document)]

/-- The fields of the options of a single value. -/
def SingleValueOptions.fields (options : SingleValueOptions) : List (String × Option Json) :=
  options.display.fields ++
  [("refreshInterval", options.refreshInterval.map ofNat),
    ("maximumPrecision", options.maximumPrecision.map ofNat),
    ("timestampHidden", options.timestampHidden.map .bool),
    ("showSparkLine", options.sparkLine.map .bool),
    ("colorScale", options.colorScale.map ColorScale.document)]

/-- The fields of the options of a list. -/
def ListOptions.fields (options : ListOptions) : List (String × Option Json) :=
  options.display.fields ++
  [("refreshInterval", options.refreshInterval.map ofNat),
    ("maximumPrecision", options.maximumPrecision.map ofNat)]

/-- The fields of the options of a heat map. -/
def HeatmapOptions.fields (options : HeatmapOptions) : List (String × Option Json) :=
  options.display.fields ++ [("colorScale", options.colorScale.map ColorScale.document)]

/-- The word for the type of a chart. -/
def ChartOptions.typeWord : ChartOptions → String
  | timeSeries _ => "TimeSeriesChart"
  | singleValue _ => "SingleValue"
  | list _ => "List"
  | heatmap _ => "Heatmap"
  | text _ => "Text"

/-- The fields of the options of a chart, but for its type. -/
def ChartOptions.fields : ChartOptions → List (String × Option Json)
  | timeSeries options => options.fields
  | singleValue options => options.fields
  | list options => options.fields
  | heatmap options => options.fields
  | text markdown => [("markdown", some (.str markdown))]

/-- The document of the options of a chart. -/
def ChartOptions.document (options : ChartOptions) : Json :=
  .record (("type", some (.str options.typeWord)) :: options.fields)

namespace Chart

/-- The document of a chart. -/
def document (chart : Chart) : Json := .record
  [("id", ofString? chart.id), ("name", some (.str chart.name)),
    ("description", ofString? chart.description),
    ("programText", some (.str chart.program.text)),
    ("options", some chart.options.document)]

/-- The document of a chart that passes its check. -/
def payload (chart : Chart) : Checked Json := do
  chart.check
  return chart.document

end Chart

end SignalBoard
