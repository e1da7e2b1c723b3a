/-
# Detectors

A detector runs a flow program and alerts by rules when the program publishes events. Every
rule must be for a label that the program publishes; this is not asked of a program with lines
written by hand, whose labels are not seen.
-/

import SignalBoard.Chart.Basic
import SignalBoard.Detector.Rule
import SignalBoard.Detector.TimeConfig

namespace SignalBoard

/-- How a detector is viewed. -/
structure Visualization where
  time : Option TimeConfig := none
  showsDataMarkers : Option Bool := none
deriving DecidableEq

/-- The document of a view. -/
def Visualization.document (view : Visualization) : Json := .record
  [("time", view.time.map TimeConfig.document),
    ("showDataMarkers", view.showsDataMarkers.map .bool)]

/-- A program with rules about the events it publishes. -/
structure Detector where
  name : String := ""
  description : Option String := none
  program : Flow.Program := {}
  rules : List Rule := []
  /-- Milliseconds to wait for late data. -/
  maxDelay : Option Nat := none
  visualization : Option Visualization := none
  tags : List String := []
  teams : List String := []
deriving BEq

namespace Detector

/-- Takes the program of a chart, which must have one, with statements added at its end. -/
def fromChart (detector : Detector) (chart : Chart) (added : List Flow.Statement) :
    Checked Detector := do
  require (!chart.program.isEmpty) (.nothingToDetect chart.name detector.name)
  return { detector with program := chart.program.append added }

/-- Checks that every rule is for a label that the program publishes. -/
def checkLabels (detector : Detector) : Checked Unit :=
  if detector.program.statements.any Flow.Statement.isRaw then .ok ()
  else
    let labels := detector.program.labels
    match detector.rules.find? fun rule => !labels.contains rule.label with
    | some rule => .error (.unpublishedLabel rule.label detector.name)
    | none => .ok ()

/-- Checks the name, the program, every rule by itself, and the labels of the rules. -/
def check (detector : Detector) : Checked Unit := do
  requireFilled detector.name "detector name"
  checkedFlow detector.program.check
  detector.rules.forM Rule.check
  detector.checkLabels

/-- The document of a detector. -/
def document (detector : Detector) : Json := .record
  [("name", some (.str detector.name)),
    ("description", Json.ofString? detector.description),
    ("programText", some (.str detector.program.text)),
    ("rules", some (.arr (detector.rules.map Rule.document))),
    ("maxDelay", detector.maxDelay.map Json.ofNat),
    ("visualizationOptions", detector.visualization.map Visualization.document),
    ("tags", Json.ofItems? Json.str detector.tags),
    ("teams", Json.ofItems? Json.str detector.teams)]

/-- The document of a detector that passes its check. -/
def payload (detector : Detector) : Checked Json := do
  detector.check
  return detector.document

end Detector

end SignalBoard
