/-
# Event overlays

Events can be drawn over the charts of a dashboard. A signal says which events: a search text,
in which `*` stands for anything, and perhaps a type. An overlay offers a signal on the
dashboard, in a colour of its own if one is chosen.
-/

import SignalBoard.Invalid
import SignalBoard.Json.Basic

namespace SignalBoard

/-- Where an event comes from. -/
inductive EventType where
  | detectorEvent | eventTimeSeries
deriving DecidableEq, Repr

/-- The word for a type of event. -/
def EventType.word : EventType → String
  | detectorEvent => "detectorEvent"
  | eventTimeSeries => "eventTimeSeries"

/-- The type of event that a word names. -/
def EventType.ofWord (word : String) : Checked EventType :=
  if word = "detectorEvent" then .ok .detectorEvent
  else if word = "eventTimeSeries" then .ok .eventTimeSeries
  else .error (.eventType word)

/-- Which events are meant. -/
structure EventSignal where
  searchText : String
  eventType : Option EventType := none
deriving DecidableEq

namespace EventSignal

/-- The signal of a search text, which must not be blank. -/
def ofText (searchText : String) : Checked EventSignal := do
  requireFilled searchText "event search text"
  return { searchText }

/-- The document of a signal. -/
def document (signal : EventSignal) : Json := .record
  [("eventSearchText", some (.str signal.searchText)),
    ("eventType", signal.eventType.map (.str ·.word))]

/-- The document of a signal that is shown from the start. -/
def selectedDocument (signal : EventSignal) : Json :=
  .record [("eventSignal", some signal.document)]

end EventSignal

/-- A signal that a dashboard offers. -/
structure EventOverlay where
  signal : EventSignal
  colorIndex : Option Nat := none
  line : Option Bool := none
deriving DecidableEq

namespace EventOverlay

/-- Chooses one of the twenty-one colours. -/
def withColorIndex (overlay : EventOverlay) (index : Nat) : Checked EventOverlay := do
  require (index ≤ 20) (.outOfRange "event color index" 0 20 index)
  return { overlay with colorIndex := some index }

/-- The document of an overlay. -/
def document (overlay : EventOverlay) : Json := .record
  [("eventSignal", some overlay.signal.document),
    ("eventColorIndex", overlay.colorIndex.map Json.ofNat),
    ("eventLine", overlay.line.map .bool)]

end EventOverlay

end SignalBoard
