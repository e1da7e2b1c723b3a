/-
# Layouts of dashboards

A stored dashboard lists where each of its charts stands: rows count down, a row has twelve
columns. Entries are documents of the service and may hold anything; an entry without the
identifier of a chart is dropped. Rows are words of 64 bits.
-/

import SignalBoard.Json.Basic

namespace SignalBoard.Layout

/-- The chart that an entry places, if it names one. -/
def chartId? (entry : Json) : Option String := (entry.get? "chartId").bind Json.string?

/-- The entries of a stored dashboard that place a chart. -/
def entries (dashboard : Json) : List Json :=
  (dashboard.field "charts").items.filter fun entry => (chartId? entry).isSome

/-- A number of an entry; zero if it has none of that name. -/
def word (key : String) (entry : Json) : UInt64 := (entry.field key).word?.getD 0

/-- The first row below an entry. -/
def bottomOf (entry : Json) : UInt64 := word "row" entry + word "height" entry

/-- The first row below all entries. -/
def bottom (entries : List Json) : UInt64 :=
  entries.foldl (fun lowest entry => max lowest (bottomOf entry)) 0

/-- The height of a chart that is added. -/
def addedHeight : UInt64 := 3

/-- The entry of a chart that is added at a row, at the left, over half of the width. -/
def added (chartId : String) (row : UInt64) : Json := .record
  [("chartId", some (.str chartId)), ("row", some (.ofNat row.toNat)),
    ("column", some (.ofNat 0)), ("width", some (.ofNat 6)),
    ("height", some (.ofNat addedHeight.toNat))]

/-- The entries but for those that place one of the charts. -/
def without (chartIds : List String) (entries : List Json) : List Json :=
  entries.filter fun entry => !chartIds.any fun id => chartId? entry = some id

end SignalBoard.Layout
