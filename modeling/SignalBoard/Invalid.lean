/-
# Invalid values

The causes for which a setting or a resource is refused before anything is sent, and the
wording of each. Every cause carries what its wording names.
-/

import SignalBoard.Flow.Check
import SignalBoard.Number.Text

namespace SignalBoard

/-- Why a value is refused. -/
inductive Invalid where
  /-- A flow program or expression is unusable. -/
  | program (flaw : Flow.Flaw)
  /-- A text that must be given is blank. -/
  | blank (what : String)
  /-- A list that must have items has none, or has a blank one. -/
  | blankItems (what : String)
  /-- Settings that must be given are not. -/
  | missing (first : String) (others : List String)
  | outOfRange (what : String) (low high got : Int)
  | axisBounds (label : String)
  | axisSide (got : Nat)
  /-- Options of one plot type are given to a chart of another one. -/
  | plotMismatch (options plotType : String)
  | eventType (got : String)
  | email (got : String)
  | noSeverity (label : String)
  /-- A chart without a program cannot give one to a detector. -/
  | nothingToDetect (chart detector : String)
  | unpublishedLabel (label detector : String)
  | rangeOfAbsolute
  | startOfRelative
  | endOfRelative
  | windowReversed
  | noTimes
  | noEndTime
  | noStartTime
  | negativeTime
  | timesReversed
  | endNotNow (got : String)
  | mixedTimes
  | offsetSign
  | offsetUnit (start : String)
  | offsetAmount (amount : String)
deriving DecidableEq, Repr

namespace Invalid

/-- The text in straight quotes. -/
def inQuotes (s : String) : String := "\"" ++ s ++ "\""

/-- The wording of a cause. -/
def reason : Invalid → String
  | program flaw => flaw.message
  | blank what => what ++ " cannot be empty"
  | blankItems what => inQuotes what ++ " cannot be empty"
  | missing first [] => inQuotes first ++ " is a required parameter"
  | missing first others =>
      " and ".intercalate ((first :: others).map inQuotes) ++ " are required parameters"
  | outOfRange what low high got =>
      what ++ " must be between " ++ String.ofList (intText low) ++ " and "
        ++ String.ofList (intText high) ++ "; got " ++ String.ofList (intText got)
  | axisBounds label => "min cannot be greater than max in axis with label " ++ label
  | axisSide got =>
      "y-axis must be 0 (left) or 1 (right); '" ++ String.ofList (natText got) ++ "' provided"
  | plotMismatch options plotType =>
      "attempted to define '" ++ options ++ "' but chart is of type '" ++ plotType ++ "'"
  | eventType got =>
      "event type expects either \"detectorEvent\" or \"eventTimeSeries\"; got " ++ inQuotes got
  | email got => "'" ++ got ++ "' is not a valid email address"
  | noSeverity label => "rule for label '" ++ label ++ "' needs a severity"
  | nothingToDetect chart detector =>
      "chart '" ++ chart ++ "' has no program to build detector '" ++ detector ++ "' from"
  | unpublishedLabel label detector =>
      "rule label '" ++ label ++ "' is not published by the program of detector '" ++ detector
        ++ "'"
  | rangeOfAbsolute => "range can only be set on relative time configs"
  | startOfRelative => "start can only be set on absolute time configs"
  | endOfRelative => "end can only be set on absolute time configs"
  | windowReversed => "start of a time config must not be after its end"
  | noTimes => "Start and End time are required"
  | noEndTime => "End time should be provided"
  | noStartTime => "Start time should be provided"
  | negativeTime => "Start and End times cannot be negative"
  | timesReversed => "Start time should be smaller than End time"
  | endNotNow got =>
      "End time must be \"Now\" when Start time is relative; got " ++ inQuotes got
  | mixedTimes => "Start and End times should be of the same type"
  | offsetSign => "Start time value must start with a negative sign"
  | offsetUnit start =>
      "Start time must end with one of the units m, h, d, w; got '" ++ start ++ "'"
  | offsetAmount amount =>
      "a positive integer must follow the negative sign for Start time; got '" ++ amount ++ "'"

end Invalid

/-- The outcome of a check. -/
abbrev Checked := Except Invalid

/-- Refuses with the cause unless the condition holds. -/
def require (condition : Bool) (cause : Invalid) : Checked Unit :=
  if condition then .ok () else .error cause

/-- Refuses a blank text. -/
def requireFilled (text what : String) : Checked Unit :=
  require (!Text.blank text) (.blank what)

/-- Turns a flaw of a program into a cause. -/
def checkedFlow {α : Type} : Except Flow.Flaw α → Checked α
  | .ok value => .ok value
  | .error flaw => .error (.program flaw)

end SignalBoard
