/-
# Rules of detectors

A rule says how severe the events published under a label are and who is told of them.
-/

import SignalBoard.Detector.Notification

namespace SignalBoard

/-- How severe an event is. -/
inductive Severity where
  | critical | major | minor | warning | info
deriving DecidableEq, Repr

/-- The word for a severity. -/
def Severity.word : Severity → String
  | critical => "Critical"
  | major => "Major"
  | minor => "Minor"
  | warning => "Warning"
  | info => "Info"

/-- A rule for the events of one label. -/
structure Rule where
  label : String := ""
  description : Option String := none
  severity : Option Severity := none
  /-- Are events and notifications held back? -/
  disabled : Option Bool := none
  notifications : List Notification := []
  body : Option String := none
  subject : Option String := none
  runbookUrl : Option String := none
  tip : Option String := none
deriving DecidableEq

namespace Rule

/-- A rule needs a label and a severity. -/
def check (rule : Rule) : Checked Unit := do
  requireFilled rule.label "rule detect label"
  require rule.severity.isSome (.noSeverity rule.label)

/-- The document of a rule. Without notifications it has no list of them. -/
def document (rule : Rule) : Json := .record
  [("detectLabel", some (.str rule.label)),
    ("description", Json.ofString? rule.description),
    ("severity", rule.severity.map (.str ·.word)),
    ("disabled", rule.disabled.map .bool),
    ("notifications", Json.ofItems? Notification.document rule.notifications),
    ("parameterizedBody", Json.ofString? rule.body),
    ("parameterizedSubject", Json.ofString? rule.subject),
    ("runbookUrl", Json.ofString? rule.runbookUrl),
    ("tip", Json.ofString? rule.tip)]

end Rule

end SignalBoard
