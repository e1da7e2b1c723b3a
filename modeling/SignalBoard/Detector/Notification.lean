/-
# Notifications

Where an alert is sent. What a destination needs must not be blank; whether an integration of
the given identifier exists is for the service to know.
-/

import SignalBoard.Detector.Email
import SignalBoard.Invalid
import SignalBoard.Json.Basic

namespace SignalBoard

/-- A destination of alerts. -/
inductive Notification where
  | email (address : String)
  | pagerDuty (credentialId : String)
  | slack (credentialId channel : String)
  | hipChat (credentialId room : String)
  | serviceNow (credentialId : String)
  | victorOps (credentialId routingKey : String)
  /-- The secret, if there is one, signs what is sent. -/
  | webhook (url : String) (secret : Option String)
  | team (team : String)
  | teamEmail (team : String)
deriving DecidableEq

namespace Notification

/-- A message to an address. -/
def toEmail (address : String) : Checked Notification := do
  require (Email.isAddress address.toList) (.email address)
  return email address

/-- An incident of PagerDuty. -/
def toPagerDuty (credentialId : String) : Checked Notification := do
  requireFilled credentialId "PagerDuty integration id"
  return pagerDuty credentialId

/-- A message to a channel of Slack. -/
def toSlack (credentialId channel : String) : Checked Notification := do
  requireFilled credentialId "Slack integration id"
  requireFilled channel "Slack channel"
  return slack credentialId channel

/-- A message to a room of HipChat. -/
def toHipChat (credentialId room : String) : Checked Notification := do
  requireFilled credentialId "HipChat integration id"
  requireFilled room "HipChat room"
  return hipChat credentialId room

/-- An incident of ServiceNow. -/
def toServiceNow (credentialId : String) : Checked Notification := do
  requireFilled credentialId "ServiceNow integration id"
  return serviceNow credentialId

/-- An incident of VictorOps. -/
def toVictorOps (credentialId routingKey : String) : Checked Notification := do
  requireFilled credentialId "VictorOps integration id"
  requireFilled routingKey "VictorOps routing key"
  return victorOps credentialId routingKey

/-- A request to an address of the web. An empty secret is none. -/
def toWebhook (url : String) (secret : Option String) : Checked Notification := do
  requireFilled url "webhook url"
  return webhook url (secret.filter fun s => !s.isEmpty)

/-- An alert for a team. -/
def toTeam (name : String) : Checked Notification := do
  requireFilled name "team id"
  return team name

/-- A message to the members of a team. -/
def toTeamEmail (name : String) : Checked Notification := do
  requireFilled name "team id"
  return teamEmail name

/-- The document of a destination. -/
def document : Notification → Json
  | email address => .record [("type", some (.str "Email")), ("email", some (.str address))]
  | pagerDuty credentialId =>
      .record [("type", some (.str "PagerDuty")), ("credentialId", some (.str credentialId))]
  | slack credentialId channel => .record
      [("type", some (.str "Slack")), ("credentialId", some (.str credentialId)),
        ("channel", some (.str channel))]
  | hipChat credentialId room => .record
      [("type", some (.str "HipChat")), ("credentialId", some (.str credentialId)),
        ("room", some (.str room))]
  | serviceNow credentialId =>
      .record [("type", some (.str "ServiceNow")), ("credentialId", some (.str credentialId))]
  | victorOps credentialId routingKey => .record
      [("type", some (.str "VictorOps")), ("credentialId", some (.str credentialId)),
        ("routingKey", some (.str routingKey))]
  | webhook url secret => .record
      [("type", some (.str "Webhook")), ("url", some (.str url)),
        ("secret", Json.ofString? secret)]
  | team name => .record [("type", some (.str "Team")), ("team", some (.str name))]
  | teamEmail name => .record [("type", some (.str "TeamEmail")), ("team", some (.str name))]

end Notification

end SignalBoard
