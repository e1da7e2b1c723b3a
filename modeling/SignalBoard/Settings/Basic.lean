/-
# Settings

What the program has to know to reach the service. The token is kept as it was given; it is
trimmed where it is used, and there a blank token is refused.
-/

import SignalBoard.Fault
import SignalBoard.Text.Blank

namespace SignalBoard

/-- How the service is reached. -/
structure Settings where
  /-- The address that every path of the service is appended to. -/
  baseUrl : String := "https://api.signalfx.com/v2"
  token : String := ""
  timeoutSeconds : Nat := 30
deriving DecidableEq, Repr

/-- The token to be sent. -/
def Settings.checkedToken (settings : Settings) : Except Fault String :=
  if Text.blank settings.token then .error .missingToken else .ok (Text.trim settings.token)

end SignalBoard
