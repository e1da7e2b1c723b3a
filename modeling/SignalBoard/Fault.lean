/-
# Faults

Why an operation fails, and the wording that a user reads. A fault carries what its wording
names. The wordings of the last group come from outside this library and are not given here.
-/

import SignalBoard.Invalid
import SignalBoard.Json.Printer

namespace SignalBoard

/-- What is wrong with a reply of the service. -/
inductive ReplyDefect where
  /-- The document has no identifier. -/
  | missingId (document : Json)
  /-- No reply is left to give. -/
  | exhausted
deriving DecidableEq

/-- The wording of a defect. -/
def ReplyDefect.message : ReplyDefect → String
  | missingId document => "missing 'id' in " ++ document.compact
  | exhausted => "script exhausted"

/-- Why an operation fails. -/
inductive Fault where
  /-- A setting or resource is refused before anything is sent. -/
  | invalid (cause : Invalid)
  | missingToken
  | unauthorized
  | notFound (endpoint : String)
  /-- The service answers with a status that stands for failure. -/
  | refused (status : Nat) (body : String)
  | alreadyExists (name : String)
  /-- Several resources have the name. -/
  | ambiguous (name : String)
  | noMatch (name : String)
  | aborted
  | unexpectedReply (defect : ReplyDefect)
  /-- A key was to be assigned in a document that is no object. -/
  | notAnObject (key : String)
  /-- The service was not reached, or the frame of its reply is broken. -/
  | exchange
  /-- The text of a reply is no document. -/
  | malformedReply
  /-- The settings of the program cannot be read. -/
  | settings
deriving DecidableEq

namespace Fault

/-- The wording of a fault, where this library gives it. -/
def message? : Fault → Option String
  | invalid cause => some ("invalid value: " ++ cause.reason)
  | missingToken => some
      ("cannot proceed with an empty API token; pass one with --api-key or set "
        ++ "SIGNALFX_API__TOKEN")
  | unauthorized => some
      ("the provided token was not able to authenticate with SignalFx. Have you made sure that:"
        ++ "\n\t- the token is correct?\n\t- the token is active?"
        ++ "\n\t- there are no extra whitespace characters in the token?")
  | notFound endpoint =>
      some ("could not find resource at endpoint '" ++ endpoint ++ "' in SignalFx")
  | refused status body => some
      ("SignalFx request failed with status " ++ String.ofList (natText status) ++ ": " ++ body)
  | alreadyExists name =>
      some ("a resource named \"" ++ name ++ "\" already exists; unwilling to override")
  | ambiguous name => some
      ("\"" ++ name ++ "\" has more than one exact match in SignalFx; unwilling to choose a "
        ++ "resource at random")
  | noMatch name => some ("could not find an exact match for \"" ++ name ++ "\" in SignalFx")
  | aborted => some "aborted by user"
  | unexpectedReply defect => some ("unexpected response from SignalFx: " ++ defect.message)
  | notAnObject key => some ("cannot assign key '" ++ key ++ "' of a value that is no object")
  | exchange | malformedReply | settings => none

end Fault

end SignalBoard
