/-
# The program

The outer layer: it reads the words of the command line, the variables of the environment and
the settings file, carries the command line out, and prints. It manages no resources of its own;
a program that does passes them to `runProgram`. No transport is built in, so every request ends
in the fault of a service that was not reached, and no question is answered with yes.
-/

import SignalBoard.CommandLine.Run

namespace SignalBoard

open CommandLine

/-- The variables of the environment that set something. -/
def settingVariables : List String :=
  [tokenVariable, "SIGNALFX_API__BASE_URL", "SIGNALFX_API__TIMEOUT_SECS"]

/-- The files that settings may come from: the one the command line names, or those at the usual
places. -/
def settingFiles (words : List String) : List String :=
  match Invocation.ofWords words with
  | .ok { config := some path, .. } => [path]
  | .ok _ => Settings.usualPlaces
  | .error _ => []

/-- Reads those of the files that can be read. -/
def readFiles (paths : List String) : IO (List (String × String)) :=
  paths.filterMapM fun (path : String) => do
    try
      let text ← IO.FS.readFile path
      return some (path, text)
    catch _ => return none

/-- Reads the variables that are set. -/
def readVariables (names : List String) : IO (List (String × String)) :=
  names.filterMapM fun name => do
    return (← IO.getEnv name).map fun value => (name, value)

/-- What is told about a failure. -/
def failureText (failure : Failure) : String :=
  let cause := match failure.cause with
    | .usage _ => "the command line cannot be carried out"
    | .fault fault => fault.message?.getD "the service or the settings cannot be read"
  match failure.context? with
  | some context => context ++ ": " ++ cause
  | none => cause

/-- Runs the program for its resources. -/
def runProgram (resources : List Resource) (args : List String) : IO UInt32 := do
  let words := "signal-board" :: args
  let files ← readFiles (settingFiles words)
  let surroundings : Surroundings :=
    { environment := ← readVariables settingVariables, files := fun path => files.lookup path }
  let outcome :=
    (CommandLine.run Http.Transport.unreachable surroundings false resources words ()).outcome
  match outcome with
  | .ok outcome => IO.print outcome.text
  | .error failure => IO.eprintln (failureText failure)
  return UInt32.ofNat (exitCode outcome)

end SignalBoard

/-- Runs the program without resources. -/
def main (args : List String) : IO UInt32 := SignalBoard.runProgram [] args
