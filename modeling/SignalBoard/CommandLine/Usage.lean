/-
# Options and commands

What may stand on a command line. Some options stand at both levels, before the command and
after it; a command may add options of its own. A parameter takes a value, a switch does not.
The only switch that may be repeated is the one that counts.
-/

import SignalBoard.Reconcile.Lookup

namespace SignalBoard.CommandLine

/-- An option that takes a value. -/
inductive Parameter where
  | apiKey | baseUrl | config | name | description
deriving DecidableEq, Repr

/-- The long form of a parameter. -/
def Parameter.long : Parameter → String
  | apiKey => "api-key"
  | baseUrl => "base-url"
  | config => "config"
  | name => "name"
  | description => "description"

/-- An option without a value. -/
inductive Switch where
  | dryRun | verbose | help | force | interactive
deriving DecidableEq, Repr

namespace Switch

/-- The long form of a switch. -/
def long : Switch → String
  | dryRun => "dry-run"
  | verbose => "verbose"
  | help => "help"
  | force => "force"
  | interactive => "interactive"

/-- The letter of a switch that has a short form. -/
def letter? : Switch → Option Char
  | dryRun => none
  | verbose => some 'v'
  | help => some 'h'
  | force => some 'f'
  | interactive => some 'i'

/-- May the switch be repeated? -/
def counts (switch : Switch) : Bool := switch = verbose

end Switch

/-- What is to be done with the resources. -/
inductive Verb where
  | create | update | read | delete
deriving DecidableEq, Repr

/-- The word for a verb. -/
def Verb.word : Verb → String
  | create => "create"
  | update => "update"
  | read => "read"
  | delete => "delete"

/-- The verbs in the order in which they are explained. -/
def Verb.all : List Verb := [.create, .update, .read, .delete]

/-- What may stand at one level of a command line. -/
structure Level where
  parameters : List Parameter
  switches : List Switch
  /-- Do commands follow? -/
  takesVerb : Bool

namespace Level

/-- The level before the command. -/
def outer : Level := ⟨[.apiKey, .baseUrl, .config], [.dryRun, .verbose, .help], true⟩

/-- The level after a command. -/
def inner (verb : Verb) : Level :=
  let own : List Parameter × List Switch := match verb with
    | .create => ([], [.force, .interactive])
    | .update => ([.name, .description], [])
    | .read | .delete => ([], [])
  ⟨outer.parameters ++ own.1, outer.switches ++ own.2, false⟩

end Level

/-- A verb with its options. -/
inductive Command where
  | create (options : CreateOptions)
  | update (overrides : Overrides)
  | read
  | delete
deriving DecidableEq

/-- What a command line asks for. -/
structure Invocation where
  apiKey : Option String
  baseUrl : Option String
  config : Option String
  dryRun : Bool
  verbosity : Nat
  command : Command
deriving DecidableEq

/-- Why a command line is not carried out. -/
inductive UsageError where
  /-- The user asked for help. -/
  | helpAsked
  /-- Nothing at all was given. -/
  | nothingGiven
  | missingCommand
  | unknownCommand
  | unknownArgument
  /-- A switch was given a value. -/
  | valueForSwitch
  | missingValue
  | emptyPath
  | repeated
deriving DecidableEq, Repr

/-- The end of the program for a command line that is not carried out. -/
def UsageError.exitCode : UsageError → Nat
  | helpAsked => 0
  | _ => 2

end SignalBoard.CommandLine
