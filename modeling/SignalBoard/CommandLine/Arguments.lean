/-
# Reading a command line

A command line is read once from left to right, level by level. The value of an option is taken
up when the next option comes or the line ends, so an unknown word is reported before anything
that is wrong with the option in front of it. What is wrong after the command is reported before
what is wrong before it. An option that stands at both levels has the value given last.
-/

import SignalBoard.CommandLine.Usage
import SignalBoard.CommandLine.Words

namespace SignalBoard.CommandLine

/-- What one level of a command line has given so far. -/
structure Given where
  values : List (Parameter × String) := []
  raised : List Switch := []
  /-- The parameter read last, with its value if it has one. -/
  pending? : Option (Parameter × Option String) := none
deriving DecidableEq

namespace Given

/-- The value of a parameter. -/
def value? (given : Given) (parameter : Parameter) : Option String :=
  (given.values.find? fun (other, _) => other = parameter).map (·.2)

/-- Was a switch given? -/
def has (given : Given) (switch : Switch) : Bool := given.raised.contains switch

/-- Was nothing given? -/
def isEmpty (given : Given) : Bool := given.values.isEmpty && given.raised.isEmpty

/-- How often the switch that counts was given, up to a limit. -/
def verbosity (given : Given) : Nat := min 255 (given.raised.count .verbose)

/-- Keeps the value of a parameter. -/
def store (given : Given) (parameter : Parameter) (value : String) : Except UsageError Given :=
  if (given.value? parameter).isSome then .error .repeated
  else if parameter = .config ∧ value.isEmpty then .error .emptyPath
  else .ok { given with values := given.values ++ [(parameter, value)] }

/-- Keeps the value of the parameter read last. -/
def settle (given : Given) : Except UsageError Given :=
  let before := { given with pending? := none }
  match given.pending? with
  | none => .ok before
  | some (_, none) => .error .missingValue
  | some (parameter, some value) => before.store parameter value

/-- Notes a switch. -/
def raise (given : Given) (switch : Switch) : Except UsageError Given := do
  let given ← given.settle
  if switch = .help then .error .helpAsked
  else if given.has switch && !switch.counts then .error .repeated
  else .ok { given with raised := given.raised ++ [switch] }

/-- Takes an option in long form. -/
def takeLong (level : Level) (given : Given) (name : String) (value? : Option String) :
    Except UsageError Given :=
  match level.parameters.find? (·.long = name), level.switches.find? (·.long = name), value? with
  | some parameter, _, some value => do (← given.settle).store parameter value
  | some parameter, _, none => do
      return { ← given.settle with pending? := some (parameter, none) }
  | none, some _, some _ => .error .valueForSwitch
  | none, some switch, none => given.raise switch
  | none, none, _ => .error .unknownArgument

/-- Takes an option in short form. -/
def takeLetter (level : Level) (given : Given) (letter : Char) : Except UsageError Given :=
  match level.switches.find? (·.letter? = some letter) with
  | some switch => given.raise switch
  | none => .error .unknownArgument

end Given

/-- The verb that a word stands for. -/
def Verb.ofText? (text : String) : Option Verb := Verb.all.find? (·.word = text)

/-- What the word for help asks for, given the words after it: help for the program or for one
command. -/
def helpFor : List String → UsageError
  | [] => .helpAsked
  | [text] =>
      if text = "help" ∨ (Verb.ofText? text).isSome then .helpAsked else .unknownCommand
  | _ => .unknownCommand

/-- What is wrong with a plain word that is neither a command nor a value. -/
def Level.stray (level : Level) : UsageError :=
  if level.takesVerb then .unknownCommand else .unknownArgument

/-- What is wrong with a word after the options were ended. -/
def Level.strayAfterEscape (level : Level) (text : String) : UsageError :=
  if text = "help" ∨ (Verb.ofText? text).isSome then .unknownArgument else level.stray

/-- Reads the words of a level, up to a command if the level takes one. The words after the
command are given with it. -/
def scan (level : Level) (given : Given) :
    List String → Except UsageError (Given × Option (Verb × List String))
  | [] => .ok (given, none)
  | text :: rest =>
      match Word.ofText text, given.pending? with
      | .escape, _ =>
          match rest with
          | [] => .ok (given, none)
          | next :: _ => .error (level.strayAfterEscape next)
      | .long name value?, _ => do scan level (← given.takeLong level name value?) rest
      | .cluster letters, _ => do
          scan level (← letters.foldlM (Given.takeLetter level) given) rest
      | .plain text, some (parameter, none) =>
          scan level { given with pending? := some (parameter, some text) } rest
      | .plain text, _ =>
          if !level.takesVerb then .error level.stray
          else if text = "help" then .error (helpFor rest)
          else
            match Verb.ofText? text with
            | some verb => .ok (given, some (verb, rest))
            | none => .error level.stray

/-- Only a level that takes commands gives one, so nothing is lost where the words after a
command are read. -/
theorem takesVerb_of_scan {level : Level} {given result : Given} {words : List String}
    {chosen : Verb × List String} (found : scan level given words = .ok (result, some chosen)) :
    level.takesVerb = true := by
  induction words generalizing given with
  | nil => simp [scan] at found
  | cons text rest ih =>
      unfold scan at found
      split at found
      · cases rest <;> simp at found
      · rename_i name value? _
        cases taken : given.takeLong level name value? with
        | error problem => simp [taken, bind, Except.bind] at found
        | ok next => exact ih (by simpa [taken, bind, Except.bind] using found)
      · rename_i letters _
        cases taken : letters.foldlM (Given.takeLetter level) given with
        | error problem => simp [taken, bind, Except.bind] at found
        | ok next => exact ih (by simpa [taken, bind, Except.bind] using found)
      · exact ih found
      · cases takes : level.takesVerb with
        | true => rfl
        | false => simp [takes] at found

/-- The command that a verb with its options is. -/
def Command.ofGiven (given : Given) : Verb → Command
  | .create => .create ⟨given.has .force, given.has .interactive⟩
  | .update => .update ⟨given.value? .name, given.value? .description⟩
  | .read => .read
  | .delete => .delete

/-- What two levels of a command line ask for together. -/
def Invocation.ofGiven (outer inner : Given) (verb : Verb) : Invocation :=
  let value (parameter : Parameter) := (inner.value? parameter).or (outer.value? parameter)
  { apiKey := value .apiKey
    baseUrl := value .baseUrl
    config := value .config
    dryRun := inner.has .dryRun || outer.has .dryRun
    verbosity := if inner.has .verbose then inner.verbosity else outer.verbosity
    command := .ofGiven inner verb }

/-- What a command line asks for. Its first word names the program. -/
def Invocation.ofWords (words : List String) : Except UsageError Invocation := do
  let (outer, chosen) ← scan .outer {} (words.drop 1)
  match chosen with
  | none =>
      if (← outer.settle).isEmpty then .error .nothingGiven else .error .missingCommand
  | some (verb, rest) =>
      let (inner, _) ← scan (.inner verb) {} rest
      let inner ← inner.settle
      return .ofGiven (← outer.settle) inner verb

end SignalBoard.CommandLine
