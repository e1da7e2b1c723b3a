/-
# Time windows of detectors

The window in which a detector is viewed is relative, a range back from now, or absolute,
between two instants. It is built by settings made one after the other. A range is refused once
the window is absolute, a start or an end once it is relative; the type itself may be set at
any time.
-/

import SignalBoard.Invalid
import SignalBoard.Json.Basic

namespace SignalBoard

/-- The two kinds of time window. -/
inductive TimeKind where
  | relative | absolute
deriving DecidableEq, Repr

/-- The word for a kind of time window. -/
def TimeKind.word : TimeKind → String
  | relative => "relative"
  | absolute => "absolute"

/-- An instant: whole seconds since the epoch, and the nanoseconds after them. In a leap second
the nanoseconds run on beyond the end of the second before it. -/
structure Instant where
  seconds : Int
  nanoseconds : Nat
deriving DecidableEq

namespace Instant

/-- Milliseconds since the epoch, rounded down also before it. -/
def milliseconds (instant : Instant) : Int :=
  instant.seconds * 1000 + (instant.nanoseconds / 1000000 : Nat)

/-- Is one instant no later than another? A leap second comes before the second after it. -/
def upTo (first last : Instant) : Bool :=
  first.seconds < last.seconds ||
    first.seconds = last.seconds && first.nanoseconds ≤ last.nanoseconds

end Instant

/-- A time window; times in milliseconds. -/
structure TimeConfig where
  kind : Option TimeKind := none
  range : Option Nat := none
  start : Option Int := none
  stop : Option Int := none
deriving DecidableEq

namespace TimeConfig

/-- A setting of a window. -/
inductive Setting where
  | kind (kind : TimeKind)
  | range (milliseconds : Nat)
  | start (milliseconds : Int)
  | stop (milliseconds : Int)
deriving DecidableEq

/-- Makes a setting. -/
def set (config : TimeConfig) : Setting → Checked TimeConfig
  | .kind kind => .ok { config with kind := some kind }
  | .range milliseconds => do
      require (config.kind ≠ some .absolute) .rangeOfAbsolute
      return { config with range := some milliseconds }
  | .start milliseconds => do
      require (config.kind ≠ some .relative) .startOfRelative
      return { config with start := some milliseconds }
  | .stop milliseconds => do
      require (config.kind ≠ some .relative) .endOfRelative
      return { config with stop := some milliseconds }

/-- The window that settings make of another one. -/
def build (settings : List Setting) (config : TimeConfig) : Checked TimeConfig :=
  settings.foldlM set config

/-- The absolute window between two instants in order. -/
def absoluteBetween (start stop : Instant) : Checked TimeConfig := do
  require (start.upTo stop) .windowReversed
  build [.kind .absolute, .start start.milliseconds, .stop stop.milliseconds] {}

/-- The document of a window. -/
def document (config : TimeConfig) : Json := .record
  [("type", config.kind.map (.str ·.word)), ("range", config.range.map Json.ofNat),
    ("start", config.start.map .int), ("end", config.stop.map .int)]

end TimeConfig

end SignalBoard
