/-
# Days and times in TOML texts

A date-time is a day of the Gregorian calendar, a time of the day, or both; with both it may
have a distance from Greenwich. Seconds may be missing. It is written in one form whatever form
it was read in: with a capital `T` and a capital `Z`, and with at most nine digits after the
point, no zero at their end.
-/

import SignalBoard.Number.Text
import SignalBoard.Toml.Line

namespace SignalBoard.Toml

/-- A number in exactly so many digits, and what comes after them. -/
def readDigits? (count : Nat) (cs : List Char) : Option (Nat × List Char) :=
  let digits := cs.take count
  if digits.length = count && digits.all Char.isDigit then
    some (digitsValue digits, cs.drop count)
  else none

/-- The digits of a number with zeros in front, up to a width. -/
def padded (width n : Nat) : List Char :=
  List.replicate (width - (natText n).length) '0' ++ natText n

/-- A day of the Gregorian calendar. -/
structure Day where
  year : Nat
  month : Nat
  day : Nat
deriving DecidableEq, Repr

/-- Does the year have a twenty-ninth of February? -/
def isLeapYear (year : Nat) : Bool := year % 4 = 0 && (year % 100 ≠ 0 || year % 400 = 0)

/-- How many days a month has. -/
def daysInMonth (year month : Nat) : Nat :=
  if month = 2 then (if isLeapYear year then 29 else 28)
  else if month ∈ [4, 6, 9, 11] then 30
  else 31

namespace Day

/-- Does the calendar have the day? -/
def isReal (day : Day) : Bool :=
  1 ≤ day.month && day.month ≤ 12 && 1 ≤ day.day && day.day ≤ daysInMonth day.year day.month

/-- A day at the start of a text. -/
def read? (cs : List Char) : Option (Day × List Char) := do
  let (year, cs) ← readDigits? 4 cs
  let (month, cs) ← readDigits? 2 (← after? '-' cs)
  let (number, cs) ← readDigits? 2 (← after? '-' cs)
  let day : Day := ⟨year, month, number⟩
  if day.isReal then some (day, cs) else none

/-- The text of a day. -/
def text (day : Day) : List Char :=
  padded 4 day.year ++ '-' :: padded 2 day.month ++ '-' :: padded 2 day.day

end Day

/-- The seconds of a time of the day. -/
structure Seconds where
  whole : Nat
  /-- The nanoseconds beyond the whole seconds, if a fraction was given. -/
  nanoseconds? : Option Nat
deriving DecidableEq, Repr

/-- A time of the day. -/
structure Clock where
  hour : Nat
  minute : Nat
  seconds? : Option Seconds
deriving DecidableEq, Repr

/-- The nanoseconds that the digits after the point denote. Digits beyond the ninth are
dropped. -/
def nanosecondsOf (digits : List Char) : Nat :=
  digitsValue (digits.take 9) * tenTo (9 - digits.length)

/-- The digits after the point for nanoseconds; a zero stands alone. -/
def nanosecondsText (nanoseconds : Nat) : List Char :=
  match ((padded 9 nanoseconds).reverse.dropWhile (· = '0')).reverse with
  | [] => ['0']
  | digits => digits

namespace Seconds

/-- The seconds that may follow the minutes of a time. A minute may have a leap second. -/
def read? : List Char → Option (Option Seconds × List Char)
  | ':' :: rest => do
      let (whole, rest) ← readDigits? 2 rest
      if 60 < whole then none
      else
        match rest with
        | '.' :: more =>
            let digits := more.takeWhile Char.isDigit
            if digits.isEmpty then none
            else some (some ⟨whole, some (nanosecondsOf digits)⟩, more.dropWhile Char.isDigit)
        | rest => some (some ⟨whole, none⟩, rest)
  | rest => some (none, rest)

/-- The text of seconds after the minutes. -/
def text (seconds : Seconds) : List Char :=
  let fraction := match seconds.nanoseconds? with
    | some nanoseconds => '.' :: nanosecondsText nanoseconds
    | none => []
  ':' :: padded 2 seconds.whole ++ fraction

end Seconds

/-- Hours and minutes within a day, with a colon between them. -/
def readMinutes? (cs : List Char) : Option ((Nat × Nat) × List Char) := do
  let (hour, cs) ← readDigits? 2 cs
  let (minute, cs) ← readDigits? 2 (← after? ':' cs)
  if hour ≤ 23 && minute ≤ 59 then some ((hour, minute), cs) else none

/-- The text of hours and minutes. -/
def minutesText (hour minute : Nat) : List Char := padded 2 hour ++ ':' :: padded 2 minute

namespace Clock

/-- A time of the day at the start of a text. -/
def read? (cs : List Char) : Option (Clock × List Char) := do
  let ((hour, minute), cs) ← readMinutes? cs
  let (seconds?, cs) ← Seconds.read? cs
  return (⟨hour, minute, seconds?⟩, cs)

/-- The text of a time of the day. -/
def text (clock : Clock) : List Char :=
  minutesText clock.hour clock.minute ++ (clock.seconds?.map Seconds.text).getD []

end Clock

/-- A distance from Greenwich. -/
inductive Offset where
  /-- None, as it is written with a letter. -/
  | zulu
  /-- So many minutes, eastwards. -/
  | minutes (minutes : Int)
deriving DecidableEq, Repr

namespace Offset

/-- The distance that may end a date-time, and nothing else. -/
def read? : List Char → Option (Option Offset)
  | [] => some none
  | ['Z'] | ['z'] => some (some .zulu)
  | sign :: rest => do
      let ((hour, minute), rest) ← readMinutes? rest
      let distance : Int := hour * 60 + minute
      if !rest.isEmpty then none
      else if sign = '+' then some (some (.minutes distance))
      else if sign = '-' then some (some (.minutes (-distance)))
      else none

/-- The text of a distance. There is no negative zero. -/
def text : Offset → List Char
  | zulu => ['Z']
  | minutes distance =>
      (if distance < 0 then '-' else '+') ::
        minutesText (distance.natAbs / 60) (distance.natAbs % 60)

end Offset

/-- A day, a time of the day, or both. -/
inductive DateTime where
  | dayOnly (day : Day)
  | clockOnly (clock : Clock)
  | both (day : Day) (clock : Clock) (offset? : Option Offset)
deriving DecidableEq, Repr

namespace DateTime

/-- The date-time that a word denotes. Between day and time there is a letter or a space. -/
def ofWord? (word : List Char) : Option DateTime :=
  match Day.read? word with
  | some (day, []) => some (.dayOnly day)
  | some (day, mark :: rest) => do
      if mark ∈ ['T', 't', ' '] then
        let (clock, rest) ← Clock.read? rest
        return .both day clock (← Offset.read? rest)
      else none
  | none =>
      match Clock.read? word with
      | some (clock, []) => some (.clockOnly clock)
      | _ => none

/-- The text of a date-time. -/
def text : DateTime → List Char
  | dayOnly d => d.text
  | clockOnly c => c.text
  | both d c offset? => d.text ++ 'T' :: c.text ++ (offset?.map Offset.text).getD []

end DateTime

end SignalBoard.Toml
