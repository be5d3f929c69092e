import TokenSheet.Calendar

/-!
Dates and times of day, as a document holds them.

A moment is a day, a time of day or both, a time perhaps with an offset from universal time. `fault?` finds the
part that the calendar or the clock does not have; of several the first in this order counts: offset, year, month,
day, hour, minute, second.
-/

namespace TokenSheet

/-- A time of day. -/
structure Clock where
  hour : Nat
  minute : Nat
  second : Nat
  microsecond : Nat
  /-- The offset from universal time in minutes, if it is known. -/
  offset : Option Int
deriving DecidableEq, Repr

/-- A day, a time of day, or both. -/
inductive Moment where
  | day (day : Calendar.Day)
  | time (clock : Clock)
  | both (day : Calendar.Day) (clock : Clock)
deriving DecidableEq, Repr

/-- The part of a moment that is out of range. -/
inductive MomentFault where
  | offset (minutes : Int)
  | year (value : Nat)
  | month
  | day
  | hour
  | minute
  | second
deriving DecidableEq, Repr

namespace Moment

/-- The part of a time of day that is out of range. -/
def clockFault? (c : Clock) : Option MomentFault :=
  if 23 < c.hour then some .hour
  else if 59 < c.minute then some .minute
  else if 59 < c.second then some .second
  else none

/-- The offset of a time of day, if it is a day or more. -/
def offsetFault? (c : Clock) : Option MomentFault :=
  match c.offset with
  | some minutes => if minutes.natAbs < 1440 then none else some (.offset minutes)
  | none => none

/-- The part of a day that is out of range. -/
def dayFault? (d : Calendar.Day) : Option MomentFault :=
  if d.year = 0 then some (.year d.year)
  else if d.month = 0 ∨ 12 < d.month then some .month
  else if d.day = 0 ∨ Calendar.daysIn d.year d.month < d.day then some .day
  else none

/-- The first part that is out of range. -/
def fault? : Moment → Option MomentFault
  | .day d => dayFault? d
  | .time c => (offsetFault? c).or (clockFault? c)
  | .both d c => (offsetFault? c).or ((dayFault? d).or (clockFault? c))

/-- A span of minutes as it is shown: whole days, rounded down, and the seconds that are left. -/
def spanText (minutes : Int) : String :=
  let days := Int.fdiv minutes 1440
  let seconds := Int.fmod minutes 1440 * 60
  let parts := (if days = 0 then [] else ["days=" ++ toString days]) ++
    (if seconds = 0 then [] else ["seconds=" ++ toString seconds])
  "datetime.timedelta(" ++ (if parts.isEmpty then "0" else ", ".intercalate parts) ++ ")"

/-- An offset from universal time as it is shown. -/
def offsetText (minutes : Int) : String :=
  if minutes = 0 then "datetime.timezone.utc"
  else "datetime.timezone(" ++ spanText minutes ++ ")"

/-- The parts of a day as they are shown. -/
def dayParts (d : Calendar.Day) : List String :=
  [d.year, d.month, d.day].map toString

/-- The parts of a time of day as they are shown; zeros at the end are left out. -/
def clockParts (c : Clock) : List String :=
  let numbers :=
    if c.microsecond ≠ 0 then [c.hour, c.minute, c.second, c.microsecond]
    else if c.second ≠ 0 then [c.hour, c.minute, c.second]
    else [c.hour, c.minute]
  numbers.map toString ++ (c.offset.map fun minutes => "tzinfo=" ++ offsetText minutes).toList

/-- The kind of a moment, as it is named in messages. -/
def kind : Moment → String
  | .day _ => "datetime.date"
  | .time _ => "datetime.time"
  | .both .. => "datetime.datetime"

/-- The parts of a moment as they are shown. -/
def parts : Moment → List String
  | .day d => dayParts d
  | .time c => clockParts c
  | .both d c => dayParts d ++ clockParts c

/-- The moment as it is shown in a location. -/
def shown (m : Moment) : String :=
  m.kind ++ "(" ++ ", ".intercalate m.parts ++ ")"

end Moment

/-- What is said about a moment that does not exist. -/
def MomentFault.message : MomentFault → String
  | .offset minutes =>
    "offset must be a timedelta strictly between -timedelta(hours=24) and timedelta(hours=24), not " ++
      Moment.spanText minutes ++ "."
  | .year value => "year " ++ toString value ++ " is out of range"
  | .month => "month must be in 1..12"
  | .day => "day is out of range for month"
  | .hour => "hour must be in 0..23"
  | .minute => "minute must be in 0..59"
  | .second => "second must be in 0..59"

end TokenSheet
