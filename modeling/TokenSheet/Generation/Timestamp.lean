import TokenSheet.Calendar
import TokenSheet.Text.Numeral

/-!
Moments in time, as a header shows them.

The written form has a date, a `T` and a time of day; microseconds follow only if there are any, and the offset
from universal time only if it is known. Readers may name the day by its week, and leave out the time, its
smaller parts and the marks between parts.
-/

namespace TokenSheet

open Text (isDigit digitsValue)

/-- A day with a time of day. -/
structure Timestamp where
  day : Calendar.Day
  hour : Nat := 0
  minute : Nat := 0
  second : Nat := 0
  microsecond : Nat := 0
  /-- The offset from universal time in microseconds. -/
  offset : Option Int := none
deriving DecidableEq, Repr

namespace Timestamp

/-- A number with at least `width` digits. -/
def padded (width n : Nat) : String :=
  let ds := Nat.toDigits 10 n
  String.ofList (List.replicate (width - ds.length) '0' ++ ds)

/-- Microseconds as a fraction of a second; nothing if there are none. -/
def fractionText (microsecond : Nat) : String :=
  if microsecond = 0 then "" else "." ++ padded 6 microsecond

/-- The text of an offset. Seconds are left out if they are zero, with their fraction. -/
def offsetText (offset : Int) : String :=
  let n := offset.natAbs
  let seconds := n / 1000000
  (if offset < 0 then "-" else "+") ++
    padded 2 (seconds / 3600) ++ ":" ++ padded 2 (seconds / 60 % 60) ++
    (if n % 60000000 = 0 then "" else
      ":" ++ padded 2 (seconds % 60) ++ fractionText (n % 1000000))

/-- The text of a moment. -/
def text (t : Timestamp) : String :=
  padded 4 t.day.year ++ "-" ++ padded 2 t.day.month ++ "-" ++ padded 2 t.day.day ++ "T" ++
    padded 2 t.hour ++ ":" ++ padded 2 t.minute ++ ":" ++ padded 2 t.second ++
    fractionText t.microsecond ++ ((t.offset.map offsetText).getD "")

/-- A number of exactly `count` digits at the start of a text. -/
def digits? (count : Nat) (s : List Char) : Option (Nat × List Char) :=
  let ds := s.take count
  if ds.length = count ∧ ds.all isDigit then some (digitsValue ds, s.drop count) else none

/-- The text after a mark between the parts of a date, if dates have one. -/
def afterMark? (marked : Bool) (s : List Char) : Option (List Char) :=
  if marked then (if s.head? = some '-' then some s.tail else none) else some s

/-- The day that is written after a year, by its month or by its week; a week alone is its first day. -/
def dayOfYear? (year : Nat) (marked : Bool) : List Char → Option Calendar.Day
  | 'W' :: s => do
    let (week, s) ← digits? 2 s
    if s.isEmpty then
      Calendar.dayOfWeek? year week 1
    else
      let (day, _) ← digits? 1 (← afterMark? marked s)
      Calendar.dayOfWeek? year week day
  | s => do
    let (month, s) ← digits? 2 s
    let (day, s) ← digits? 2 (← afterMark? marked s)
    if s.isEmpty then return ⟨year, month, day⟩ else none

/-- A day of the calendar. -/
def day? (s : List Char) : Option Calendar.Day := do
  let (year, s) ← digits? 4 s
  let marked := s.head? = some '-'
  let day ← dayOfYear? year marked (if marked then s.tail else s)
  if day.isValid then some day else none

/-- The length of the day at the start of a text. After a week a day follows unless the digits from there on
pair up, or, between marks, unless two digits follow the mark. -/
def dayLength (s : List Char) : Nat :=
  if s.length = 7 then 7
  else
    match s.drop 4 with
    | '-' :: 'W' :: _ =>
      if s[8]? = some '-' ∧ !((s[10]?.map isDigit).getD false) then 10 else 8
    | '-' :: _ => 10
    | 'W' :: _ =>
      let digits := ((s.drop 7).takeWhile isDigit).length
      if digits < 2 then 7 + digits else if digits % 2 = 1 then 7 else 8
    | _ => 8

/-- The numbers of a time of day, with the text of a fraction that follows them. -/
structure Parts where
  numbers : List Nat
  fraction : List Char := []
  /-- Whether nothing is left over. -/
  whole : Bool := true
deriving DecidableEq, Repr

/-- The numbers of a time of day, which are two digits each, up to three of them. Colons stand between all of
them or between none; whatever follows the third is a fraction. -/
def parts? (marked : Option Bool) : Nat → List Char → Option Parts
  | 0, s => some { numbers := [], fraction := s }
  | more + 1, s => do
    let (n, s) ← digits? 2 s
    match s with
    | [] => return { numbers := [n] }
    | [_] => return { numbers := [n], whole := false }
    | c :: rest =>
      let colons := marked.getD (c = ':')
      let next : Option Parts :=
        if c = '.' ∨ c = ',' then some { numbers := [], fraction := rest }
        else if !colons then parts? (some false) more s
        else if c = ':' then parts? (some true) more rest
        else none
      return { ← next with numbers := n :: (← next).numbers }

/-- A time of day or a span of time. -/
structure Span where
  hours : Nat
  minutes : Nat
  seconds : Nat
  microseconds : Nat
  /-- Whether nothing is left over. -/
  whole : Bool
deriving DecidableEq, Repr

/-- The digits of a fraction as microseconds, further digits being cut off. -/
def fraction? (s : List Char) : Option Nat :=
  let six := s.take 6
  if six.all isDigit then some (digitsValue (six ++ List.replicate (6 - six.length) '0')) else none

/-- A time of day or a span of time. -/
def span? (s : List Char) : Option Span := do
  let p ← parts? none 3 s
  let n := fun i => p.numbers[i]?.getD 0
  return {
    hours := n 0
    minutes := n 1
    seconds := n 2
    microseconds := ← fraction? p.fraction
    whole := p.whole && (p.fraction.drop 6).all isDigit }

/-- The microseconds of a span. A span of less than a second counts as none. -/
def Span.offset (s : Span) : Nat :=
  let seconds := 3600 * s.hours + 60 * s.minutes + s.seconds
  if seconds = 0 then 0 else 1000000 * seconds + s.microseconds

/-- An offset from universal time of less than a day. -/
def offset? (s : List Char) : Option Int := do
  let (mark, rest) ← s.head?.map fun c => (c, s.tail)
  if mark = 'Z' then
    if rest.isEmpty then return 0 else none
  else
    let span ← span? rest
    if span.whole && span.offset < 86400000000 then
      return if mark = '-' then -(span.offset : Int) else span.offset
    else
      none

/-- Whether a character starts an offset. -/
def isOffsetMark (c : Char) : Bool :=
  c == '+' || c == '-' || c == 'Z'

/-- A time of day, with its offset, on a day. What is left over before an offset is skipped. -/
def at? (day : Calendar.Day) (s : List Char) : Option Timestamp := do
  let time ← span? (s.takeWhile (!isOffsetMark ·))
  let zone := s.dropWhile (!isOffsetMark ·)
  let offset ← if zone.isEmpty then pure none else some <$> offset? zone
  if time.hours < 24 && time.minutes < 60 && time.seconds < 60 && (time.whole || offset.isSome) then
    return ⟨day, time.hours, time.minutes, time.seconds, time.microseconds, offset⟩
  else
    none

/-- The moment of a text. Any character may stand between the day and the time. -/
def parse? (s : String) : Option Timestamp := do
  let s := s.toList
  let length := dayLength s
  let day ← day? (s.take length)
  match s.drop length with
  | [] => return { day }
  | _ :: time => at? day time

end Timestamp

end TokenSheet
