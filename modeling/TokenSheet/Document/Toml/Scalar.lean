import TokenSheet.Document.Basic
import TokenSheet.Document.Reading
import TokenSheet.Number.Double

/-!
The scalars of TOML that are no strings: booleans, numbers, dates and times.

Each reader takes the longest scalar of its kind at the start of a text and leaves what follows. Single underscores
may stand between digits.
-/

namespace TokenSheet.Toml

open Text (isDigit digitsValue valueInBase splitSign hexValue?)

/-! ## Numbers -/

/-- The digits of a kind at the start of a text, with single underscores between them. -/
def digitRun (isDigitOf : Char → Bool) : List Char → List Char × List Char
  | [] => ([], [])
  | [c] => if isDigitOf c then ([c], []) else ([], [c])
  | c :: d :: rest =>
    if !isDigitOf c then ([], c :: d :: rest)
    else if d == '_' && rest.head?.any isDigitOf then
      let (ds, after) := digitRun isDigitOf rest
      (c :: ds, after)
    else
      let (ds, after) := digitRun isDigitOf (d :: rest)
      (c :: ds, after)

/-- The base that a letter behind a zero stands for. -/
def baseOf? : Char → Option Nat
  | 'x' => some 16
  | 'o' => some 8
  | 'b' => some 2
  | _ => none

/-- An integer whose base is given in front. -/
def basedInteger? : List Char → Option (Int × List Char)
  | '0' :: mark :: rest => do
    let base ← baseOf? mark
    let (ds, after) := digitRun (fun c => (hexValue? c).any (· < base)) rest
    if ds.isEmpty then none else return (valueInBase base (ds.filterMap hexValue?), after)
  | _ => none

/-- The digits behind a point; none if no digit stands there. -/
def fraction (s : List Char) : List Char × List Char :=
  match s with
  | '.' :: rest =>
    let (ds, after) := digitRun isDigit rest
    if ds.isEmpty then ([], s) else (ds, after)
  | _ => ([], s)

/-- An exponent; nothing if none stands there. -/
def exponent? (s : List Char) : Option (Int × List Char) :=
  match s with
  | mark :: rest =>
    if mark == 'e' || mark == 'E' then
      let (down, body) := splitSign rest
      let (ds, after) := digitRun isDigit body
      if ds.isEmpty then none else some (Binary.signed down (digitsValue ds), after)
    else none
  | [] => none

/-- A decimal integer or a double. -/
def decimal (s : List Char) : Except ReadFault (Number × List Char) := do
  let (negative, body) := splitSign s
  let (whole, rest) := match body with
    | '0' :: rest => (['0'], rest)
    | _ => digitRun isDigit body
  if whole.isEmpty then throw .malformed
  let (places, rest) := fraction rest
  match exponent? rest with
  | none =>
    if places.isEmpty then return (.int (← integerOfDigits negative whole), rest)
    return (.real (TokenSheet.Number.ofDecimal negative (digitsValue (whole ++ places))
      (-(places.length : Int))), rest)
  | some (power, rest) =>
    return (.real (TokenSheet.Number.ofDecimal negative (digitsValue (whole ++ places))
      (power - places.length)), rest)

/-- The doubles that are no finite numbers, by their names. -/
def namedNumber? (s : List Char) : Option (Float × List Char) :=
  let (negative, body) := splitSign s
  if ['i', 'n', 'f'].isPrefixOf body then
    some (if negative then -1.0 / 0.0 else 1.0 / 0.0, body.drop 3)
  else if ['n', 'a', 'n'].isPrefixOf body then some (0.0 / 0.0, body.drop 3)
  else none

/-- A number. -/
def number (s : List Char) : Except ReadFault (Number × List Char) :=
  match namedNumber? s, basedInteger? s with
  | some (x, after), _ => .ok (.real x, after)
  | none, some (n, after) => .ok (.int n, after)
  | none, none => decimal s

/-! ## Moments -/

/-- A number of exactly `count` digits between two bounds at the start of a text. -/
def digits? (count least most : Nat) (s : List Char) : Option (Nat × List Char) :=
  let ds := s.take count
  let n := digitsValue ds
  if ds.length = count ∧ ds.all isDigit ∧ least ≤ n ∧ n ≤ most then some (n, s.drop count) else none

/-- The text behind a fixed character. -/
def behind? (c : Char) (s : List Char) : Option (List Char) :=
  if s.head? = some c then some s.tail else none

/-- A date. -/
def day? (s : List Char) : Option (Calendar.Day × List Char) := do
  let (year, s) ← digits? 4 0 9999 s
  let (month, s) ← digits? 2 1 12 (← behind? '-' s)
  let (day, s) ← digits? 2 1 31 (← behind? '-' s)
  return (⟨year, month, day⟩, s)

/-- The digits behind a point as microseconds, further digits being cut off. -/
def microseconds (s : List Char) : Nat × List Char :=
  match s with
  | '.' :: rest =>
    let (ds, after) := Text.splitWhile isDigit rest
    let six := ds.take 6
    if ds.isEmpty then (0, s) else (digitsValue (six ++ List.replicate (6 - six.length) '0'), after)
  | _ => (0, s)

/-- A time of day without an offset. -/
def clock? (s : List Char) : Option (Clock × List Char) := do
  let (hour, s) ← digits? 2 0 23 s
  let (minute, s) ← digits? 2 0 59 (← behind? ':' s)
  let (second, s) ← digits? 2 0 59 (← behind? ':' s)
  let (microsecond, s) := microseconds s
  return (⟨hour, minute, second, microsecond, none⟩, s)

/-- An offset from universal time in minutes. -/
def offset? (s : List Char) : Option (Int × List Char) := do
  let mark ← s.head?
  if mark == 'Z' || mark == 'z' then return (0, s.tail)
  if mark != '+' && mark != '-' then none
  let (hours, s) ← digits? 2 0 23 s.tail
  let (minutes, s) ← digits? 2 0 59 (← behind? ':' s)
  return (Binary.signed (mark == '-') (60 * hours + minutes), s)

/-- A time of day behind a date, with its offset if it has one. -/
def clockBehind? (s : List Char) : Option (Clock × List Char) := do
  let mark ← s.head?
  if mark != 'T' && mark != 't' && mark != ' ' then none
  let (clock, after) ← clock? s.tail
  match offset? after with
  | some (minutes, after) => return ({ clock with offset := some minutes }, after)
  | none => return (clock, after)

/-- A date, a time of day, or both. -/
def moment? (s : List Char) : Option (Moment × List Char) :=
  match day? s with
  | some (day, after) =>
    match clockBehind? after with
    | some (clock, after) => some (.both day clock, after)
    | none => some (.day day, after)
  | none => (clock? s).map fun c => (.time c.1, c.2)

/-! ## Scalars -/

/-- A boolean. -/
def flag? (s : List Char) : Option (Bool × List Char) :=
  if "true".toList.isPrefixOf s then some (true, s.drop 4)
  else if "false".toList.isPrefixOf s then some (false, s.drop 5)
  else none

/-- A scalar that is no string. A date that the calendar does not have is malformed. -/
def scalar (s : List Char) : Except ReadFault (Document × List Char) :=
  match flag? s, moment? s with
  | some (b, after), _ => .ok (.flag b, after)
  | none, some (m, after) => if m.fault?.isNone then .ok (.moment m, after) else .error .malformed
  | none, none => (number s).map fun n => (.number n.1, n.2)

end TokenSheet.Toml
