import TokenSheet.Document.Basic
import TokenSheet.Document.Reading
import TokenSheet.Number.Double

/-!
The type of an unquoted YAML scalar.

An unquoted scalar is null, a boolean, an integer, a float or a moment if its text has the form of one, and a
text otherwise. The forms are those of the type repository of YAML, version 1.1: `yes` and `off` are booleans, a
leading zero makes an integer octal, colons make a number of base sixty, and a float needs a point. Two more
forms, `<<` and `=`, have a meaning as keys only.

Where the `yaml` library departs from the repository it is followed: single letters such as `y` are texts, a float
that starts with its point has no sign, and a base without digits, as in `0b_`, is a fault.
-/

namespace TokenSheet.Yaml

open Text (isDigit digitsValue valueInBase splitSign hexValue? splitWhile)

/-- The spellings of null; the empty scalar is null too. -/
def nullWords : List String := ["", "~", "null", "Null", "NULL"]

/-- The spellings of true. -/
def trueWords : List String :=
  ["yes", "Yes", "YES", "true", "True", "TRUE", "on", "On", "ON"]

/-- The spellings of false. -/
def falseWords : List String :=
  ["no", "No", "NO", "false", "False", "FALSE", "off", "Off", "OFF"]

/-! ## Numbers -/

/-- Digits and underscores, starting with a digit. -/
def isDigitRun (s : List Char) : Bool :=
  match s with
  | c :: rest => isDigit c && rest.all fun d => isDigit d || d == '_'
  | [] => false

/-- The digits of a run without its underscores. -/
def dropUnderscores (s : List Char) : List Char :=
  s.filter (· != '_')

/-- The parts of a text between colons. -/
def colonParts : List Char → List (List Char)
  | [] => [[]]
  | c :: rest =>
    match colonParts rest with
    | part :: parts => if c = ':' then [] :: part :: parts else (c :: part) :: parts
    | [] => [[c]]

/-- Whether a part may follow a colon in a number of base sixty. -/
def isSixtieth : List Char → Bool
  | [a] => isDigit a
  | [a, b] => '0' ≤ a && a ≤ '5' && isDigit b
  | _ => false

/-- An integer whose base is given in front; underscores count as digits of its form, but not as digits. -/
def basedInteger? (base : Nat) (negative : Bool) (ds : List Char) : Option (Except ReadFault Int) :=
  let isDigitOf := fun c => (hexValue? c).any (· < base) || c == '_'
  if ds.isEmpty || !ds.all isDigitOf then none
  else
    let values := ds.filterMap hexValue?
    some (if values.isEmpty then .error (.noDigits base)
      else .ok (Binary.signed negative (valueInBase base values)))

/-- A decimal integer, perhaps with further parts of base sixty behind colons. -/
def decimalInteger? (negative : Bool) (s : List Char) : Option (Except ReadFault Int) :=
  match colonParts s with
  | first :: rest =>
    if isDigitRun first && first.head? != some '0' && rest.all isSixtieth then
      some (do
        let whole ← integerOfDigits false (dropUnderscores first)
        let n := valueInBase 60 (whole.toNat :: rest.map digitsValue)
        return Binary.signed negative n)
    else none
  | [] => none

/-- An integer: binary, octal, hexadecimal, decimal or of base sixty. -/
def integer? (s : List Char) : Option (Except ReadFault Int) :=
  let (negative, body) := splitSign s
  match body with
  | ['0'] => some (.ok 0)
  | '0' :: 'b' :: ds => basedInteger? 2 negative ds
  | '0' :: 'x' :: ds => basedInteger? 16 negative ds
  | '0' :: _ => basedInteger? 8 negative body
  | _ => decimalInteger? negative body

/-- The exponent of a float, which needs a sign; no exponent is zero. -/
def power? (s : List Char) : Option Int :=
  match s with
  | [] => some 0
  | _ :: sign :: ds =>
    if (sign == '+' || sign == '-') && !ds.isEmpty && ds.all isDigit then
      some (Binary.signed (sign == '-') (digitsValue ds))
    else none
  | _ => none

/-- The double of digits before and behind a point, both perhaps with underscores. -/
def pointed (negative : Bool) (whole places : List Char) (power : Int) : Float :=
  let places := dropUnderscores places
  TokenSheet.Number.ofDecimal negative (digitsValue (dropUnderscores whole ++ places))
    (power - places.length)

/-- A float in decimal notation; without digits in front of the point no sign is allowed. -/
def decimalFloat? (signed negative : Bool) (body : List Char) : Option Float :=
  let (mantissa, tail) := splitWhile (fun c => c != 'e' && c != 'E') body
  let (whole, fraction) := splitWhile (· != '.') mantissa
  let places := fraction.drop 1
  if !fraction.isEmpty && places.all (fun c => isDigit c || c == '_') &&
      (isDigitRun whole || (whole.isEmpty && !signed && isDigitRun places)) then
    (power? tail).map (pointed negative whole places)
  else none

/-- The sum of the parts of a number of base sixty, the last part first; `unit` is what the next part counts. -/
def sixtiethsFrom (unit : Nat) (sum : Float) : List Float → Except ReadFault Float
  | [] => .ok sum
  | x :: rest =>
    match doubleOfInt unit with
    | .ok u => sixtiethsFrom (unit * 60) (sum + x * u) rest
    | .error _ => .error .largeNumber

/-- A float of base sixty: at least two parts between colons, the last one with a point. -/
def sixtiethFloat? (negative : Bool) (body : List Char) : Option (Except ReadFault Float) :=
  let (front, fraction) := splitWhile (· != '.') body
  let places := fraction.drop 1
  match colonParts front with
  | first :: second :: rest =>
    if isDigitRun first && (second :: rest).all isSixtieth && !fraction.isEmpty &&
        places.all (fun c => isDigit c || c == '_') then
      let parts := (first :: second :: rest).reverse
      let values := parts.tail.map fun part => pointed false part [] 0
      let last := pointed false (parts.headD []) places 0
      some ((sixtiethsFrom 1 0 (last :: values)).map fun x => if negative then -x else x)
    else none
  | _ => none

/-- A float. -/
def float? (s : List Char) : Option (Except ReadFault Float) :=
  let (negative, body) := splitSign s
  if [".inf", ".Inf", ".INF"].contains (String.ofList body) then
    some (.ok (if negative then -1.0 / 0.0 else 1.0 / 0.0))
  else if [".nan", ".NaN", ".NAN"].contains (String.ofList s) then some (.ok (0.0 / 0.0))
  else match decimalFloat? (body.length != s.length) negative body with
    | some x => some (.ok x)
    | none => sixtiethFloat? negative body

/-! ## Moments -/

/-- A number of at least `least` and at most `most` digits at the start of a text. -/
def digitsAt? (least most : Nat) (s : List Char) : Option (Nat × List Char) :=
  let ds := (s.take most).takeWhile isDigit
  if least ≤ ds.length then some (digitsValue ds, s.drop ds.length) else none

/-- The text behind a fixed character. -/
def skip? (c : Char) : List Char → Option (List Char)
  | [] => none
  | d :: rest => if d = c then some rest else none

/-- Spaces and tabs at the start of a text are passed over. -/
def skipBlanks (s : List Char) : List Char :=
  s.dropWhile fun c => c == ' ' || c == '\t'

/-- The text behind what stands between a date and a time: one letter, or blanks. -/
def timeOf? (s : List Char) : Option (List Char) :=
  match s with
  | 'T' :: rest => some rest
  | 't' :: rest => some rest
  | _ => if (skipBlanks s).length < s.length then some (skipBlanks s) else none

/-- The digits behind a point as microseconds, further digits being cut off. -/
def microseconds (s : List Char) : Nat × List Char :=
  match s with
  | '.' :: rest =>
    let (ds, after) := splitWhile isDigit rest
    let six := ds.take 6
    (digitsValue (six ++ List.replicate (6 - six.length) '0'), after)
  | _ => (0, s)

/-- An offset from universal time in minutes; none at the end of a text. -/
def offset? (s : List Char) : Option (Option Int) :=
  match s, skipBlanks s with
  | [], _ => some none
  | _, ['Z'] => some (some 0)
  | _, sign :: zone => do
    let (hours, after) ← digitsAt? 1 2 zone
    let (minutes, after) ← match after with
      | ':' :: more => digitsAt? 2 2 more
      | _ => some (0, after)
    if (sign = '+' ∨ sign = '-') ∧ after.isEmpty then
      some (some (Binary.signed (sign == '-') (60 * hours + minutes)))
    else none
  | _, [] => none

/-- A time of day. -/
def clock? (s : List Char) : Option Clock := do
  let (hour, s) ← digitsAt? 1 2 s
  let (minute, s) ← digitsAt? 2 2 (← skip? ':' s)
  let (second, s) ← digitsAt? 2 2 (← skip? ':' s)
  let (microsecond, s) := microseconds s
  return { hour, minute, second, microsecond, offset := ← offset? s }

/-- A date, which may have short months and days only if a time of day follows. -/
def moment? (s : List Char) : Option Moment := do
  let (year, rest) ← digitsAt? 4 4 s
  let (month, rest) ← digitsAt? 1 2 (← skip? '-' rest)
  let (day, rest) ← digitsAt? 1 2 (← skip? '-' rest)
  if rest.isEmpty then
    if s.length = 10 then return .day ⟨year, month, day⟩ else none
  else
    return .both ⟨year, month, day⟩ (← clock? (← timeOf? rest))

/-! ## Scalars -/

/-- Whether an unquoted scalar asks for the entries of other mappings. -/
def isMerge (s : List Char) : Bool := s == ['<', '<']

/-- Whether an unquoted scalar is a lone equals sign. -/
def isEquals (s : List Char) : Bool := s == ['=']

/-- The value of an unquoted scalar. -/
def plainValue (s : List Char) : Except ReadFault Document := do
  let word := String.ofList s
  if isMerge s || isEquals s then throw .malformed
  else if nullWords.contains word then return .null
  else if trueWords.contains word then return .flag true
  else if falseWords.contains word then return .flag false
  else match float? s with
    | some x => return .number (.real (← x))
    | none => match integer? s with
      | some n => return .number (.int (← n))
      | none => match moment? s with
        | some m => match m.fault? with
          | some fault => throw (.moment fault)
          | none => return .moment m
        | none => return .text word

end TokenSheet.Yaml
