import TokenSheet.Document.Basic
import TokenSheet.Document.Reading
import TokenSheet.Number.Text
import TokenSheet.Text.Numeral
import TokenSheet.Text.Surrogate

/-!
Reading JSON.

`Json.parse` follows the grammar strictly: no byte order mark, no comments, no trailing commas, no raw
control characters in strings. Beyond the grammar it accepts the three literals `NaN`, `Infinity` and
`-Infinity`. A number without fraction and exponent is an integer with a bounded count of digits, any other is
the nearest double, and of several members with one name the last counts. The first fault in the text counts.
-/

namespace TokenSheet.Json

open Text

/-- White space between tokens. -/
def isSpace (c : Char) : Bool :=
  c == ' ' || c == '\t' || c == '\n' || c == '\r'

/-- The text after the white space at its start. -/
def skipSpace (s : List Char) : List Char :=
  s.dropWhile isSpace

/-- The text after a fixed word, if it starts with it. -/
def dropWord? (word : List Char) (s : List Char) : Option (List Char) :=
  if word.isPrefixOf s then some (s.drop word.length) else none

/-- Four hexadecimal digits. -/
def hexUnit? : List Char → Option (Nat × List Char)
  | a :: b :: c :: d :: rest => do
    let a ← hexValue? a
    let b ← hexValue? b
    let c ← hexValue? c
    let d ← hexValue? d
    return (((a * 16 + b) * 16 + c) * 16 + d, rest)
  | _ => none

/-- The character of a numbered escape. Two escapes that form a surrogate pair are one character; half of one stays
alone. -/
def escapedUnit? (s : List Char) : Option (Char × List Char) := do
  let (high, rest) ← hexUnit? s
  if 0xD800 ≤ high ∧ high < 0xDC00 then
    match rest with
    | '\x5c' :: 'u' :: more =>
      match hexUnit? more with
      | some (low, after) =>
        if 0xDC00 ≤ low ∧ low < 0xE000 then
          return (Char.ofNat (0x10000 + (high - 0xD800) * 0x400 + (low - 0xDC00)), after)
        else
          return (ofHalf high, rest)
      | none => return (ofHalf high, rest)
    | _ => return (ofHalf high, rest)
  else if 0xDC00 ≤ high ∧ high < 0xE000 then
    return (ofHalf high, rest)
  else
    return (Char.ofNat high, rest)

/-- The character that an escape letter stands for. -/
def escapedChar? : Char → Option Char
  | '\x22' => some '\x22'
  | '\x5c' => some '\x5c'
  | '/' => some '/'
  | 'b' => some (Char.ofNat 8)
  | 'f' => some (Char.ofNat 12)
  | 'n' => some '\n'
  | 'r' => some '\r'
  | 't' => some '\t'
  | _ => none

/-- The rest of a string after its opening quote, with what follows the closing quote. -/
def string? : Nat → List Char → Option (List Char × List Char)
  | 0, _ => none
  | _ + 1, [] => none
  | fuel + 1, c :: rest =>
    if c = '\x22' then some ([], rest)
    else if c = '\x5c' then
      match rest with
      | 'u' :: more => do
        let (ch, after) ← escapedUnit? more
        let (tail, after) ← string? fuel after
        return (ch :: tail, after)
      | e :: more => do
        let ch ← escapedChar? e
        let (tail, after) ← string? fuel more
        return (ch :: tail, after)
      | [] => none
    else if c.toNat < 0x20 then none
    else do
      let (tail, after) ← string? fuel rest
      return (c :: tail, after)

/-- The digits at the start of a text and what follows them. -/
def digits (s : List Char) : List Char × List Char :=
  splitWhile isDigit s

/-- The digits behind a decimal point, if at least one is there. -/
def fraction (s : List Char) : List Char × List Char :=
  match s with
  | '.' :: rest =>
    let (ds, after) := digits rest
    if ds.isEmpty then ([], s) else (ds, after)
  | _ => ([], s)

/-- The value of an exponent part, if one with at least one digit is there. -/
def exponent? (s : List Char) : Option Int × List Char :=
  match s with
  | c :: rest =>
    if c = 'e' ∨ c = 'E' then
      let (negative, body) := match rest with
        | '-' :: more => (true, more)
        | '+' :: more => (false, more)
        | _ => (false, rest)
      let (ds, after) := digits body
      if ds.isEmpty then (none, s)
      else
        let n : Int := digitsValue ds
        (some (if negative then -n else n), after)
    else
      (none, s)
  | [] => (none, s)

/-- A number: digits without a superfluous zero in front, then perhaps a fraction and an exponent. -/
def number (s : List Char) : Except ReadFault (Number × List Char) := do
  let (negative, body) := match s with
    | '-' :: rest => (true, rest)
    | _ => (false, s)
  let (whole, after) := match body with
    | '0' :: rest => (['0'], rest)
    | _ => digits body
  if whole.isEmpty then throw .malformed
  let (places, afterPlaces) := fraction after
  let (power?, rest) := exponent? afterPlaces
  if places.isEmpty && power?.isNone then
    return (.int (← integerOfDigits negative whole), rest)
  else
    let power := power?.getD 0
    return (.real (TokenSheet.Number.ofDecimal negative (digitsValue (whole ++ places))
      (power - places.length)), rest)

/-- A way to read one value from the start of a text. -/
abbrev Reader := List Char → Except ReadFault (Document × List Char)

/-- The items of a list from the first one on, up to and with the closing bracket. -/
def items (item : Reader) : Nat → List Char → Except ReadFault (List Document × List Char)
  | 0, _ => throw .malformed
  | fuel + 1, s => do
    let (first, after) ← item (skipSpace s)
    match skipSpace after with
    | ',' :: rest => do
      let (others, after) ← items item fuel rest
      return (first :: others, after)
    | ']' :: rest => return ([first], rest)
    | _ => throw .malformed

/-- The name of a member, with the text behind the colon. -/
def name? (bound : Nat) (s : List Char) : Option (List Char × List Char) :=
  match skipSpace s with
  | '\x22' :: rest => do
    let (name, after) ← string? bound rest
    match skipSpace after with
    | ':' :: rest => return (name, skipSpace rest)
    | _ => none
  | _ => none

/-- The members of an object from the first one on, up to and with the closing brace. Names are at most
`bound` characters long. -/
def members (bound : Nat) (item : Reader) :
    Nat → List Char → Except ReadFault (List (Key × Document) × List Char)
  | 0, _ => throw .malformed
  | fuel + 1, s => do
    let (name, rest) ← orMalformed (name? bound s)
    let (value, after) ← item rest
    let entry := (Key.text (String.ofList name), value)
    match skipSpace after with
    | ',' :: rest => do
      let (others, after) ← members bound item fuel rest
      return (entry :: others, after)
    | '\x7d' :: rest => return ([entry], rest)
    | _ => throw .malformed

/-- A scalar that is one of the fixed words. -/
def word? (s : List Char) : Option (Document × List Char) :=
  let words : List (List Char × Document) := [
    ("null".toList, .null),
    ("true".toList, .flag true),
    ("false".toList, .flag false),
    ("NaN".toList, .number (.real (0.0 / 0.0))),
    ("Infinity".toList, .number (.real (1.0 / 0.0))),
    ("-Infinity".toList, .number (.real (-1.0 / 0.0)))]
  words.findSome? fun (word, value) => (dropWord? word s).map fun rest => (value, rest)

/-- One value at the start of a text, nested at most `depth` deep; `bound` is not less than the count of
characters left. -/
def value (bound : Nat) : Nat → Reader
  | 0, _ => throw .malformed
  | depth + 1, s =>
    match s with
    | '\x22' :: rest => do
      let (chars, after) ← orMalformed (string? bound rest)
      return (.text (String.ofList chars), after)
    | '[' :: rest =>
      match skipSpace rest with
      | ']' :: after => .ok (.list [], after)
      | body => do
        let (found, after) ← items (value bound depth) bound body
        return (.list found, after)
    | '\x7b' :: rest =>
      match skipSpace rest with
      | '\x7d' :: after => .ok (.mapping [], after)
      | body => do
        let (entries, after) ← members bound (value bound depth) bound body
        return (.mapping (Document.ofEntries entries), after)
    | _ =>
      match word? s with
      | some found => .ok found
      | none => do
        let (n, after) ← number s
        return (.number n, after)

/-- The document of a JSON text. -/
def parse (s : String) : Except ReadFault Document := do
  let chars := skipSpace s.toList
  let bound := chars.length + 1
  let (found, rest) ← value bound bound chars
  if (skipSpace rest).isEmpty then return found else throw .malformed

end TokenSheet.Json
