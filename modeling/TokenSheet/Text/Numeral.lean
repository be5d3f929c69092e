/-!
Digits and numerals: the value of a run of digits, hexadecimal digits, a sign in front and single
underscores between digits.
-/

namespace TokenSheet.Text

/-- Decimal digits. -/
def isDigit (c : Char) : Bool :=
  '0' ≤ c && c ≤ '9'

/-- The value of a run of digits in a base, each digit valued by its own value. -/
def valueInBase (base : Nat) (ds : List Nat) : Nat :=
  ds.foldl (fun n d => base * n + d) 0

/-- The value of a run of decimal digits. -/
def digitsValue (ds : List Char) : Nat :=
  valueInBase 10 (ds.map fun d => d.toNat - 48)

/-- The value of a hexadecimal digit. -/
def hexValue? (c : Char) : Option Nat :=
  if isDigit c then some (c.toNat - 48)
  else if 'a' ≤ c && c ≤ 'f' then some (c.toNat - 87)
  else if 'A' ≤ c && c ≤ 'F' then some (c.toNat - 55)
  else none

/-- Splits a sign off: whether it is a minus sign, and the rest. -/
def splitSign : List Char → Bool × List Char
  | '-' :: rest => (true, rest)
  | '+' :: rest => (false, rest)
  | s => (false, s)

/-- Removes single underscores that stand between two digits; nothing if one stands elsewhere. -/
def joinDigits? : List Char → Option (List Char)
  | [] => some []
  | [c] => if c = '_' then none else some [c]
  | c :: d :: rest =>
    if c = '_' then none
    else if d = '_' then
      match rest with
      | e :: _ => if isDigit c && isDigit e then (joinDigits? rest).map (c :: ·) else none
      | [] => none
    else
      (joinDigits? (d :: rest)).map (c :: ·)

/-- The characters at the start that satisfy a condition, and what follows them. -/
def splitWhile (p : Char → Bool) (s : List Char) : List Char × List Char :=
  (s.takeWhile p, s.dropWhile p)

end TokenSheet.Text
