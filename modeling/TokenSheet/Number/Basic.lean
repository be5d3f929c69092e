/-!
The arithmetic of lengths.

`Scalar` lists what the rules of a stylesheet ask of a number type, so that every rule is written
once and holds both for machine numbers and for exact rationals. Two steps may fail: an integer may
be too large for the type, and a value may have no integer part. `roundTo` is the one rounding rule
of the library: a half goes up.
-/

namespace TokenSheet

/-- Why a number could not be computed. -/
inductive NumberError where
  /-- An infinity has no integer part. -/
  | infinite
  /-- A value that is not a number has no integer part. -/
  | notANumber
  /-- The integer lies beyond the range of the number type. -/
  | tooLarge
  /-- The power lies beyond the range of the number type. -/
  | powerOverflow
deriving DecidableEq, Repr

/-- The message of a failed computation. -/
def NumberError.message : NumberError → String
  | .infinite => "cannot convert float infinity to integer"
  | .notANumber => "cannot convert float NaN to integer"
  | .tooLarge => "int too large to convert to float"
  | .powerOverflow => "(34, " ++ "'Numerical result out of range')"

/-- A number type that lengths can be computed in. -/
class Scalar (α : Type) extends Add α, Sub α, Mul α, Div α where
  /-- The number equal or nearest to an integer. -/
  ofInt : Int → Except NumberError α
  /-- The number equal or nearest to a quotient of integers. -/
  quotient : Int → Nat → α
  /-- The largest integer that is not above the number. -/
  floor : α → Except NumberError Int
  /-- The absolute value. -/
  magnitude : α → α
  /-- Whether the first number is below the second. -/
  below : α → α → Bool
  /-- Whether the two numbers are equal as numbers. -/
  same : α → α → Bool
  /-- The decimal text of the number. -/
  text : α → String

namespace Scalar

variable {α : Type} [Scalar α]

/-- The number zero. -/
def zero : α := quotient 0 1

/-- One half. -/
def half : α := quotient 1 2

/-- The smaller of two numbers; the first if neither is smaller. -/
def least (a b : α) : α := if below b a then b else a

/-- The larger of two numbers; the first if neither is larger. -/
def greatest (a b : α) : α := if below a b then b else a

/-- Rounds to `places` decimal places; a half goes up, also below zero. -/
def roundTo (x : α) (places : Nat) : Except NumberError α := do
  let factor ← ofInt (Int.pow 10 places)
  let n ← floor (x * factor + half)
  return quotient n (Nat.pow 10 places)

/-- Rounds to a multiple of ten to the power `tens`; a half goes up. -/
def roundToTens (x : α) (tens : Nat) : Except NumberError α := do
  let factor : α := quotient 1 (Nat.pow 10 tens)
  let n ← floor (x * factor + half)
  let whole ← ofInt n
  return whole / factor

/-- Rounds at a decimal position: places behind the point, or tens in front of it when negative. -/
def roundAt (x : α) : Int → Except NumberError α
  | .ofNat places => roundTo x places
  | .negSucc n => roundToTens x (n + 1)

/-- The text of a number rounded to two places, the precision of lengths. -/
def shortText (x : α) : Except NumberError String := do
  return text (← roundTo x 2)

end Scalar

end TokenSheet
