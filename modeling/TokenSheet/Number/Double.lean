import TokenSheet.Number.Basic
import TokenSheet.Number.Text

/-!
Doubles as a number type for lengths: the machine's arithmetic, exact floors and correctly rounded
conversions, and the stylesheet form as text.
-/

namespace TokenSheet

/-- The double nearest to an integer, if it is finite. -/
def doubleOfInt (n : Int) : Except NumberError Float :=
  let x := Binary.ofQuotient n 1
  if Binary.isFinite x then .ok x else .error .tooLarge

/-- The error for a value without an integer part. -/
def noInteger (x : Float) : NumberError :=
  match Binary.decode x with
  | .notANumber => .notANumber
  | _ => .infinite

/-- The largest integer that is not above a double. -/
def doubleFloor (x : Float) : Except NumberError Int :=
  match Binary.floor? x with
  | some n => .ok n
  | none => .error (noInteger x)

/-- The integer nearest to a double, an exact half to the even neighbour. -/
def doubleRound (x : Float) : Except NumberError Int :=
  match Binary.round? x with
  | some n => .ok n
  | none => .error (noInteger x)

instance : Scalar Float where
  ofInt := doubleOfInt
  quotient := Binary.ofQuotient
  floor := doubleFloor
  magnitude := Float.abs
  below x y := decide (x < y)
  same x y := x == y
  text := Number.plainText

end TokenSheet
