/-!
Double-precision numbers as exact values.

A finite double is a sign with `mantissa * 2 ^ exponent` (`decode`), and `nearest` is the way back: the
double nearest to a quotient of integers, an exact half going to the even mantissa. All other
exact work on doubles (floors, rounding to integers, decimal digits) is done on the decoded value.
-/

namespace TokenSheet.Binary

/-- The exact value of a double. -/
inductive Value where
  | finite (negative : Bool) (mantissa : Nat) (exponent : Int)
  | infinite (negative : Bool)
  | notANumber
deriving DecidableEq, Repr

/-- The least exponent of a finite double. -/
def minExponent : Int := -1074

/-- Reads the fields of a double. -/
def decode (x : Float) : Value :=
  let bits := x.toBits.toNat
  let negative := bits / Nat.pow 2 63 % 2 = 1
  let exponentField := bits / Nat.pow 2 52 % Nat.pow 2 11
  let fraction := bits % Nat.pow 2 52
  if exponentField = 2047 then
    if fraction = 0 then .infinite negative else .notANumber
  else if exponentField = 0 then
    .finite negative fraction minExponent
  else
    .finite negative (Nat.pow 2 52 + fraction) (minExponent + (exponentField - 1 : Nat))

/-- The quotient rounded to an integer, an exact half to the even neighbour. -/
def roundHalfEven (n d : Nat) : Nat :=
  let q := n / d
  let twice := 2 * (n % d)
  if twice < d then q
  else if d < twice then q + 1
  else if q % 2 = 0 then q else q + 1

/-- `n / d` divided by `2 ^ e`, as a quotient of natural numbers. -/
def scaleDown (n d : Nat) (e : Int) : Nat × Nat :=
  if 0 ≤ e then (n, d * Nat.pow 2 e.toNat) else (n * Nat.pow 2 (-e).toNat, d)

/-- The exponent at which `n / d` has a mantissa of 53 binary digits, or the least exponent. -/
def mantissaExponent (n d : Nat) : Int :=
  let guess : Int := (n.log2 : Int) - d.log2 - 53
  let scaled := scaleDown n d guess
  max minExponent (if Nat.pow 2 53 * scaled.2 ≤ scaled.1 then guess + 1 else guess)

/-- The bits of the double nearest to `n / d`; those of an infinity beyond the range. -/
def nearestBits (n d : Nat) : Nat :=
  if n = 0 then 0
  else
    let e := mantissaExponent n d
    let scaled := scaleDown n d e
    let bits := (e - minExponent).toNat * Nat.pow 2 52 + roundHalfEven scaled.1 scaled.2
    min bits (2047 * Nat.pow 2 52)

/-- The double nearest to `n / d` with the given sign. -/
def nearest (negative : Bool) (n d : Nat) : Float :=
  Float.ofBits (UInt64.ofNat ((if negative then Nat.pow 2 63 else 0) + nearestBits n d))

/-- The double nearest to a quotient of integers. -/
def ofQuotient (n : Int) (d : Nat) : Float :=
  nearest (decide (n < 0)) n.natAbs d

/-- The value `mantissa * 2 ^ exponent` as a quotient of natural numbers. -/
def ratio (mantissa : Nat) (exponent : Int) : Nat × Nat :=
  if 0 ≤ exponent then (mantissa * Nat.pow 2 exponent.toNat, 1) else (mantissa, Nat.pow 2 (-exponent).toNat)

/-- A natural number with a sign. -/
def signed (negative : Bool) (n : Nat) : Int :=
  if negative then -(n : Int) else n

/-- The largest integer that is not above the value; nothing for infinities and non-numbers. -/
def floor? (x : Float) : Option Int :=
  match decode x with
  | .finite negative m e =>
    let r := ratio m e
    some (Int.fdiv (signed negative r.1) r.2)
  | _ => none

/-- The nearest integer, an exact half to the even neighbour. -/
def round? (x : Float) : Option Int :=
  match decode x with
  | .finite negative m e =>
    let r := ratio m e
    some (signed negative (roundHalfEven r.1 r.2))
  | _ => none

/-- The value as an integer, if it is one. -/
def integer? (x : Float) : Option Int :=
  match decode x with
  | .finite negative m e =>
    let r := ratio m e
    if r.1 % r.2 = 0 then some (signed negative (r.1 / r.2)) else none
  | _ => none

/-- Whether the value is finite. -/
def isFinite (x : Float) : Bool :=
  match decode x with
  | .finite .. => true
  | _ => false

end TokenSheet.Binary
