import TokenSheet.Number.Binary

/-!
Decimal digits of doubles.

`shortest` gives the fewest decimal digits that read back as the same double, and among those the
nearest to it. It works on grids: for one digit, two digits and so on it takes the two neighbours of the
value on the decimal grid with that many digits and asks whether one of them lies in the interval of
numbers that round to the double. `fixed` writes a given number of places, rounding the exact value.
-/

namespace TokenSheet.Digits

open Binary

/-- The count of zeros between the point and the first digit of `n / d < 1`, looking at most `fuel`
places far. -/
def leadingZeros (d : Nat) : Nat → Nat → Nat
  | 0, _ => 0
  | fuel + 1, n => if d ≤ n * 10 then 0 else leadingZeros d fuel (n * 10) + 1

/-- The `p` with `10 ^ (p - 1) ≤ n / d < 10 ^ p`. -/
def pointOf (n d : Nat) : Int :=
  if d ≤ n then ((Nat.toDigits 10 (n / d)).length : Int)
  else -((leadingZeros d 400 n : Nat) : Int)

/-- `n / d` measured in units of `10 ^ e`, as a quotient of natural numbers. -/
def inUnits (n d : Nat) (e : Int) : Nat × Nat :=
  if 0 ≤ e then (n, d * Nat.pow 10 e.toNat) else (n * Nat.pow 10 (-e).toNat, d)

/-- The numbers that round to a double: between `low / d` and `high / d`, ends included if `closed`. -/
structure Interval where
  low : Nat
  high : Nat
  scale : Nat
  closed : Bool

/-- The interval of numbers that round to `m * 2 ^ e`. At a power of two the lower neighbour is
twice as near. -/
def roundingInterval (m : Nat) (e : Int) : Interval :=
  let atPower := m = Nat.pow 2 52 ∧ minExponent < e
  let low := if atPower then ratio (4 * m - 1) (e - 2) else ratio (4 * m - 2) (e - 2)
  let high := ratio (4 * m + 2) (e - 2)
  ⟨low.1, high.1, low.2, m % 2 = 0⟩

/-- Whether the grid point `k * 10 ^ e` lies in the interval. -/
def Interval.holds (i : Interval) (k : Nat) (e : Int) : Bool :=
  let p := if 0 ≤ e then (k * Nat.pow 10 e.toNat, 1) else (k, Nat.pow 10 (-e).toNat)
  let point := p.1 * i.scale
  if i.closed then i.low * p.2 ≤ point && point ≤ i.high * p.2
  else i.low * p.2 < point && point < i.high * p.2

/-- The point of the grid of `10 ^ e` that stands for the value `n / d`, if one lies in the interval. -/
def gridPoint (i : Interval) (n d : Nat) (e : Int) : Option Nat :=
  let u := inUnits n d e
  let below := u.1 / u.2
  match i.holds below e, i.holds (below + 1) e with
  | true, true => some (roundHalfEven u.1 u.2)
  | true, false => some below
  | false, true => some (below + 1)
  | false, false => none

/-- The first grid with a hit, trying `count`, `count + 1`, … digits, at most `fuel` grids. -/
def firstGrid (i : Interval) (n d : Nat) (p : Int) : Nat → Nat → Nat × Int
  | 0, count =>
    let u := inUnits n d (p - count)
    (roundHalfEven u.1 u.2, p - count)
  | fuel + 1, count =>
    match gridPoint i n d (p - count) with
    | some k => (k, p - count)
    | none => firstGrid i n d p fuel (count + 1)

/-- The fewest digits that read back as the double `m * 2 ^ e`, for `m` above zero: an integer and the
power of ten that it counts. -/
def shortest (m : Nat) (e : Int) : Nat × Int :=
  let r := ratio m e
  firstGrid (roundingInterval m e) r.1 r.2 (pointOf r.1 r.2) 16 1

/-- The digits of a natural number. -/
def digitsOf (n : Nat) : List Char :=
  Nat.toDigits 10 n

/-- The digits without the zeros at the end. -/
def dropZeros (ds : List Char) : List Char :=
  (ds.reverse.dropWhile (· == '0')).reverse

/-- The text of the exact value `n / d` with `places` decimal places, an exact half to the even digit. -/
def fixedText (negative : Bool) (n d places : Nat) : String :=
  let scaled := roundHalfEven (n * Nat.pow 10 places) d
  let whole := scaled / Nat.pow 10 places
  let part := digitsOf (scaled % Nat.pow 10 places)
  let sign := if negative then "-" else ""
  let fraction := String.ofList (List.replicate (places - part.length) '0' ++ part)
  sign ++ toString whole ++ (if places = 0 then "" else "." ++ fraction)

end TokenSheet.Digits
