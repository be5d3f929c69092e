import TokenSheet.Number.Basic
import TokenSheet.Number.Digits

/-!
Exact rationals as a number type for lengths. Here no step fails, floors and quotients are exact, and a
number whose denominator divides a power of ten is written out in full.
-/

namespace TokenSheet

/-- The least count of decimal places that writes a rational exactly, if there is one. -/
def exactPlaces? (q : Rat) : Option Nat :=
  (List.range (q.den.log2 + 1)).find? fun n => Nat.pow 10 n % q.den = 0

/-- A rational in decimal notation, or as a quotient when no decimal is exact. -/
def rationalText (q : Rat) : String :=
  match exactPlaces? q with
  | some places => Digits.fixedText (decide (q.num < 0)) q.num.natAbs q.den places
  | none => toString q.num ++ "/" ++ toString q.den

instance : Scalar Rat where
  ofInt n := .ok n
  quotient n d := mkRat n d
  floor q := .ok q.floor
  magnitude q := q.abs
  below p q := decide (p < q)
  same p q := p == q
  text := rationalText

end TokenSheet
