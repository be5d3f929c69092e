import TokenSheet.Number.Digits

/-!
Doubles as text and text as doubles.

`exactText` is the record form: it always shows that the value is a double, and it reads back as the
same double. `plainText` is the form of a stylesheet: integers without a point, negative zero as
zero. `ofDecimal` reads decimal digits with an exponent and gives the nearest double.
-/

namespace TokenSheet.Number

open Binary Digits

/-- How the digits of a number are laid out. -/
structure Layout where
  /-- The least decimal exponent that is written positionally. -/
  positionalFrom : Int
  /-- The first decimal exponent that is written with an exponent again. -/
  positionalBelow : Int
  /-- What follows a whole number in positional form. -/
  wholeMark : String
  /-- The sign of an exponent that is not negative. -/
  plusSign : String
  /-- The least count of digits of an exponent. -/
  exponentDigits : Nat

/-- The record form is positional from 0.0001 up to ten to the sixteenth; a whole number ends in `.0`,
and an exponent has a sign and two digits at least. -/
def recordLayout : Layout := ⟨-4, 16, ".0", "+", 2⟩

/-- The interchange form is positional from 0.00001 on, and its exponents are as short as they can be. -/
def interchangeLayout : Layout := ⟨-5, 16, ".0", "", 1⟩

/-- The exponent part of a number. -/
def exponentText (l : Layout) (e : Int) : String :=
  let ds := digitsOf e.natAbs
  "e" ++ (if e < 0 then "-" else l.plusSign) ++
    String.ofList (List.replicate (l.exponentDigits - ds.length) '0' ++ ds)

/-- Lays out the number `0.ds * 10 ^ point`, for a non-empty list of digits. -/
def layOut (l : Layout) (ds : List Char) (point : Int) : String :=
  let e := point - 1
  if l.positionalFrom ≤ e ∧ e < l.positionalBelow then
    if point ≤ 0 then
      "0." ++ String.ofList (List.replicate (-point).toNat '0' ++ ds)
    else if (ds.length : Int) ≤ point then
      String.ofList (ds ++ List.replicate (point.toNat - ds.length) '0') ++ l.wholeMark
    else
      String.ofList (ds.take point.toNat) ++ "." ++ String.ofList (ds.drop point.toNat)
  else
    let rest := ds.drop 1
    String.ofList (ds.take 1) ++ (if rest.isEmpty then "" else "." ++ String.ofList rest) ++
      exponentText l e

/-- The text of a double in a layout: the fewest digits that read back. -/
def layoutText (l : Layout) (x : Float) : String :=
  match decode x with
  | .notANumber => "nan"
  | .infinite negative => if negative then "-inf" else "inf"
  | .finite negative m e =>
    let sign := if negative then "-" else ""
    if m = 0 then sign ++ layOut l ['0'] 1
    else
      let s := shortest m e
      let ds := digitsOf s.1
      sign ++ layOut l (dropZeros ds) ((ds.length : Int) + s.2)

/-- The record form of a double. -/
def exactText (x : Float) : String :=
  layoutText recordLayout x

/-- The interchange form of a double. -/
def interchangeText (x : Float) : String :=
  layoutText interchangeLayout x

/-- The stylesheet form of a double: integers in full and without a point, zero without a sign. -/
def plainText (x : Float) : String :=
  match integer? x with
  | some n => toString n
  | none => exactText x

/-- The exact value of a double with `places` decimal places. -/
def fixedText (x : Float) (places : Nat) : String :=
  match decode x with
  | .notANumber => "nan"
  | .infinite negative => if negative then "-inf" else "inf"
  | .finite negative m e =>
    let r := ratio m e
    Digits.fixedText negative r.1 r.2 places

/-- The double nearest to `m * 10 ^ e` with a sign. Exponents far outside the range of a double are
answered without computing the power. -/
def ofDecimal (negative : Bool) (m : Nat) (e : Int) : Float :=
  let size : Int := (digitsOf m).length + e
  if m = 0 ∨ size < -400 then nearest negative 0 1
  else if 400 < size then nearest negative (Nat.pow 2 1024) 1
  else if 0 ≤ e then nearest negative (m * Nat.pow 10 e.toNat) 1
  else nearest negative m (Nat.pow 10 (-e).toNat)

end TokenSheet.Number
