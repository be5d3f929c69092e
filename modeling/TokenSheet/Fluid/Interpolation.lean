import TokenSheet.Css.Value

/-!
Interpolation between two widths.

A value that is known at two widths is written as a line between them, kept inside the two values. The
line is `intercept + slope * width`; the slope is written in hundredths of the viewport width with four
decimal places and everything else with two. Equal values, or equal widths, leave a plain quantity.
-/

namespace TokenSheet.Fluid

open Css (Value Preferred)

/-- A value at a width in pixels. -/
structure Sample (α : Type) where
  px : Int
  value : α

variable {α : Type} [Scalar α]

open Scalar

/-- The slope of the line from a narrow to a wide point. -/
def slope (narrow wide : Sample α) : Except NumberError α := do
  return (wide.value - narrow.value) / (← ofInt (wide.px - narrow.px))

/-- The middle term for a line, its fixed part already rounded. -/
def preferred (intercept perHundred : α) : Preferred α :=
  if below intercept zero then .slopeFirst perHundred (magnitude intercept)
  else .interceptFirst intercept perHundred

/-- The interpolation from a narrow to a wide point. -/
def between (narrow wide : Sample α) (unit : String) : Except NumberError (Value α) :=
  if same wide.value narrow.value || wide.px == narrow.px then do
    return .quantity (← roundTo wide.value 2) unit
  else do
    let m ← slope narrow wide
    let intercept := narrow.value - m * (← ofInt narrow.px)
    let perHundred ← roundTo (m * quotient 100 1) 4
    let offset ← roundTo intercept 2
    let lower ← roundTo (least narrow.value wide.value) 2
    let upper ← roundTo (greatest narrow.value wide.value) 2
    return .clamp lower (preferred offset perHundred) upper unit

/-- The interpolation between two points in any order. -/
def linearClamp (p q : Sample α) (unit : String) : Except NumberError (Value α) :=
  if q.px ≤ p.px then between q p unit else between p q unit

/-- A value as wide as the viewport, up to a limit. -/
def viewportCapped (limit : α) (unit : String) : Except NumberError (Value α) := do
  return .viewportCapped (← roundTo limit 2) unit

end TokenSheet.Fluid
