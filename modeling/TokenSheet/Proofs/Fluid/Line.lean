import TokenSheet.Fluid.Interpolation
import TokenSheet.Proofs.Number.Exact

/-!
The straight line through two points.

An interpolation and a measure of deviation both start from the line through two samples, which does
not depend on their order (`lineAt_swap`). Their slope is the slope of this line (`slope_eq`).
-/

namespace TokenSheet.Fluid

open Scalar

variable {p q narrow wide : Sample Rat}

/-- The value at a width of the straight line through two points. -/
def lineAt (p q : Sample Rat) (width : Rat) : Rat :=
  p.value + (q.value - p.value) / (q.px - p.px) * (width - p.px)

theorem cast_sub_ne_zero (apart : p.px ≠ q.px) : (p.px - q.px : Rat) ≠ 0 :=
  sub_ne_zero.2 fun same => apart (Int.cast_injective same)

theorem lineAt_left (p q : Sample Rat) : lineAt p q p.px = p.value := by
  rw [lineAt, sub_self, mul_zero, add_zero]

theorem lineAt_swap (apart : p.px ≠ q.px) (width : Rat) : lineAt p q width = lineAt q p width := by
  have steep := cast_sub_ne_zero apart
  have steep' := cast_sub_ne_zero apart.symm
  rw [lineAt, lineAt]
  field_simp
  ring

theorem lineAt_right (apart : p.px ≠ q.px) : lineAt p q q.px = q.value := by
  rw [lineAt_swap apart, lineAt_left]

theorem slope_eq :
    slope narrow wide = .ok ((wide.value - narrow.value) / (wide.px - narrow.px)) := by
  rw [← Int.cast_sub]
  rfl

end TokenSheet.Fluid
