import Mathlib.Algebra.Order.Round
import Mathlib.Data.Rat.Floor
import Mathlib.Tactic.FieldSimp
import Mathlib.Tactic.Linarith
import Mathlib.Tactic.Positivity
import Mathlib.Tactic.Ring
import TokenSheet.Number.Exact

/-!
The rules of lengths over exact rationals.

Over the rationals no step of a computation fails, and each of them is the operation of the field or
of its order. Rounding to decimal places keeps the order, and its error is half a unit of the last
place at most (`abs_rounded_sub_le`).
-/

namespace TokenSheet.Exact

open Scalar

/-- A rational rounded to decimal places; a half goes up. -/
def rounded (places : Nat) (x : Rat) : Rat := ⌊x * 10 ^ places + 1 / 2⌋ / 10 ^ places

variable (x y : Rat) (places : Nat)

theorem zero_eq : (zero : Rat) = 0 := rfl

theorem half_eq : (half : Rat) = 1 / 2 := by
  change mkRat 1 2 = 1 / 2
  norm_num

theorem quotient_eq (n : Int) (d : Nat) : (quotient n d : Rat) = n / d := Rat.mkRat_eq_div n d

theorem magnitude_eq : magnitude x = |x| := by
  change (if 0 ≤ x then x else -x) = |x|
  split
  · rename_i nonneg
    exact (abs_of_nonneg nonneg).symm
  · rename_i neg
    exact (abs_of_neg (not_le.1 neg)).symm

theorem least_eq : least x y = min x y := by
  change (if decide (y < x) = true then y else x) = min x y
  rw [min_comm, min_def_lt]
  simp only [decide_eq_true_eq]

theorem greatest_eq : greatest x y = max x y := by
  change (if decide (x < y) = true then y else x) = max x y
  rw [max_def_lt]
  simp only [decide_eq_true_eq]

theorem roundTo_eq : roundTo x places = .ok (rounded places x) := by
  change Except.ok (quotient (Rat.floor (x * ((Int.pow 10 places : Int) : Rat) + half))
    (Nat.pow 10 places)) = _
  have factor : ((Int.pow 10 places : Int) : Rat) = 10 ^ places := by
    change (((10 : Int) ^ places : Int) : Rat) = 10 ^ places
    push_cast
    rfl
  have unit : ((Nat.pow 10 places : Nat) : Rat) = 10 ^ places := by
    change (((10 : Nat) ^ places : Nat) : Rat) = 10 ^ places
    push_cast
    rfl
  rw [quotient_eq, half_eq, factor, unit]
  rfl

theorem rounded_eq_round : rounded places x = round (x * 10 ^ places) / 10 ^ places := by
  rw [rounded, round_eq]

/-- Rounding is off by half a unit of the last place at most. -/
theorem abs_rounded_sub_le : |rounded places x - x| ≤ 1 / 2 / 10 ^ places := by
  have unit : (0 : Rat) < 10 ^ places := by positivity
  have scaled : rounded places x - x = (round (x * 10 ^ places) - x * 10 ^ places) / 10 ^ places := by
    rw [rounded_eq_round, sub_div, mul_div_cancel_right₀ _ unit.ne']
  rw [scaled, abs_div, abs_of_pos unit, abs_sub_comm]
  exact div_le_div_of_nonneg_right (abs_sub_round _) unit.le

theorem rounded_mono : Monotone (rounded places) := by
  intro x y le
  have unit : (0 : Rat) < 10 ^ places := by positivity
  refine div_le_div_of_nonneg_right (Int.cast_le.2 (Int.floor_mono ?_)) unit.le
  exact add_le_add_left (mul_le_mul_of_nonneg_right le unit.le) _

end TokenSheet.Exact
