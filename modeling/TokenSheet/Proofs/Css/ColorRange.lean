import TokenSheet.Css.Color
import TokenSheet.Proofs.Number.Magnitude

/-!
Colors are written whatever their channels are, within bounds.

A channel is multiplied by 255 and rounded, an opacity by 255 or 100. The polar notation also takes
powers and an angle, which the machine's library computes; `PolarLibrary` says how large those may
become.
-/

namespace TokenSheet.Css

open Binary (IsBelow IsAtLeastOne)
open Scalar

/-- Whether an opacity is less than `2 ^ k` in size. -/
def Alpha.Within (k : Nat) : Alpha Float → Prop
  | .whole n => n.natAbs < 2 ^ k
  | .part x => IsBelow k x

section
variable {k : Nat}

/-- Rounding to an integer, a half up. -/
theorem floor_add_half_returns {x : Float} (h : IsBelow k x) (range : k ≤ 960) :
    Returns (floor (x + half) : Except NumberError Int) := by
  have one : IsBelow 0 (half : Float) := by decide +kernel
  exact (h.add (one.mono (Nat.zero_le _)) (by omega)).floor

theorem Alpha.Within.inUnits {a : Alpha Float} (h : a.Within k) (range : k ≤ 900) {n : Int}
    (small : n.natAbs < 2 ^ 8) : Returns (a.inUnits n) := by
  cases a with
  | whole m =>
      have product : (m * n).natAbs < 2 ^ (k + 8) := by
        rw [Int.natAbs_mul, Nat.pow_add]
        exact Nat.mul_lt_mul'' h small
      have units : (ofInt (m * n) : Except NumberError Float) = .ok _ :=
        Binary.doubleOfInt_eq_ok product (by omega)
      unfold Alpha.inUnits
      dsimp only
      rw [units, ok_bind]
      exact floor_add_half_returns (Binary.ofQuotient_one product (by omega)).1 (by omega)
  | part x =>
      have units : (ofInt n : Except NumberError Float) = .ok _ :=
        Binary.doubleOfInt_eq_ok small (by omega)
      have factor := (Binary.ofQuotient_one small (by omega)).1
      unfold Alpha.inUnits
      dsimp only
      rw [units, ok_bind]
      exact floor_add_half_returns (h.mul factor (by omega)) (by omega)

theorem channelByte_returns {x : Float} (h : IsBelow k x) (range : k ≤ 900) :
    Returns (channelByte x) :=
  Alpha.Within.inUnits (a := .part x) h range (by decide)

section
variable {red green blue : Float} {alpha : Option (Alpha Float)}

theorem hexColor_returns (hr : IsBelow k red) (hg : IsBelow k green) (hb : IsBelow k blue)
    (ha : ∀ a, alpha = some a → a.Within k) (range : k ≤ 900) :
    Returns (hexColor red green blue alpha) := by
  unfold hexColor
  refine (channelByte_returns hr range).bind fun r _ => ?_
  refine (channelByte_returns hg range).bind fun g _ => ?_
  refine (channelByte_returns hb range).bind fun b _ => ?_
  dsimp only
  split
  · exact returns_pure _
  · rename_i a shown
    have within := ha a (Option.filter_eq_some_iff.1 shown).1
    exact (within.inUnits range (by decide)).map _

end

/-! ## Polar notation -/

/-- What the polar notation relies on: how large the powers and the angles of the machine's library
become. A number below `2 ^ k` has a power with exponent 2.4 below `2 ^ (3 * k)`, and a cube root
that is no larger than the number or one; an angle is four at most. -/
structure PolarLibrary : Prop where
  intensity (k : Nat) (c : Float) (small : IsBelow k c) (range : k ≤ 300) (light : ¬ c ≤ 0.04045) :
    IsBelow (3 * k + 3) (Float.pow ((c + 0.055) / 1.055) 2.4)
  root (k : Nat) (y : Float) (small : IsBelow k y) : IsBelow (k + 1) (Float.pow y.abs (1.0 / 3.0))
  angle (k : Nat) (x z : Float) (horizontal : IsBelow k x) (vertical : IsBelow k z) :
    IsBelow 2 (Float.atan2 z x)

variable (library : PolarLibrary)
include library

theorem linearChannel_eq_ok {c : Float} (h : IsBelow k c) (range : k ≤ 150) :
    ∃ r, linearChannel c = .ok r ∧ IsBelow (3 * k + 3) r := by
  unfold linearChannel
  split
  · have large : IsAtLeastOne 12.92 := by decide +kernel
    exact ⟨_, rfl, (h.div large (by omega)).mono (by omega)⟩
  · rename_i light
    have power := library.intensity k c h (by omega) light
    refine ⟨_, ?_, power⟩
    obtain ⟨negative, m, e, value⟩ := power.finite
    unfold powerOf Binary.isFinite
    dsimp only
    rw [value]
    simp

theorem signedCubeRoot_isBelow {y : Float} (h : IsBelow k y) (range : k ≤ 900) :
    IsBelow (k + 1) (signedCubeRoot y) := by
  have root := library.root k y h
  unfold signedCubeRoot
  dsimp only
  split
  · exact root.neg (by omega)
  · exact root

theorem hueOf_isBelow {x z : Float} (hx : IsBelow k x) (hz : IsBelow k z) :
    IsBelow 13 (hueOf x z) := by
  have degrees : IsBelow 6 (180.0 / circleConstant) := by decide +kernel
  have turn : IsBelow 9 360.0 := by decide +kernel
  have angle := (library.angle k x z hx hz).mul degrees (by omega)
  have turned : IsBelow 11 (Float.atan2 z x * (180.0 / circleConstant) + 360.0) :=
    angle.add turn (by omega)
  unfold hueOf
  dsimp only
  split
  · exact turned.sub (turn.mono (by omega)) (by omega)
  · exact turned.mono (by omega)

theorem polar_returns {red green blue : Float} (hr : IsBelow k red) (hg : IsBelow k green)
    (hb : IsBelow k blue) (range : k ≤ 150) : Returns (polar red green blue) := by
  obtain ⟨r, red', hr⟩ := linearChannel_eq_ok library hr range
  obtain ⟨g, green', hg⟩ := linearChannel_eq_ok library hg range
  obtain ⟨b, blue', hb⟩ := linearChannel_eq_ok library hb range
  -- A sum of the three intensities, each with a weight below one.
  have mixed (p q s : Float) (hp : IsBelow 0 p) (hq : IsBelow 0 q) (hs : IsBelow 0 s) :
      IsBelow (3 * k + 8) (p * r + q * g + s * b) := by
    have first := (hp.mul hr (by omega)).add (hq.mul hg (by omega)) (by omega)
    have last := (hs.mul hb (by omega)).mono (Nat.le_add_right _ 2)
    exact (first.add last (by omega)).mono (by omega)
  have hx := mixed 0.4124564 0.3575761 0.1804375 (by decide +kernel) (by decide +kernel)
    (by decide +kernel)
  have hy := mixed 0.2126729 0.7151522 0.0721750 (by decide +kernel) (by decide +kernel)
    (by decide +kernel)
  have hz := mixed 0.0193339 0.1191920 0.9503041 (by decide +kernel) (by decide +kernel)
    (by decide +kernel)
  have scale : IsBelow 0 0.4 := by decide +kernel
  have lightness := signedCubeRoot_isBelow library hy (by omega)
  have chroma := (hx.sqrt_add_squares hz (by omega)).mul scale (by omega)
  have hue := hueOf_isBelow library hx hz
  unfold polar
  rw [red', ok_bind, green', ok_bind, blue', ok_bind]
  refine (lightness.roundTo (by omega)).bind fun l _ => ?_
  refine (chroma.roundTo (by omega)).bind fun c _ => ?_
  exact (hue.roundTo (by omega)).map _

theorem polarColor_returns {red green blue : Float} {alpha : Option (Alpha Float)}
    (hr : IsBelow k red) (hg : IsBelow k green) (hb : IsBelow k blue)
    (ha : ∀ a, alpha = some a → a.Within k) (range : k ≤ 150) :
    Returns (polarColor red green blue alpha) := by
  unfold polarColor
  refine (polar_returns library hr hg hb range).bind fun color _ => ?_
  obtain ⟨lightness, chroma, hue⟩ := color
  dsimp only
  split
  · exact returns_pure _
  · rename_i a shown
    have within := ha a (Option.filter_eq_some_iff.1 shown).1
    exact (within.inUnits (by omega) (by decide)).map _

end

end TokenSheet.Css
