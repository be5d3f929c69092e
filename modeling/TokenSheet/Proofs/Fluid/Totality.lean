import TokenSheet.Fluid.Deviation
import TokenSheet.Proofs.Number.Magnitude

/-!
Rendering and interpolation return.

A number is rounded after it is multiplied by a power of ten, and an interpolation is computed from
differences of numbers, divided by a difference of widths and multiplied by a width. None of this
leaves the range of a double as long as numbers below `2 ^ k` and widths below `2 ^ b` are given and
`k + b` is at most 900.
-/

namespace TokenSheet

open Binary (IsBelow IsAtLeastOne)
open Scalar

/-! ## Interpolation -/

/-- A value below `2 ^ k` at a width from zero up to `2 ^ b`. -/
structure Fluid.Sample.Within (k b : Nat) (p : Fluid.Sample Float) : Prop where
  value : IsBelow k p.value
  px_nonneg : 0 ≤ p.px
  px_lt : p.px.toNat < 2 ^ b

namespace Fluid

section
variable {k b : Nat} {p q narrow wide : Sample Float}

theorem Sample.Within.px_sub (hp : p.Within k b) (hq : q.Within k b) :
    (p.px - q.px).natAbs < 2 ^ b := by
  have := hp.px_nonneg
  have := hp.px_lt
  have := hq.px_nonneg
  have := hq.px_lt
  omega

theorem Sample.Within.px_natAbs (hp : p.Within k b) : p.px.natAbs < 2 ^ b := by
  have := hp.px_nonneg
  have := hp.px_lt
  omega

/-- The slope between two different widths is little larger than the values. -/
theorem slope_eq_ok (hn : narrow.Within k b) (hw : wide.Within k b) (range : k + b ≤ 900)
    (apart : wide.px ≠ narrow.px) : ∃ m, slope narrow wide = .ok m ∧ IsBelow (k + 4) m := by
  have some : wide.px - narrow.px ≠ 0 := by omega
  have width : (ofInt (wide.px - narrow.px) : Except NumberError Float) = .ok _ :=
    Binary.doubleOfInt_eq_ok (hw.px_sub hn) (by omega)
  have large := (Binary.ofQuotient_one (hw.px_sub hn) (by omega)).2 some
  refine ⟨_, ?_, (hw.value.sub hn.value (by omega)).div large (by omega)⟩
  unfold slope
  rw [width]
  rfl

theorem isBelow_least {x y : Float} (hx : IsBelow k x) (hy : IsBelow k y) :
    IsBelow k (least x y) := by
  unfold least
  split
  · exact hy
  · exact hx

theorem isBelow_greatest {x y : Float} (hx : IsBelow k x) (hy : IsBelow k y) :
    IsBelow k (greatest x y) := by
  unfold greatest
  split
  · exact hy
  · exact hx

theorem between_returns (hn : narrow.Within k b) (hw : wide.Within k b) (range : k + b ≤ 900)
    (unit : String) : Returns (between narrow wide unit) := by
  unfold between
  split
  · exact (hw.value.roundTo (by omega)).map _
  · rename_i differ
    have apart : wide.px ≠ narrow.px := by
      intro same
      simp [same] at differ
    obtain ⟨m, steep, small⟩ := slope_eq_ok hn hw range apart
    have width : (ofInt narrow.px : Except NumberError Float) = .ok _ :=
      Binary.doubleOfInt_eq_ok hn.px_natAbs (by omega)
    have step := (Binary.ofQuotient_one hn.px_natAbs (by omega)).1
    have hundred : IsBelow 7 (quotient 100 1 : Float) := by decide +kernel
    have start := (hn.value.mono (by omega : k ≤ k + 4 + (b + 1) + 1)).sub
      (small.mul step (by omega)) (by omega)
    rw [steep, ok_bind, width, ok_bind]
    refine ((small.mul hundred (by omega)).roundTo (by omega)).bind fun perHundred _ => ?_
    refine (start.roundTo (by omega)).bind fun offset _ => ?_
    refine ((isBelow_least hn.value hw.value).roundTo (by omega)).bind fun lower _ => ?_
    exact ((isBelow_greatest hn.value hw.value).roundTo (by omega)).map _

theorem linearClamp_returns (hp : p.Within k b) (hq : q.Within k b) (range : k + b ≤ 900)
    (unit : String) : Returns (linearClamp p q unit) := by
  unfold linearClamp
  exact Returns.ite (fun _ => between_returns hq hp range unit)
    fun _ => between_returns hp hq range unit

theorem viewportCapped_returns {x : Float} (h : IsBelow k x) (range : k ≤ 900) (unit : String) :
    Returns (viewportCapped x unit) :=
  (h.roundTo (by omega)).map _

end

end Fluid

/-! ## Deviation -/

namespace Fluid

section
variable {k b : Nat} {samples : List (NamedSample Float)}

theorem strayOf_returns {narrow : Sample Float} {s : NamedSample Float} (m span : Float)
    (hn : narrow.Within k b) (hs : s.toSample.Within k b) (range : b ≤ 900) :
    Returns (strayOf narrow m span s) := by
  unfold strayOf
  have width : Returns (ofInt (s.px - narrow.px) : Except NumberError Float) :=
    ⟨_, Binary.doubleOfInt_eq_ok (hs.px_sub hn) (by omega)⟩
  exact width.map _

theorem interior_returns (within : ∀ s ∈ samples, s.toSample.Within k b) (range : k + b ≤ 900) :
    Returns (interior samples) := by
  unfold interior
  split
  · rename_i wide narrow first last
    have hw := within wide (List.mem_of_mem_head? first)
    have hn := within narrow (List.mem_of_mem_getLast? last)
    dsimp only
    refine Returns.ite (fun measured => ?_) fun _ => returns_ok []
    obtain ⟨m, steep, -⟩ := slope_eq_ok hn hw range measured.2.2
    rw [steep, ok_bind]
    apply Returns.mapM
    intro s mem
    have inside : s ∈ samples := List.mem_of_mem_tail (List.dropLast_subset _ mem)
    exact strayOf_returns m _ hn (within s inside) (by omega)
  · exact returns_ok []

theorem profile?_returns (within : ∀ s ∈ samples, s.toSample.Within k b) (range : k + b ≤ 900) :
    Returns (profile? samples) := by
  unfold profile?
  split
  · exact returns_ok none
  · exact returns_ok none
  · exact Returns.ite (fun _ => returns_ok none) fun _ => (interior_returns within range).map _

end

end Fluid

end TokenSheet
