import TokenSheet.Fluid.Deviation
import TokenSheet.Proofs.Css.Segments
import TokenSheet.Proofs.Fluid.Line

/-!
What the deviation of a token from a line says, over exact rationals.

The deviation of an inner mode is its distance from the line through the two ends, in units of the
distance of the end values. So where the end values differ the greatest deviation is zero exactly if
the token lies on the line, and stretching and shifting all values leaves it as it is
(`deviation_zero_iff_on_line`). Between equal ends there is no such unit and nothing is measured,
however far the values stray there (`equal_ends_hide_strays`).
-/

namespace TokenSheet.Fluid

open Scalar

/-- The sample of a value that is known in every mode. -/
def sampleAt {α : Type} (value : Mode → α) (m : Mode) : NamedSample α :=
  ⟨⟨m.px, value m⟩, m.name⟩

/-- The profile of a token with numbers in all modes is that of the samples of these numbers. -/
theorem profileOf?_eq {t : Token} {modes : List Mode} {number : Mode → Float}
    (kind : t.kind = .float) (numbers : ∀ m ∈ modes, t.numberIn m.id = some (number m)) :
    profileOf? t modes = profile? (modes.map (sampleAt number)) := by
  have samples : (modes.mapM fun m => (t.numberIn m.id).map fun x =>
      (⟨⟨m.px, x⟩, m.name⟩ : NamedSample Float)) = some (modes.map (sampleAt number)) := by
    clear kind
    induction modes with
    | nil => rfl
    | cons m rest ih =>
        obtain ⟨here, there⟩ := List.forall_mem_cons.1 numbers
        rw [List.mapM_cons, here, ih there]
        rfl
  rw [profileOf?, if_pos kind, samples]

/-! ## The greatest deviation -/

section
variable {strays strays' : List (Stray Rat)} {most bound : Rat}

theorem foldl_greatest_le_iff :
    strays.foldl (fun most s => Scalar.greatest most s.deviation) most ≤ bound ↔
      most ≤ bound ∧ ∀ s ∈ strays, s.deviation ≤ bound := by
  induction strays generalizing most with
  | nil => simp
  | cons s rest ih => rw [List.foldl_cons, ih, Exact.greatest_eq, max_le_iff, List.forall_mem_cons,
      and_assoc]

/-- The greatest deviation is below a bound that is not negative if all of them are. -/
theorem greatestDeviation_le_iff (nonneg : 0 ≤ bound) :
    greatestDeviation strays ≤ bound ↔ ∀ s ∈ strays, s.deviation ≤ bound := by
  cases strays with
  | nil => simpa [greatestDeviation, Exact.zero_eq] using nonneg
  | cons s rest => rw [greatestDeviation, foldl_greatest_le_iff, List.forall_mem_cons]

theorem greatestDeviation_nonneg (nonneg : ∀ s ∈ strays, 0 ≤ s.deviation) :
    0 ≤ greatestDeviation strays := by
  cases strays with
  | nil => exact le_refl _
  | cons s rest =>
      refine le_trans (nonneg s List.mem_cons_self) ?_
      exact (foldl_greatest_le_iff.1 (le_refl _)).1

theorem greatestDeviation_eq_zero_iff (nonneg : ∀ s ∈ strays, 0 ≤ s.deviation) :
    greatestDeviation strays = 0 ↔ ∀ s ∈ strays, s.deviation = 0 := by
  rw [← (greatestDeviation_nonneg nonneg).ge_iff_eq', greatestDeviation_le_iff (le_refl 0)]
  exact forall₂_congr fun s mem => (nonneg s mem).ge_iff_eq'

/-- Of the inner modes only their deviations count. -/
theorem greatestDeviation_congr
    (same : strays.map (·.deviation) = strays'.map (·.deviation)) :
    greatestDeviation strays = greatestDeviation strays' := by
  have fold (most : Rat) (l : List (Stray Rat)) :
      l.foldl (fun most s => Scalar.greatest most s.deviation) most =
        (l.map (·.deviation)).foldl Scalar.greatest most := by rw [List.foldl_map]
  cases strays with
  | nil =>
      cases strays' with
      | nil => rfl
      | cons _ _ => cases same
  | cons s rest =>
      cases strays' with
      | nil => cases same
      | cons s' rest' =>
          obtain ⟨first, others⟩ := List.cons.inj same
          have first : s.deviation = s'.deviation := first
          rw [greatestDeviation, greatestDeviation, fold, fold, first, others]

end

/-! ## Inner modes -/

section
variable {modes : List Mode} {wide narrow : Mode} {value : Mode → Rat}

/-- The value at a mode's width of the line through the values in the two end modes. -/
def expectedAt (wide narrow : Mode) (value : Mode → Rat) (m : Mode) : Rat :=
  lineAt (sampleAt value wide).toSample (sampleAt value narrow).toSample m.px

/-- An inner mode compared with the line through the two end modes. -/
def strayAt (wide narrow : Mode) (value : Mode → Rat) (m : Mode) : Stray Rat where
  name := m.name
  px := m.px
  actual := value m
  expected := expectedAt wide narrow value m
  deviation := |value m - expectedAt wide narrow value m| / |value wide - value narrow|

/-- The inner modes that are compared: none between equal end values. -/
def straysOf (modes : List Mode) (wide narrow : Mode) (value : Mode → Rat) : List (Stray Rat) :=
  if value wide = value narrow then []
  else modes.tail.dropLast.map (strayAt wide narrow value)

theorem strayOf_eq (apart : wide.px ≠ narrow.px) (m : Mode) :
    strayOf (sampleAt value narrow).toSample
        ((value wide - value narrow) / (wide.px - narrow.px)) |value wide - value narrow|
        (sampleAt value m) = .ok (strayAt wide narrow value m) := by
  have expected : value narrow + (value wide - value narrow) / (wide.px - narrow.px) *
      ((m.px - narrow.px : Int) : Rat) = expectedAt wide narrow value m := by
    rw [expectedAt, lineAt_swap apart, lineAt, Int.cast_sub]
    rfl
  change Except.ok (⟨m.name, m.px, value m, value narrow +
      (value wide - value narrow) / (wide.px - narrow.px) * ((m.px - narrow.px : Int) : Rat),
    magnitude (value m - (value narrow +
      (value wide - value narrow) / (wide.px - narrow.px) * ((m.px - narrow.px : Int) : Rat))) /
      |value wide - value narrow|⟩ : Stray Rat) = _
  rw [expected, Exact.magnitude_eq]
  rfl

theorem head?_map_sampleAt (head : modes.head? = some wide) :
    (modes.map (sampleAt value)).head? = some (sampleAt value wide) := by
  rw [List.head?_map, head]
  rfl

theorem getLast?_map_sampleAt (last : modes.getLast? = some narrow) :
    (modes.map (sampleAt value)).getLast? = some (sampleAt value narrow) := by
  rw [List.getLast?_map, last]
  rfl

theorem mapM_strayOf (apart : wide.px ≠ narrow.px) (inner : List Mode) :
    (inner.map (sampleAt value)).mapM (strayOf (sampleAt value narrow).toSample
        ((value wide - value narrow) / (wide.px - narrow.px)) |value wide - value narrow|) =
      .ok (inner.map (strayAt wide narrow value)) := by
  have each : strayOf (sampleAt value narrow).toSample
        ((value wide - value narrow) / (wide.px - narrow.px)) |value wide - value narrow| ∘
      sampleAt value = fun m => pure (strayAt wide narrow value m) := funext (strayOf_eq apart)
  rw [List.mapM_map, each]
  exact List.mapM_pure

/-- Between end values that differ every inner mode is compared with the line. -/
theorem interior_eq (head : modes.head? = some wide) (last : modes.getLast? = some narrow)
    (apart : wide.px ≠ narrow.px) (differ : value wide ≠ value narrow) :
    interior (modes.map (sampleAt value)) =
      .ok (modes.tail.dropLast.map (strayAt wide narrow value)) := by
  have span : magnitude (value wide - value narrow) = |value wide - value narrow| :=
    Exact.magnitude_eq _
  have positive : below zero |value wide - value narrow| = true :=
    decide_eq_true (abs_pos.2 (sub_ne_zero.2 differ))
  rw [interior, head?_map_sampleAt head, getLast?_map_sampleAt last]
  change (if 3 ≤ (modes.map (sampleAt value)).length ∧
      below zero (magnitude (value wide - value narrow)) ∧ wide.px ≠ narrow.px then do
    let m ← slope (sampleAt value narrow).toSample (sampleAt value wide).toSample
    (modes.map (sampleAt value)).tail.dropLast.mapM
      (strayOf (sampleAt value narrow).toSample m (magnitude (value wide - value narrow)))
    else .ok []) = _
  rw [span, List.length_map]
  by_cases long : 3 ≤ modes.length
  · rw [if_pos ⟨long, positive, apart⟩, slope_eq, ← List.map_tail, ← List.map_dropLast]
    exact mapM_strayOf apart modes.tail.dropLast
  · -- without inner modes both sides are empty
    have none : modes.tail.dropLast = [] := by
      refine List.eq_nil_of_length_eq_zero ?_
      rw [List.length_dropLast, List.length_tail]
      omega
    rw [if_neg fun h => long h.1, none, List.map_nil]

/-- Between equal end values nothing is compared. -/
theorem interior_eq_nil (head : modes.head? = some wide) (last : modes.getLast? = some narrow)
    (same : value wide = value narrow) : interior (modes.map (sampleAt value)) = .ok [] := by
  have none : ¬ below zero (magnitude (value wide - value narrow)) = true := by
    rw [same, sub_self]
    decide
  rw [interior, head?_map_sampleAt head, getLast?_map_sampleAt last]
  exact if_neg fun h => none h.2.1

/-- Values that are not all the same have the profile of their inner modes. -/
theorem profile?_eq {inner : List (Stray Rat)}
    (varied : ∃ m ∈ modes, ∃ m' ∈ modes, value m ≠ value m')
    (measured : interior (modes.map (sampleAt value)) = .ok inner) :
    profile? (modes.map (sampleAt value)) =
      .ok (some ⟨inner, greatestDeviation inner, modes.map (sampleAt value)⟩) := by
  obtain ⟨m, mem, m', mem', differ⟩ := varied
  match modes, mem, mem', measured with
  | [only], mem, mem', _ =>
      exact absurd (by rw [List.mem_singleton.1 mem, List.mem_singleton.1 mem']) differ
  | first :: second :: rest, mem, mem', measured =>
      have varied : ¬ ((first :: second :: rest).map (sampleAt value)).all
          (fun s => same s.value (value first)) = true := by
        intro all
        have constant : ∀ m ∈ first :: second :: rest, value m = value first := by
          intro m mem
          exact eq_of_beq (List.all_eq_true.1 all _ (List.mem_map_of_mem mem))
        exact differ ((constant m mem).trans (constant m' mem').symm)
      refine (if_neg varied).trans ?_
      rw [measured]
      rfl

/-- The profile of a token that differs somewhere, by its values at the ends. -/
theorem profile?_eq_of_ends (sorted : Mode.Strict modes) (head : modes.head? = some wide)
    (last : modes.getLast? = some narrow)
    (varied : ∃ m ∈ modes, ∃ m' ∈ modes, value m ≠ value m') :
    profile? (modes.map (sampleAt value)) =
      .ok (some ⟨straysOf modes wide narrow value,
        greatestDeviation (straysOf modes wide narrow value), modes.map (sampleAt value)⟩) := by
  refine profile?_eq varied ?_
  by_cases same : value wide = value narrow
  · rw [straysOf, if_pos same]
    exact interior_eq_nil head last same
  · rw [straysOf, if_neg same]
    have apart : narrow.px < wide.px :=
      sorted.last_lt_head head last fun equal => same (congrArg value equal)
    exact interior_eq head last apart.ne' same

/-! ## Zero and scale -/

theorem strayAt_deviation_nonneg (m : Mode) : 0 ≤ (strayAt wide narrow value m).deviation :=
  div_nonneg (abs_nonneg _) (abs_nonneg _)

theorem strayAt_deviation_eq_zero_iff (differ : value wide ≠ value narrow) (m : Mode) :
    (strayAt wide narrow value m).deviation = 0 ↔ value m = expectedAt wide narrow value m := by
  have span : |value wide - value narrow| ≠ 0 := abs_ne_zero.2 (sub_ne_zero.2 differ)
  rw [strayAt, div_eq_zero_iff, or_iff_left span, abs_eq_zero, sub_eq_zero]

/-- Between end values that differ nothing strays exactly if all inner modes are on the line. -/
theorem greatestDeviation_straysOf_eq_zero_iff (differ : value wide ≠ value narrow) :
    greatestDeviation (straysOf modes wide narrow value) = 0 ↔
      ∀ m ∈ modes.tail.dropLast, value m = expectedAt wide narrow value m := by
  rw [straysOf, if_neg differ, greatestDeviation_eq_zero_iff
    (List.forall_mem_map.2 fun m _ => strayAt_deviation_nonneg m), List.forall_mem_map]
  exact forall₂_congr fun m _ => strayAt_deviation_eq_zero_iff differ m

/-- The line through stretched and shifted values is the stretched and shifted line. -/
theorem expectedAt_affine (k c : Rat) (m : Mode) :
    expectedAt wide narrow (fun m => k * value m + c) m =
      k * expectedAt wide narrow value m + c := by
  simp only [expectedAt, lineAt, sampleAt]
  ring

theorem strayAt_deviation_affine {k : Rat} (stretch : k ≠ 0) (c : Rat) (m : Mode) :
    (strayAt wide narrow (fun m => k * value m + c) m).deviation =
      (strayAt wide narrow value m).deviation := by
  have scale (a b : Rat) : |k * a + c - (k * b + c)| = |k| * |a - b| := by
    rw [← abs_mul]
    congr 1
    ring
  rw [strayAt, strayAt, expectedAt_affine, scale, scale]
  exact mul_div_mul_left _ _ (abs_ne_zero.2 stretch)

theorem affine_eq_iff {k : Rat} (stretch : k ≠ 0) (c x y : Rat) : k * x + c = k * y + c ↔ x = y := by
  rw [add_left_inj, mul_right_inj' stretch]

/-- The deviations do not depend on the unit and the origin of the values. -/
theorem greatestDeviation_straysOf_affine {k : Rat} (stretch : k ≠ 0) (c : Rat) :
    greatestDeviation (straysOf modes wide narrow fun m => k * value m + c) =
      greatestDeviation (straysOf modes wide narrow value) := by
  refine greatestDeviation_congr ?_
  simp only [straysOf, affine_eq_iff stretch]
  split
  · rfl
  · rw [List.map_map, List.map_map]
    exact List.map_congr_left fun m _ => strayAt_deviation_affine stretch c m

/-- A token that is a number in every mode and not the same everywhere has a profile. Where its
values at the ends differ, its greatest deviation is zero exactly if all inner modes lie on the line
through the ends; where they are equal nothing is measured and the greatest deviation is zero.
Stretching and shifting the values leaves it as it is. -/
theorem deviation_zero_iff_on_line (sorted : Mode.Strict modes) (head : modes.head? = some wide)
    (last : modes.getLast? = some narrow)
    (varied : ∃ m ∈ modes, ∃ m' ∈ modes, value m ≠ value m') :
    ∃ p, profile? (modes.map (sampleAt value)) = .ok (some p) ∧
      (value wide ≠ value narrow →
        (p.greatest = 0 ↔ ∀ m ∈ modes.tail.dropLast, value m = expectedAt wide narrow value m)) ∧
      (value wide = value narrow → p.interior = [] ∧ p.greatest = 0) ∧
      (∀ k c : Rat, k ≠ 0 → ∃ p', p'.greatest = p.greatest ∧
        profile? (modes.map (sampleAt fun m => k * value m + c)) = .ok (some p')) ∧
      ∀ (t : Token) (number : Mode → Float), t.kind = .float →
        (∀ m ∈ modes, t.numberIn m.id = some (number m)) →
          profileOf? t modes = profile? (modes.map (sampleAt number)) := by
  refine ⟨_, profile?_eq_of_ends sorted head last varied, ?onLine, ?flat, ?affine, ?token⟩
  case onLine => exact greatestDeviation_straysOf_eq_zero_iff
  case flat =>
    intro same
    rw [straysOf, if_pos same]
    exact ⟨rfl, rfl⟩
  case affine =>
    intro k c stretch
    obtain ⟨m, mem, m', mem', differ⟩ := varied
    have varied' : k * value m + c ≠ k * value m' + c := (affine_eq_iff stretch c _ _).not.2 differ
    exact ⟨_, greatestDeviation_straysOf_affine stretch c,
      profile?_eq_of_ends sorted head last ⟨m, mem, m', mem', varied'⟩⟩
  case token => exact fun _ _ kind numbers => profileOf?_eq kind numbers

end

/-! ## A bulge between two ends -/

namespace Bulge

def wide : Mode := ⟨"d", "Desktop", some 1680⟩

def middle : Mode := ⟨"t", "Tablet", some 840⟩

def narrow : Mode := ⟨"m", "Mobile", some 480⟩

/-- Values on a line with a bulge in the middle. -/
def bulging (m : Mode) : Rat := if m.id = "t" then 20 else m.px / 10

/-- Values with the same bulge between equal ends. -/
def hill (m : Mode) : Rat := if m.id = "t" then 20 else 10

theorem strict : Mode.Strict [wide, middle, narrow] := by
  unfold Mode.Strict
  decide

/-- A token off the line in its middle mode has a deviation. -/
theorem bulging_deviates :
    ∃ p, profile? ([wide, middle, narrow].map (sampleAt bulging)) = .ok (some p) ∧
      p.greatest ≠ 0 := by
  have varied : ∃ m ∈ [wide, middle, narrow], ∃ m' ∈ [wide, middle, narrow],
      bulging m ≠ bulging m' := by decide +kernel
  obtain ⟨p, run, zero, -⟩ := deviation_zero_iff_on_line strict rfl rfl varied
  refine ⟨p, run, fun none => ?_⟩
  have onLine := (zero (by decide +kernel)).1 none middle (by decide)
  revert onLine
  decide +kernel

/-- Between equal ends the bulge has no deviation, although it lies off the line: a deviation of zero
does not say that a token is linear. -/
theorem equal_ends_hide_strays :
    ¬ ∀ (modes : List Mode) (wide narrow : Mode) (value : Mode → Rat), Mode.Strict modes →
      modes.head? = some wide → modes.getLast? = some narrow → (∀ m ∈ modes, 0 < m.px) →
      (∃ m ∈ modes, ∃ m' ∈ modes, value m ≠ value m') →
        ∃ p, profile? (modes.map (sampleAt value)) = .ok (some p) ∧
          (p.greatest = 0 ↔
            ∀ m ∈ modes.tail.dropLast, value m = expectedAt wide narrow value m) := by
  intro linear
  have varied : ∃ m ∈ [wide, middle, narrow], ∃ m' ∈ [wide, middle, narrow], hill m ≠ hill m' := by
    decide +kernel
  obtain ⟨p, run, zero⟩ := linear [wide, middle, narrow] wide narrow hill strict rfl rfl
    (by decide) varied
  rw [profile?_eq_of_ends strict rfl rfl varied] at run
  cases run
  have onLine := zero.1 (by decide +kernel) middle (by decide)
  revert onLine
  decide +kernel

end Bulge

end TokenSheet.Fluid
