import Mathlib.Algebra.Order.Group.MinMax
import TokenSheet.Proofs.Css.Segments
import TokenSheet.Proofs.Fluid.Line
import TokenSheet.Proofs.Number.Decimal
import TokenSheet.Proofs.Text.Alphabets

/-!
What the text of an interpolation says.

The text is read from left to right (`interpolation?`): two limits, and between them a line with a
fixed part and a part that grows with the viewport, in either of its two forms. Every text that is
written for a line is read as the numbers it was written from (`interpolation?_text`). Over exact
rationals these are the roundings of the line and of its ends, so the length that the text stands
for stays near the interpolation at every width (`printed_clamp_follows_line`).
-/

namespace TokenSheet.Fluid

open Css (Value Preferred)
open Scalar
open Exact (IsDecimal Stops number? number?_text rounded)
open Text (Over)

/-! ## Interpolations -/

/-- Two limits and a line between them: a fixed part, and a slope in hundredths of the viewport. -/
structure Interpolation where
  lower : Rat
  fixed : Rat
  perHundred : Rat
  upper : Rat
deriving DecidableEq, Repr

namespace Interpolation

/-- The line at a width of the viewport. -/
def line (i : Interpolation) (width : Rat) : Rat :=
  i.fixed + i.perHundred * width / 100

/-- The line at a width, kept between the limits. -/
def clamped (i : Interpolation) (width : Rat) : Rat :=
  max i.lower (min (i.line width) i.upper)

/-- The value that stands for an interpolation. -/
def value (i : Interpolation) (unit : String) : Value Rat :=
  .clamp i.lower (preferred i.fixed i.perHundred) i.upper unit

/-- Whether all numbers of an interpolation can be written in decimal places. -/
structure Decimal (i : Interpolation) : Prop where
  lower : IsDecimal i.lower
  fixed : IsDecimal i.fixed
  perHundred : IsDecimal i.perHundred
  upper : IsDecimal i.upper

end Interpolation

/-! ## The reader -/

/-- Reads a text that stands at the front of another one. -/
def literal? (t : String) (s : List Char) : Option (List Char) :=
  t.toList.isPrefixOf? s

/-- Reads a line in either of its forms: its fixed part, its slope and what follows. -/
def line? (unit : String) (s : List Char) : Option (Rat × Rat × List Char) := do
  let (first, rest) ← number? s
  match literal? "vw - " rest with
  | some rest =>
    let (offset, rest) ← number? rest
    let rest ← literal? unit rest
    return (-offset, first, rest)
  | none =>
    let rest ← literal? unit rest
    let rest ← literal? " + " rest
    let (slope, rest) ← number? rest
    let rest ← literal? "vw" rest
    return (first, slope, rest)

/-- Reads a text as an interpolation in a unit. -/
def interpolation? (unit : String) (s : String) : Option Interpolation := do
  let rest ← literal? "clamp(" s.toList
  let (lower, rest) ← number? rest
  let rest ← literal? unit rest
  let rest ← literal? ", calc(" rest
  let (fixed, perHundred, rest) ← line? unit rest
  let rest ← literal? "), " rest
  let (upper, rest) ← number? rest
  let rest ← literal? unit rest
  let rest ← literal? ")" rest
  if rest.isEmpty then return ⟨lower, fixed, perHundred, upper⟩ else none

/-- Characters of a unit: a number does not go on with them, and they separate nothing. -/
def isUnitChar (c : Char) : Bool :=
  !c.isDigit && c != '.' && c != ' '

theorem isUnitChar_iff {c : Char} :
    isUnitChar c = true ↔ c.isDigit = false ∧ c ≠ '.' ∧ c ≠ ' ' := by
  simp only [isUnitChar, Bool.and_eq_true, Bool.not_eq_true', bne_iff_ne, and_assoc]

variable {unit : String} {rest : List Char}

theorem literal?_append (t : String) (rest : List Char) :
    literal? t (t.toList ++ rest) = some rest :=
  List.isPrefixOf?_eq_some_iff_append_eq.2 rfl

theorem stops_unit (units : Over isUnitChar unit) (stop : Stops rest) :
    Stops (unit.toList ++ rest) := by
  intro c first
  cases chars : unit.toList with
  | nil => exact stop c (by rwa [chars] at first)
  | cons d _ =>
      have mem : c ∈ unit.toList := by
        rw [chars] at first ⊢
        exact Option.some.inj first ▸ List.mem_cons_self
      exact ⟨(isUnitChar_iff.1 (units c mem)).1, (isUnitChar_iff.1 (units c mem)).2.1⟩

/-- A unit before a sum is not taken for the viewport before a difference. -/
theorem literal?_vw_sum (units : Over isUnitChar unit) :
    literal? "vw - " (unit.toList ++ (" + ".toList ++ rest)) = none := by
  have space : ' ' ∉ unit.toList := fun mem => (isUnitChar_iff.1 (units ' ' mem)).2.2 rfl
  rw [Option.eq_none_iff_forall_ne_some]
  intro others read
  have same := List.isPrefixOf?_eq_some_iff_append_eq.1 read
  match chars : unit.toList, same with
  | [], same => exact absurd (List.cons.inj same).1 (by decide)
  | [_], same => exact absurd (List.cons.inj (List.cons.inj same).2).1 (by decide)
  | [_, _], same =>
      have after := (List.cons.inj (List.cons.inj same).2).2
      exact absurd (List.cons.inj (List.cons.inj after).2).1 (by decide)
  | _ :: _ :: c :: _, same =>
      have third : ' ' = c := (List.cons.inj (List.cons.inj (List.cons.inj same).2).2).1
      rw [chars, ← third] at space
      simp at space

/-- The text of a line is read as its fixed part and its slope. -/
theorem line?_text {fixed perHundred : Rat} (units : Over isUnitChar unit)
    (decimal : IsDecimal fixed) (decimal' : IsDecimal perHundred) (rest : List Char)
    (stop : Stops rest) :
    line? unit (((preferred fixed perHundred).text unit).toList ++ rest) =
      some (fixed, perHundred, rest) := by
  rw [preferred]
  split
  · rename_i negative
    have negative : fixed < 0 := of_decide_eq_true negative
    have size : -Scalar.magnitude fixed = fixed := by
      rw [Exact.magnitude_eq, abs_of_neg negative, neg_neg]
    have slope := number?_text decimal' ("vw - ".toList ++
      ((Scalar.text (Scalar.magnitude fixed)).toList ++ (unit.toList ++ rest))) (by simp [Stops])
    have offset := number?_text (Exact.magnitude_eq fixed ▸ decimal.abs) (unit.toList ++ rest)
      (stops_unit units stop)
    simp only [Preferred.text, String.toList_append, List.append_assoc] at slope offset ⊢
    simp only [line?, slope, offset, literal?_append, Option.bind_eq_bind, Option.bind_some, size]
    rfl
  · have intercept := number?_text decimal (unit.toList ++ (" + ".toList ++
      ((Scalar.text perHundred).toList ++ ("vw".toList ++ rest))))
      (stops_unit units (by simp [Stops]))
    have slope := number?_text decimal' ("vw".toList ++ rest) (by simp [Stops])
    simp only [Preferred.text, String.toList_append, List.append_assoc]
    simp only [line?, intercept, slope, literal?_vw_sum units, literal?_append,
      Option.bind_eq_bind, Option.bind_some]
    rfl

theorem interpolation?_text {i : Interpolation} (units : Over isUnitChar unit)
    (decimal : i.Decimal) : interpolation? unit (i.value unit).text = some i := by
  have upper := number?_text decimal.upper (unit.toList ++ (")".toList ++ []))
    (stops_unit units (by simp [Stops]))
  have line := line?_text units decimal.fixed decimal.perHundred ("), ".toList ++
    ((Scalar.text i.upper).toList ++ (unit.toList ++ (")".toList ++ [])))) (by simp [Stops])
  have lower := number?_text decimal.lower (unit.toList ++ (", calc(".toList ++
    (((preferred i.fixed i.perHundred).text unit).toList ++ ("), ".toList ++
      ((Scalar.text i.upper).toList ++ (unit.toList ++ (")".toList ++ [])))))))
    (stops_unit units (by simp [Stops]))
  have layout : (i.value unit).text.toList = "clamp(".toList ++ ((Scalar.text i.lower).toList ++
      (unit.toList ++ (", calc(".toList ++ (((preferred i.fixed i.perHundred).text unit).toList ++
        ("), ".toList ++ ((Scalar.text i.upper).toList ++
          (unit.toList ++ (")".toList ++ [])))))))) := by
    simp only [Interpolation.value, Value.text, String.toList_append, List.append_assoc,
      List.append_nil]
  simp only [interpolation?, layout, lower, line, upper, literal?_append, Option.bind_eq_bind,
    Option.bind_some]
  rfl

/-! ## The interpolation between two points -/

section
variable {p q narrow wide : Sample Rat} (width : Rat)

/-- The interpolation between two points with all its numbers rounded. -/
def roundedBetween (p q : Sample Rat) : Interpolation where
  lower := rounded 2 (min p.value q.value)
  fixed := rounded 2 (lineAt p q 0)
  perHundred := rounded 4 ((q.value - p.value) / (q.px - p.px) * 100)
  upper := rounded 2 (max p.value q.value)

/-- The line through two points, kept between their values. -/
def saturated (p q : Sample Rat) (width : Rat) : Rat :=
  max (min p.value q.value) (min (lineAt p q width) (max p.value q.value))

theorem roundedBetween_decimal (p q : Sample Rat) : (roundedBetween p q).Decimal where
  lower := Exact.isDecimal_rounded 2 _
  fixed := Exact.isDecimal_rounded 2 _
  perHundred := Exact.isDecimal_rounded 4 _
  upper := Exact.isDecimal_rounded 2 _

theorem roundedBetween_swap (apart : p.px ≠ q.px) : roundedBetween p q = roundedBetween q p := by
  have steep : (q.value - p.value) / (q.px - p.px) = (p.value - q.value) / (p.px - q.px : Rat) := by
    rw [← neg_sub p.value, ← neg_sub (p.px : Rat), neg_div_neg_eq]
  rw [roundedBetween, roundedBetween, min_comm, max_comm, lineAt_swap apart, steep]

theorem between_eq (unit : String) (apart : narrow.px ≠ wide.px)
    (differ : narrow.value ≠ wide.value) :
    between narrow wide unit = .ok ((roundedBetween narrow wide).value unit) := by
  have line : ¬ (same wide.value narrow.value || wide.px == narrow.px) = true := by
    rw [Bool.or_eq_true_iff, beq_iff_eq]
    rintro (equal | equal)
    · exact differ (eq_of_beq equal).symm
    · exact apart equal.symm
  have intercept : narrow.value - (wide.value - narrow.value) / (wide.px - narrow.px) *
      ((narrow.px : Int) : Rat) = lineAt narrow wide 0 := by
    rw [lineAt]
    ring
  have hundred : (quotient 100 1 : Rat) = 100 := by
    rw [Exact.quotient_eq]
    norm_num
  rw [between, if_neg line, slope_eq]
  simp only [hundred, Exact.roundTo_eq, Exact.least_eq, Exact.greatest_eq, ok_bind]
  change Except.ok (Value.clamp _ (preferred (rounded 2 (narrow.value -
    (wide.value - narrow.value) / (wide.px - narrow.px) * ((narrow.px : Int) : Rat))) _) _ unit) = _
  rw [intercept]
  rfl

theorem linearClamp_eq (unit : String) (apart : p.px ≠ q.px) (differ : p.value ≠ q.value) :
    linearClamp p q unit = .ok ((roundedBetween p q).value unit) := by
  rw [linearClamp]
  split
  · rw [between_eq unit apart.symm differ.symm, roundedBetween_swap apart.symm]
  · exact between_eq unit apart differ

/-! ## Errors -/

theorem lineAt_eq (p q : Sample Rat) :
    lineAt p q width = lineAt p q 0 + (q.value - p.value) / (q.px - p.px) * width := by
  rw [lineAt, lineAt]
  ring

/-- The rounded line stays near the line. -/
theorem abs_line_sub_lineAt_le (nonneg : 0 ≤ width) :
    |(roundedBetween p q).line width - lineAt p q width| ≤ 1 / 200 + width * (5 / 10 ^ 7) := by
  have offset := Exact.abs_rounded_sub_le (lineAt p q 0) 2
  have slope := Exact.abs_rounded_sub_le ((q.value - p.value) / (q.px - p.px : Rat) * 100) 4
  have parts : (roundedBetween p q).line width - lineAt p q width =
      (rounded 2 (lineAt p q 0) - lineAt p q 0) +
        (rounded 4 ((q.value - p.value) / (q.px - p.px) * 100) -
          (q.value - p.value) / (q.px - p.px) * 100) * (width / 100) := by
    rw [lineAt_eq width, Interpolation.line, roundedBetween]
    ring
  have hundredth : 0 ≤ width / 100 := by positivity
  rw [parts]
  refine (abs_add_le _ _).trans ?_
  rw [abs_mul, abs_of_nonneg hundredth]
  have grown := mul_le_mul_of_nonneg_right slope hundredth
  linarith

/-- Keeping two lengths between limits that are near each other keeps them near each other. -/
theorem abs_clamp_sub_clamp_le {a b c a' b' c' bound : Rat} (lower : |a - a'| ≤ bound)
    (middle : |b - b'| ≤ bound) (upper : |c - c'| ≤ bound) :
    |max a (min b c) - max a' (min b' c')| ≤ bound :=
  (abs_max_sub_max_le_max _ _ _ _).trans
    (max_le lower ((abs_min_sub_min_le_max _ _ _ _).trans (max_le middle upper)))

theorem abs_clamped_sub_saturated_le (nonneg : 0 ≤ width) :
    |(roundedBetween p q).clamped width - saturated p q width| ≤
      1 / 200 + width * (5 / 10 ^ 7) := by
  have limit (x : Rat) : |rounded 2 x - x| ≤ 1 / 200 + width * (5 / 10 ^ 7) := by
    have near := Exact.abs_rounded_sub_le x 2
    have wider : 0 ≤ width * (5 / 10 ^ 7) := by positivity
    norm_num at near ⊢
    linarith
  exact abs_clamp_sub_clamp_le (limit _) (abs_line_sub_lineAt_le width nonneg) (limit _)

/-- The value of an interpolation between two points does not depend on their order, and its text is
read as two limits, which are the rounded values in order, and a line. At every width the line is near
the line through the points, and kept between the limits it is near the interpolation between them. -/
theorem printed_clamp_follows_line (unit : String) (apart : p.px ≠ q.px)
    (differ : p.value ≠ q.value) :
    ∃ (i : Interpolation) (v : Value Rat),
      linearClamp p q unit = .ok v ∧ linearClamp q p unit = .ok v ∧ v = i.value unit ∧
      (Over isUnitChar unit → interpolation? unit v.text = some i) ∧
      i.lower = rounded 2 (min p.value q.value) ∧ i.upper = rounded 2 (max p.value q.value) ∧
      i.lower ≤ i.upper ∧ lineAt p q p.px = p.value ∧ lineAt p q q.px = q.value ∧
      ∀ width, 0 ≤ width →
        |i.line width - lineAt p q width| ≤ 1 / 200 + width * (5 / 10 ^ 7) ∧
        |i.clamped width - saturated p q width| ≤ 1 / 200 + width * (5 / 10 ^ 7) := by
  have backwards : linearClamp q p unit = .ok ((roundedBetween p q).value unit) := by
    rw [linearClamp_comm apart.symm, linearClamp_eq unit apart differ]
  refine ⟨roundedBetween p q, _, linearClamp_eq unit apart differ, backwards, rfl, ?reads, rfl, rfl,
    ?ordered, lineAt_left p q, lineAt_right apart, fun width nonneg => ⟨?line, ?clamped⟩⟩
  case reads => exact fun units => interpolation?_text units (roundedBetween_decimal p q)
  case ordered => exact Exact.rounded_mono 2 min_le_max
  case line => exact abs_line_sub_lineAt_le width nonneg
  case clamped => exact abs_clamped_sub_saturated_le width nonneg

/-- A steep line, whose fixed part is subtracted, seen in its text. -/
theorem steep_text_follows_line :
    ∃ i, interpolation? "px" "clamp(20px, calc(6.6667vw - 12px), 100px)" = some i ∧
      linearClamp (⟨1680, 100⟩ : Sample Rat) ⟨480, 20⟩ "px" = .ok (i.value "px") ∧
      |i.clamped 1000 - saturated ⟨1680, 100⟩ ⟨480, 20⟩ 1000| ≤ 11 / 2000 := by
  obtain ⟨i, v, made, -, rfl, reads, -, -, -, -, -, near⟩ :=
    printed_clamp_follows_line (p := ⟨1680, 100⟩) (q := ⟨480, 20⟩) "px" (by decide) (by decide)
  have text : (i.value "px").text = "clamp(20px, calc(6.6667vw - 12px), 100px)" := by
    have printed : ((linearClamp (⟨1680, 100⟩ : Sample Rat) ⟨480, 20⟩ "px").map Value.text).toOption =
        some "clamp(20px, calc(6.6667vw - 12px), 100px)" := by decide +kernel
    rw [made] at printed
    exact Option.some.inj printed
  refine ⟨i, text ▸ reads (by decide), made, (near 1000 (by norm_num)).2.trans ?_⟩
  norm_num

end

end TokenSheet.Fluid
