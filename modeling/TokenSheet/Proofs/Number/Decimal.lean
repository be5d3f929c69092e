import Mathlib.Data.Nat.Prime.Basic
import Mathlib.Data.Nat.Prime.Pow
import Mathlib.Data.Rat.Lemmas
import TokenSheet.Proofs.Number.Exact
import TokenSheet.Text.Numeral

/-!
Decimal texts, read back.

`number?` reads a number in decimal notation from the front of a text. A rational whose denominator
divides a power of ten is written out in full, and its text is read as the rational itself, as long
as no further digit follows (`number?_text`). Rounded rationals are of this kind
(`isDecimal_rounded`).
-/

namespace TokenSheet.Exact

open Binary Digits
open Text (splitWhile)

/-! ## The reader -/

/-- Reads digits, and digits behind a point, from the front of a text: their value and what follows. -/
def unsigned? (s : List Char) : Option (Rat × List Char) :=
  let whole := splitWhile Char.isDigit s
  if whole.1.isEmpty then none
  else
    match whole.2 with
    | '.' :: rest =>
      let part := splitWhile Char.isDigit rest
      if part.1.isEmpty then none
      else some (Nat.ofDigitChars 10 (whole.1 ++ part.1) 0 / 10 ^ part.1.length, part.2)
    | rest => some (Nat.ofDigitChars 10 whole.1 0, rest)

/-- Reads a decimal number with its sign. -/
def number? : List Char → Option (Rat × List Char)
  | '-' :: s => (unsigned? s).map fun r => (-r.1, r.2)
  | s => unsigned? s

/-- A text that does not go on with a number. -/
def Stops (rest : List Char) : Prop :=
  ∀ c ∈ rest.head?, c.isDigit = false ∧ c ≠ '.'

variable {ds part rest : List Char}

theorem splitWhile_eq {p : Char → Bool} (all : ∀ c ∈ ds, p c = true)
    (stop : ∀ c ∈ rest.head?, p c = false) : splitWhile p (ds ++ rest) = (ds, rest) := by
  have none : rest.takeWhile p = [] ∧ rest.dropWhile p = rest := by
    cases rest with
    | nil => exact ⟨rfl, rfl⟩
    | cons c _ =>
        have out : ¬ p c = true := by rw [stop c rfl]; decide
        exact ⟨List.takeWhile_cons_of_neg out, List.dropWhile_cons_of_neg out⟩
  rw [splitWhile, List.takeWhile_append_of_pos all, List.dropWhile_append_of_pos all, none.1,
    none.2, List.append_nil]

theorem unsigned?_whole (digits : ∀ c ∈ ds, c.isDigit = true) (nonempty : ds ≠ [])
    (stop : Stops rest) :
    unsigned? (ds ++ rest) = some ((Nat.ofDigitChars 10 ds 0 : Rat), rest) := by
  have split := splitWhile_eq digits fun c mem => (stop c mem).1
  rw [unsigned?, split]
  simp only [List.isEmpty_eq_false_iff.2 nonempty]
  match rest, stop with
  | [], _ => rfl
  | c :: others, stop =>
      have point : c ≠ '.' := (stop c rfl).2
      simp [point]

theorem unsigned?_point (digits : ∀ c ∈ ds, c.isDigit = true) (nonempty : ds ≠ [])
    (digits' : ∀ c ∈ part, c.isDigit = true) (nonempty' : part ≠ []) (stop : Stops rest) :
    unsigned? (ds ++ '.' :: (part ++ rest)) =
      some ((Nat.ofDigitChars 10 (ds ++ part) 0 : Rat) / 10 ^ part.length, rest) := by
  have split : splitWhile Char.isDigit (ds ++ '.' :: (part ++ rest)) = (ds, '.' :: (part ++ rest)) :=
    splitWhile_eq digits (by simp)
  have split' := splitWhile_eq digits' fun c mem => (stop c mem).1
  rw [unsigned?, split]
  simp only [List.isEmpty_eq_false_iff.2 nonempty, split', List.isEmpty_eq_false_iff.2 nonempty']
  rfl

theorem number?_of_unsigned? {x : Rat} (digits : ∀ c ∈ ds, c.isDigit = true) (nonempty : ds ≠ [])
    (negative : Bool) (read : unsigned? (ds ++ rest) = some (x, part)) :
    number? ((if negative then ['-'] else []) ++ (ds ++ rest)) =
      some (if negative then -x else x, part) := by
  cases negative with
  | true => exact congrArg (Option.map fun r => (-r.1, r.2)) read
  | false =>
      refine Eq.trans ?_ read
      match ds, nonempty, digits with
      | d :: _, _, digits =>
          have sign : d ≠ '-' := by
            rintro rfl
            exact absurd (digits '-' List.mem_cons_self) (by decide)
          simp [number?, sign]

/-! ## Digits of a number of places -/

theorem isDigit_of_mem_digitsOf {n : Nat} {c : Char} (mem : c ∈ digitsOf n) : c.isDigit = true :=
  Nat.isDigit_of_mem_toDigits (by decide) (by decide) mem

/-- The digits of a number, filled up with zeros in front. -/
def padded (places n : Nat) : List Char :=
  List.replicate (places - (digitsOf n).length) '0' ++ digitsOf n

theorem isDigit_of_mem_padded {places n : Nat} {c : Char} (mem : c ∈ padded places n) :
    c.isDigit = true := by
  rcases List.mem_append.1 mem with zero | digit
  · rw [List.eq_of_mem_replicate zero]
    decide
  · exact isDigit_of_mem_digitsOf digit

theorem padded_length {places n : Nat} (positive : 0 < places) (small : n < 10 ^ places) :
    (padded places n).length = places := by
  have short : (digitsOf n).length ≤ places :=
    (Nat.length_toDigits_le_iff (by decide) positive).2 small
  rw [padded, List.length_append, List.length_replicate]
  omega

theorem ofDigitChars_padded {places n : Nat} (positive : 0 < places) (small : n < 10 ^ places)
    (init : Nat) : Nat.ofDigitChars 10 (padded places n) init = 10 ^ places * init + n := by
  have read : Nat.ofDigitChars 10 (padded places n) 0 = n := by
    rw [padded, Nat.ofDigitChars_append, Nat.ofDigitChars_replicate_zero, Nat.mul_zero]
    exact Nat.ofDigitChars_ten_toDigits
  rw [Nat.ofDigitChars_eq_ofDigitChars_zero, padded_length positive small, read]

/-- A count of units of the last place, written with its places, is read as the number of units. -/
theorem unsigned?_places (units places : Nat) (stop : Stops rest) :
    unsigned? (digitsOf (units / 10 ^ places) ++
        ((if places = 0 then [] else '.' :: padded places (units % 10 ^ places)) ++ rest)) =
      some ((units / 10 ^ places : Rat), rest) := by
  have digits (m : Nat) : ∀ c ∈ digitsOf m, c.isDigit = true := fun c => isDigit_of_mem_digitsOf
  have nonempty (m : Nat) : digitsOf m ≠ [] := Nat.toDigits_ne_nil
  by_cases whole : places = 0
  · subst whole
    rw [if_pos rfl, List.nil_append, unsigned?_whole (digits _) (nonempty _) stop]
    simp [digitsOf]
  · have positive := Nat.pos_of_ne_zero whole
    have few : units % 10 ^ places < 10 ^ places := Nat.mod_lt _ (by positivity)
    have length := padded_length positive few
    have nonempty' : padded places (units % 10 ^ places) ≠ [] :=
      List.ne_nil_of_length_pos (by omega)
    have value : Nat.ofDigitChars 10
        (digitsOf (units / 10 ^ places) ++ padded places (units % 10 ^ places)) 0 = units := by
      rw [Nat.ofDigitChars_append, ofDigitChars_padded positive few]
      exact (congrArg (10 ^ places * · + _) Nat.ofDigitChars_ten_toDigits).trans
        (Nat.div_add_mod _ _)
    rw [if_neg whole, List.cons_append, unsigned?_point (digits _) (nonempty _)
      (fun c => isDigit_of_mem_padded) nonempty' stop, value, length]

theorem roundHalfEven_of_dvd {n d : Nat} (positive : 0 < d) (exact : d ∣ n) :
    roundHalfEven n d = n / d := by
  simp only [roundHalfEven, Nat.mod_eq_zero_of_dvd exact, Nat.mul_zero, if_pos positive]

/-- A quotient with its places in decimal notation is read as the quotient. -/
theorem number?_fixedText {n d places : Nat} (negative : Bool) (positive : 0 < d)
    (exact : d ∣ n * 10 ^ places) (stop : Stops rest) :
    number? ((fixedText negative n d places).toList ++ rest) =
      some (if negative then -(n / d : Rat) else n / d, rest) := by
  obtain ⟨units, product⟩ := exact
  have rounded : roundHalfEven (n * Nat.pow 10 places) d = units := by
    rw [Nat.pow_eq, roundHalfEven_of_dvd positive ⟨units, product⟩, product,
      Nat.mul_div_cancel_left _ positive]
  have value : (n / d : Rat) = units / 10 ^ places := by
    rw [div_eq_div_iff (by positivity) (by positivity)]
    exact_mod_cast product.trans (Nat.mul_comm d units)
  have text : (fixedText negative n d places).toList = (if negative then ['-'] else []) ++
      (digitsOf (units / 10 ^ places) ++
        if places = 0 then [] else '.' :: padded places (units % 10 ^ places)) := by
    simp only [fixedText, rounded, String.toList_append, Nat.toString_eq_ofList_toDigits,
      String.toList_ofList, List.append_assoc, apply_ite String.toList]
    rfl
  rw [text, List.append_assoc, List.append_assoc, value]
  exact number?_of_unsigned? (fun c => isDigit_of_mem_digitsOf) Nat.toDigits_ne_nil negative
    (unsigned?_places units places stop)

/-! ## Decimal rationals -/

/-- Whether some count of decimal places writes a rational exactly. -/
def IsDecimal (x : Rat) : Prop :=
  ∃ places, x.den ∣ 10 ^ places

/-- A divisor of a power of ten divides a power that is no larger than its binary logarithm. -/
theorem dvd_ten_pow_log2 {d places : Nat} (decimal : d ∣ 10 ^ places) : d ∣ 10 ^ d.log2 := by
  have factors : (10 : Nat) ^ places = 2 ^ places * 5 ^ places := by rw [← Nat.mul_pow]
  rw [factors, Nat.dvd_mul] at decimal
  obtain ⟨_, _, twos, fives, rfl⟩ := decimal
  obtain ⟨i, -, rfl⟩ := (Nat.dvd_prime_pow Nat.prime_two).1 twos
  obtain ⟨j, -, rfl⟩ := (Nat.dvd_prime_pow Nat.prime_five).1 fives
  have positive : 2 ^ i * 5 ^ j ≠ 0 := by positivity
  have two : i ≤ (2 ^ i * 5 ^ j).log2 :=
    (Nat.le_log2 positive).2 (Nat.le_mul_of_pos_right _ (by positivity))
  have five : j ≤ (2 ^ i * 5 ^ j).log2 := by
    refine (Nat.le_log2 positive).2 ((Nat.pow_le_pow_left (show 2 ≤ 5 by decide) j).trans ?_)
    exact Nat.le_mul_of_pos_left _ (by positivity)
  have ten : (10 : Nat) ^ (2 ^ i * 5 ^ j).log2 =
      2 ^ (2 ^ i * 5 ^ j).log2 * 5 ^ (2 ^ i * 5 ^ j).log2 := by rw [← Nat.mul_pow]
  rw [ten]
  exact Nat.mul_dvd_mul (Nat.pow_dvd_pow 2 two) (Nat.pow_dvd_pow 5 five)

theorem exists_exactPlaces? {x : Rat} (decimal : IsDecimal x) :
    ∃ places, exactPlaces? x = some places ∧ x.den ∣ 10 ^ places := by
  obtain ⟨most, decimal⟩ := decimal
  have found : (exactPlaces? x).isSome := by
    rw [exactPlaces?, List.find?_isSome]
    refine ⟨x.den.log2, List.mem_range.2 (Nat.lt_succ_self _), ?_⟩
    exact decide_eq_true (Nat.mod_eq_zero_of_dvd (dvd_ten_pow_log2 decimal))
  obtain ⟨places, here⟩ := Option.isSome_iff_exists.1 found
  refine ⟨places, here, ?_⟩
  rw [exactPlaces?] at here
  have whole := List.find?_some here
  exact Nat.dvd_of_mod_eq_zero (of_decide_eq_true whole)

/-- The text of a decimal rational is read as the rational. -/
theorem number?_text {x : Rat} (decimal : IsDecimal x) (rest : List Char) (stop : Stops rest) :
    number? ((Scalar.text x).toList ++ rest) = some (x, rest) := by
  obtain ⟨places, exact, decimal⟩ := exists_exactPlaces? decimal
  have text : Scalar.text x = fixedText (decide (x.num < 0)) x.num.natAbs x.den places := by
    change rationalText x = _
    rw [rationalText, exact]
  rw [text, number?_fixedText _ x.den_pos (Dvd.dvd.mul_left decimal _) stop]
  have size : ((x.num.natAbs : Nat) : Rat) = |(x.num : Rat)| := by
    rw [Nat.cast_natAbs, Int.cast_abs]
  have value : (if decide (x.num < 0) then -((x.num.natAbs : Rat) / x.den)
      else x.num.natAbs / x.den) = x := by
    by_cases negative : x.num < 0
    · rw [decide_eq_true negative, if_pos rfl, size, abs_of_neg (Int.cast_lt_zero.2 negative),
        neg_div, neg_neg, Rat.num_div_den]
    · rw [decide_eq_false negative, if_neg Bool.false_ne_true, size,
        abs_of_nonneg (Int.cast_nonneg (not_lt.1 negative)), Rat.num_div_den]
  rw [value]

theorem isDecimal_rounded (places : Nat) (x : Rat) : IsDecimal (rounded places x) := by
  have quotient : rounded places x = Rat.divInt ⌊x * 10 ^ places + 1 / 2⌋ (10 ^ places : Nat) := by
    rw [rounded, ← Rat.intCast_div_eq_divInt, Int.cast_natCast, Nat.cast_pow]
    rfl
  refine ⟨places, ?_⟩
  rw [quotient]
  exact Int.natCast_dvd_natCast.1 (Rat.den_dvd _ _)

theorem IsDecimal.abs {x : Rat} (decimal : IsDecimal x) : IsDecimal |x| := by
  rcases abs_choice x with same | negated
  · rwa [same]
  · rwa [negated, IsDecimal, Rat.neg_den]

end TokenSheet.Exact
