import TokenSheet.Css.Color
import TokenSheet.Proofs.Number.Exact
import TokenSheet.Proofs.Steps

/-!
Colors in hexadecimal notation, read back.

`colorBytes?` reads a hash and two lowercase digits for each byte. Over exact rationals the text of a color
is read as one byte for each channel that is written, the nearest one, exactly if every such channel rounds
to a byte (`hex_color_read_iff`), as those between zero and one do. Nothing limits the others: a channel that
is too large takes a third digit, and a negative one a sign.
-/

namespace TokenSheet.Css

open Scalar
open Exact (half_eq quotient_eq)

/-! ## The reader -/

/-- The value of a lowercase hexadecimal digit. -/
def hexValue? (c : Char) : Option Nat :=
  if '0' ≤ c ∧ c ≤ '9' then some (c.toNat - '0'.toNat)
  else if 'a' ≤ c ∧ c ≤ 'f' then some (c.toNat - 'a'.toNat + 10)
  else none

/-- Reads pairs of digits, the higher one first. -/
def hexBytes? : List Char → Option (List Nat)
  | [] => some []
  | [_] => none
  | c :: d :: rest =>
    match hexValue? c, hexValue? d with
    | some high, some low => (hexBytes? rest).map ((16 * high + low) :: ·)
    | _, _ => none

/-- Reads a color in hexadecimal notation: its bytes. -/
def colorBytes? (s : String) : Option (List Nat) :=
  match s.toList with
  | '#' :: digits => hexBytes? digits
  | _ => none

theorem hexValue?_digitChar {d : Nat} (digit : d < 16) : hexValue? d.digitChar = some d := by
  have all : ∀ d < 16, hexValue? (Nat.digitChar d) = some d := by decide
  exact all d digit

/-- What is read consists of digits, two for each byte. -/
theorem digits_of_hexBytes? {cs : List Char} {bytes : List Nat} (read : hexBytes? cs = some bytes) :
    cs.length = 2 * bytes.length ∧ ∀ c ∈ cs, (hexValue? c).isSome := by
  fun_induction hexBytes? cs generalizing bytes with
  | case1 =>
      obtain rfl := Option.some.inj read
      exact ⟨rfl, by simp⟩
  | case2 => cases read
  | case3 c d rest high low first second ih =>
      obtain ⟨others, behind, rfl⟩ := Option.map_eq_some_iff.1 read
      obtain ⟨length, digits⟩ := ih behind
      refine ⟨by simp only [List.length_cons]; omega, ?_⟩
      simpa [first, second] using digits
  | case4 => cases read

/-! ## Bytes -/

/-- Whether an integer is a byte. -/
def IsByte (n : Int) : Prop :=
  0 ≤ n ∧ n < 256

theorem toList_byteText_of_neg {n : Int} (negative : n < 0) :
    (byteText n).toList = '-' :: Nat.toDigits 16 n.natAbs := by
  simp [byteText, negative]

theorem toList_byteText_of_nonneg {n : Int} (nonneg : 0 ≤ n) :
    (byteText n).toList =
      List.replicate (2 - (Nat.toDigits 16 n.natAbs).length) '0' ++ Nat.toDigits 16 n.natAbs := by
  simp [byteText, not_lt.2 nonneg]

/-- A byte is written with two digits. -/
theorem toList_byteText {n : Int} (byte : IsByte n) :
    (byteText n).toList = [(n.toNat / 16).digitChar, (n.toNat % 16).digitChar] := by
  obtain ⟨nonneg, small⟩ := byte
  obtain ⟨m, rfl⟩ := Int.eq_ofNat_of_zero_le nonneg
  have high : m / 16 < 16 := by omega
  rw [toList_byteText_of_nonneg nonneg, Int.natAbs_natCast, Int.toNat_natCast,
    Nat.toDigits_eq_if (by decide)]
  split
  · rename_i digit
    rw [Nat.div_eq_of_lt digit, Nat.mod_eq_of_lt digit]
    rfl
  · rw [Nat.toDigits_of_lt_base high]
    rfl

theorem hexBytes?_byteText_append {n : Int} (byte : IsByte n) (rest : List Char) :
    hexBytes? ((byteText n).toList ++ rest) = (hexBytes? rest).map (n.toNat :: ·) := by
  obtain ⟨nonneg, small⟩ := byte
  have high : n.toNat / 16 < 16 := by omega
  have low : n.toNat % 16 < 16 := Nat.mod_lt _ (by decide)
  rw [toList_byteText ⟨nonneg, small⟩, List.cons_append, List.singleton_append, hexBytes?,
    hexValue?_digitChar high, hexValue?_digitChar low]
  simp only [Nat.div_add_mod]

/-- What is no byte takes a sign or a third digit. -/
theorem byteText_of_not_isByte {n : Int} (other : ¬ IsByte n) :
    '-' ∈ (byteText n).toList ∨ 2 < (byteText n).toList.length := by
  by_cases negative : n < 0
  · rw [toList_byteText_of_neg negative]
    exact .inl List.mem_cons_self
  · have large : ¬ n.natAbs < 16 ^ 2 := fun small => other ⟨not_lt.1 negative, by omega⟩
    rw [← Nat.length_toDigits_le_iff (by decide) (by decide)] at large
    rw [toList_byteText_of_nonneg (not_lt.1 negative), List.length_append]
    exact .inr (by omega)

theorem two_le_length_byteText (n : Int) : 2 ≤ (byteText n).toList.length := by
  have digits : 0 < (Nat.toDigits 16 n.natAbs).length := List.length_pos_iff.2 Nat.toDigits_ne_nil
  by_cases negative : n < 0
  · rw [toList_byteText_of_neg negative, List.length_cons]
    omega
  · rw [toList_byteText_of_nonneg (not_lt.1 negative), List.length_append, List.length_replicate]
    omega

/-! ## Rows of bytes -/

/-- The digits of a row of integers. -/
def byteTexts (ns : List Int) : List Char :=
  ns.flatMap fun n => (byteText n).toList

theorem byteTexts_cons (n : Int) (ns : List Int) :
    byteTexts (n :: ns) = (byteText n).toList ++ byteTexts ns := rfl

theorem hexBytes?_byteTexts {ns : List Int} (bytes : ∀ n ∈ ns, IsByte n) :
    hexBytes? (byteTexts ns) = some (ns.map Int.toNat) := by
  induction ns with
  | nil => rfl
  | cons n ns ih =>
      obtain ⟨byte, bytes⟩ := List.forall_mem_cons.1 bytes
      rw [byteTexts_cons, hexBytes?_byteText_append byte, ih bytes, Option.map_some, List.map_cons]

theorem two_mul_length_le_byteTexts (ns : List Int) : 2 * ns.length ≤ (byteTexts ns).length := by
  induction ns with
  | nil => exact Nat.le_refl 0
  | cons n ns ih =>
      have length := two_le_length_byteText n
      rw [byteTexts_cons, List.length_append, List.length_cons]
      omega

/-- A row that is read as digits, two for each integer, consists of bytes. -/
theorem isByte_of_byteTexts {ns : List Int} (length : (byteTexts ns).length = 2 * ns.length)
    (digits : ∀ c ∈ byteTexts ns, (hexValue? c).isSome) : ∀ n ∈ ns, IsByte n := by
  induction ns with
  | nil => exact fun n mem => absurd mem List.not_mem_nil
  | cons n ns ih =>
      rw [byteTexts_cons, List.length_append, List.length_cons] at length
      rw [byteTexts_cons, List.forall_mem_append] at digits
      have first := two_le_length_byteText n
      have others := two_mul_length_le_byteTexts ns
      refine List.forall_mem_cons.2 ⟨?_, ih (by omega) digits.2⟩
      by_contra other
      rcases byteText_of_not_isByte other with signed | long
      · exact absurd (digits.1 '-' signed) (by decide)
      · omega

/-! ## Channels -/

/-- The opacity as a number. -/
def Alpha.amount : Alpha Rat → Rat
  | .whole n => n
  | .part x => x

/-- The channels that are written: the opacity is left out unless something shines through. -/
def writtenChannels (red green blue : Rat) : Option (Alpha Rat) → List Rat
  | none => [red, green, blue]
  | some a => if a.amount < 1 then [red, green, blue, a.amount] else [red, green, blue]

/-- Whether a channel rounds to a byte. -/
def FitsByte (x : Rat) : Prop :=
  -1 / 510 ≤ x ∧ x < 511 / 510

instance (x : Rat) : Decidable (FitsByte x) :=
  inferInstanceAs (Decidable (_ ∧ _))

/-- Whether a byte is the nearest one to a channel, once that is limited to the range from zero to one; a
half goes up. -/
def IsNearestByte (byte : Nat) (x : Rat) : Prop :=
  byte - 1 / 2 ≤ 255 * max 0 (min 1 x) ∧ 255 * max 0 (min 1 x) < byte + 1 / 2

/-- A channel as an integer: 255 times the channel, rounded. -/
def scaledChannel (x : Rat) : Int := ⌊x * 255 + 1 / 2⌋

theorem isByte_scaledChannel {x : Rat} : IsByte (scaledChannel x) ↔ FitsByte x := by
  rw [IsByte, scaledChannel, FitsByte, Int.le_floor, Int.floor_lt]
  push_cast
  constructor <;> rintro ⟨low, high⟩ <;> constructor <;> linarith

theorem isNearestByte_scaledChannel {x : Rat} (fits : FitsByte x) :
    IsNearestByte (scaledChannel x).toNat x := by
  obtain ⟨nonneg, small⟩ := isByte_scaledChannel.2 fits
  have value : (((scaledChannel x).toNat : Nat) : Rat) = scaledChannel x := by
    exact_mod_cast Int.toNat_of_nonneg nonneg
  have low : (scaledChannel x : Rat) ≤ x * 255 + 1 / 2 := Int.floor_le _
  have high : x * 255 + 1 / 2 < scaledChannel x + 1 := Int.lt_floor_add_one _
  have first : (0 : Rat) ≤ scaledChannel x := by exact_mod_cast nonneg
  have last : (scaledChannel x : Rat) ≤ 255 := by exact_mod_cast Int.le_of_lt_add_one small
  rw [IsNearestByte, value]
  rcases lt_or_ge x 0 with negative | nonneg
  · rw [min_eq_right (by linarith), max_eq_left negative.le]
    constructor <;> linarith
  · rcases le_or_gt x 1 with usual | large
    · rw [min_eq_right usual, max_eq_right nonneg]
      constructor <;> linarith
    · rw [min_eq_left large.le, max_eq_right zero_le_one]
      constructor <;> linarith

/-! ## Colors -/

theorem inUnits_eq (a : Alpha Rat) : a.inUnits 255 = .ok (scaledChannel a.amount) := by
  cases a with
  | whole n =>
      change Except.ok (Rat.floor (((n * 255 : Int) : Rat) + half)) = _
      rw [half_eq, Int.cast_mul]
      rfl
  | part x =>
      change Except.ok (Rat.floor (x * ((255 : Int) : Rat) + half)) = _
      rw [half_eq]
      rfl

theorem channelByte_eq (x : Rat) : channelByte x = .ok (scaledChannel x) :=
  inUnits_eq (.part x)

theorem isTranslucent_iff (a : Alpha Rat) : a.isTranslucent = true ↔ a.amount < 1 := by
  cases a with
  | whole n =>
      change decide (n < 1) = true ↔ (n : Rat) < 1
      rw [decide_eq_true_eq]
      exact_mod_cast Iff.rfl
  | part x =>
      change decide (x < quotient 1 1) = true ↔ x < 1
      rw [decide_eq_true_eq, quotient_eq]
      norm_num

/-- A color is written for all channels, one after the other. -/
theorem hexColor_eq (red green blue : Rat) (alpha : Option (Alpha Rat)) :
    ∃ s, hexColor red green blue alpha = .ok s ∧
      s.toList = '#' :: byteTexts ((writtenChannels red green blue alpha).map scaledChannel) := by
  simp only [hexColor, channelByte_eq, inUnits_eq, ok_bind]
  cases alpha with
  | none => exact ⟨_, rfl, by simp [writtenChannels, byteTexts]⟩
  | some a =>
      by_cases shown : a.amount < 1
      · rw [Option.filter_some, if_pos ((isTranslucent_iff a).2 shown)]
        exact ⟨_, rfl, by simp [writtenChannels, byteTexts, shown]⟩
      · rw [Option.filter_some, if_neg (mt (isTranslucent_iff a).1 shown)]
        exact ⟨_, rfl, by simp [writtenChannels, byteTexts, shown]⟩

/-- Over exact rationals a color is a hash and two lowercase digits for each channel that is written,
exactly if all of these channels round to a byte, and each pair of digits is then the byte that is nearest
to its channel. -/
theorem hex_color_read_iff (red green blue : Rat) (alpha : Option (Alpha Rat)) :
    ∃ s, hexColor red green blue alpha = .ok s ∧
      ((∃ bytes, colorBytes? s = some bytes ∧
          bytes.length = (writtenChannels red green blue alpha).length) ↔
        ∀ x ∈ writtenChannels red green blue alpha, FitsByte x) ∧
      ((∀ x ∈ writtenChannels red green blue alpha, FitsByte x) →
        s.length = 1 + 2 * (writtenChannels red green blue alpha).length ∧
          ∃ bytes, colorBytes? s = some bytes ∧
            List.Forall₂ IsNearestByte bytes (writtenChannels red green blue alpha)) := by
  obtain ⟨s, run, digits⟩ := hexColor_eq red green blue alpha
  have reader : colorBytes? s =
      hexBytes? (byteTexts ((writtenChannels red green blue alpha).map scaledChannel)) := by
    rw [colorBytes?, digits]
    rfl
  refine ⟨s, run, ?_⟩
  rw [reader]
  generalize writtenChannels red green blue alpha = written at *
  have read (fits : ∀ x ∈ written, FitsByte x) :
      hexBytes? (byteTexts (written.map scaledChannel)) =
        some ((written.map scaledChannel).map Int.toNat) :=
    hexBytes?_byteTexts (List.forall_mem_map.2 fun x mem => isByte_scaledChannel.2 (fits x mem))
  refine ⟨⟨?_, fun fits => ⟨_, read fits, by simp⟩⟩, fun fits => ⟨?_, _, read fits, ?_⟩⟩
  · rintro ⟨bytes, read, length⟩ x mem
    obtain ⟨twice, digits⟩ := digits_of_hexBytes? read
    rw [length, ← List.length_map scaledChannel] at twice
    exact isByte_scaledChannel.1 (isByte_of_byteTexts twice digits _ (List.mem_map_of_mem mem))
  · rw [← String.length_toList, digits, List.length_cons, (digits_of_hexBytes? (read fits)).1,
      List.length_map, List.length_map, Nat.add_comm]
  · rw [List.map_map, List.forall₂_map_left_iff, List.forall₂_same]
    exact fun x mem => isNearestByte_scaledChannel (fits x mem)

/-- Channels between zero and one, the opacity among them. -/
theorem orange_reads_nearest_bytes :
    (∀ x ∈ writtenChannels 1 (1 / 2) 0 (some (.part (1 / 5))), FitsByte x) ∧
      hexColor (1 : Rat) (1 / 2) 0 (some (.part (1 / 5))) = .ok "#ff800033" ∧
      ∃ bytes, colorBytes? "#ff800033" = some bytes ∧
        List.Forall₂ IsNearestByte bytes [1, 1 / 2, 0, 1 / 5] := by
  have fits : ∀ x ∈ writtenChannels 1 (1 / 2) 0 (some (.part (1 / 5))), FitsByte x := by
    decide +kernel
  have text : hexColor (1 : Rat) (1 / 2) 0 (some (.part (1 / 5))) = .ok "#ff800033" := by
    decide +kernel
  have written : writtenChannels 1 (1 / 2) 0 (some (.part (1 / 5))) = [1, 1 / 2, 0, 1 / 5] := by
    decide +kernel
  obtain ⟨s, run, -, nearest⟩ := hex_color_read_iff 1 (1 / 2) 0 (some (.part (1 / 5)))
  obtain rfl : s = "#ff800033" := Except.ok.inj (run.symm.trans text)
  obtain ⟨-, bytes⟩ := nearest fits
  rw [written] at bytes
  exact ⟨fits, text, bytes⟩

/-- A channel that is twice as large as it may be takes three digits: the text is no color. -/
theorem large_channel_writes_no_color :
    hexColor (2 : Rat) 0 0 none = .ok "#1fe0000" ∧ colorBytes? "#1fe0000" = none := by
  decide +kernel

end TokenSheet.Css
