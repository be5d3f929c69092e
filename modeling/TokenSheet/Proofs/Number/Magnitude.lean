import TokenSheet.Number.Double
import TokenSheet.Proofs.Number.Rounding
import TokenSheet.Proofs.Returns

/-!
Bounds on doubles.

`IsBelow k x` says of the exact value of a double that it is finite and less than `2 ^ k` in size.
The machine's model unpacks the same value from the bits (`decode_eq`), so the bounds on unpacked
numbers become bounds on doubles: one lemma for each operation, and one for the way from integers to
doubles and back.
-/

namespace TokenSheet.Binary

open Float.Model Float.Model.UnpackedFloat

/-! ## Bits -/

/-- Whether a sign is that of a negative number. -/
def isNegative : Sign → Bool
  | .negative => true
  | .positive => false

section
variable (b : BitVec Format.binary64.numBits)

theorem toNat_unpackExponent : (unpackExponent b).toNat = b.toNat / 2 ^ 52 % 2 ^ 11 := by
  simp [unpackExponent, BitVec.extractLsb, BitVec.extractLsb'_toNat, Nat.shiftRight_eq_div_pow]

theorem toNat_unpackMantissa : (unpackMantissa b).toNat = b.toNat % 2 ^ 52 := by
  simp [unpackMantissa, BitVec.extractLsb, BitVec.extractLsb'_toNat]

theorem toNat_unpackSign : (unpackSign b).toNat = b.toNat / 2 ^ 63 % 2 := by
  unfold unpackSign BitVec.extractLsb
  rw [BitVec.toNat_cast, BitVec.extractLsb'_toNat, Nat.shiftRight_eq_div_pow]
  rfl

theorem isNegative_unpackSign :
    isNegative (.ofBitVec (unpackSign b)) = decide (b.toNat / 2 ^ 63 % 2 = 1) := by
  rw [← toNat_unpackSign]
  generalize unpackSign b = s
  revert s
  decide

theorem toNat_one_append {w : Nat} (v : BitVec w) : (1#1 ++ v).toNat = 2 ^ w + v.toNat := by
  rw [BitVec.toNat_append, ← Nat.shiftLeft_add_eq_or_of_lt v.isLt, Nat.shiftLeft_eq]
  simp

/-- Bits with an exponent field that is neither the first nor the last one hold a number with all
the digits of a mantissa. -/
theorem unpack_normal (some : b.toNat / 2 ^ 52 % 2 ^ 11 ≠ 0)
    (finite : b.toNat / 2 ^ 52 % 2 ^ 11 ≠ 2047) :
    ∃ s m pos, UnpackedFloat.unpack .binary64 b =
      .finite s m ((b.toNat / 2 ^ 52 % 2 ^ 11 : Nat) - 1075) pos ∧ m.log2 = 52 := by
  rw [← toNat_unpackExponent] at some finite ⊢
  have notLast : unpackExponent b ≠ -1#_ := by
    intro last
    apply finite
    rw [last]
    rfl
  have notFirst : unpackExponent b ≠ 0#_ := by
    intro first
    apply some
    rw [first]
    rfl
  have mantissa : (unpackMantissa b).toNat < 2 ^ 52 := (unpackMantissa b).isLt
  have joined : (1#1 ++ unpackMantissa b).toNat = 2 ^ 52 + (unpackMantissa b).toNat :=
    toNat_one_append _
  have pos : 0 < (1#1 ++ unpackMantissa b).toNat := by omega
  unfold UnpackedFloat.unpack
  rw [if_neg notLast, if_neg notFirst]
  refine ⟨_, _, pos, rfl, ?_⟩
  rw [joined, Nat.log2_eq_iff (by omega)]
  omega

/-- A number whose bits have an exponent field that is not too large is below a power of two. -/
theorem below_unpack {k : Nat} (finite : b.toNat / 2 ^ 52 % 2 ^ 11 ≠ 2047)
    (small : b.toNat / 2 ^ 52 % 2 ^ 11 ≤ k + 1022) : Below k (UnpackedFloat.unpack .binary64 b) := by
  by_cases none : b.toNat / 2 ^ 52 % 2 ^ 11 = 0
  · have mantissa : (unpackMantissa b).toNat < 2 ^ 52 := (unpackMantissa b).isLt
    have length : (unpackMantissa b).toNat.log2 ≤ 51 := log2_le_of_lt mantissa
    have bias : (Format.binary64.exponentBias : Int) = 1023 := rfl
    have bits : (Format.binary64.mantissaBitsWithoutImplicit : Int) = 52 := rfl
    rw [← toNat_unpackExponent] at none
    have first : unpackExponent b = 0#_ := BitVec.eq_of_toNat_eq none
    have notLast : unpackExponent b ≠ -1#_ := by
      rw [first]
      decide
    unfold UnpackedFloat.unpack
    rw [if_neg notLast, if_pos first]
    split
    · trivial
    · simp only [Below, totalExponent]
      omega
  · obtain ⟨s, m, pos, unpacked, length⟩ := unpack_normal b none finite
    rw [unpacked]
    unfold Below totalExponent
    omega

theorem atLeastOne_unpack (finite : b.toNat / 2 ^ 52 % 2 ^ 11 ≠ 2047)
    (large : 1023 ≤ b.toNat / 2 ^ 52 % 2 ^ 11) :
    AtLeastOne (UnpackedFloat.unpack .binary64 b) := by
  obtain ⟨s, m, pos, unpacked, length⟩ := unpack_normal b (by omega) finite
  rw [unpacked]
  unfold AtLeastOne totalExponent
  omega

end

/-- The exponent field of a number in packed form. -/
theorem exponentField_packComponents (s : Sign) (e : Nat) (m : BitVec 52) (range : e < 2048) :
    (packComponents .binary64 s (BitVec.ofNat 11 e) m).toNat / 2 ^ 52 % 2 ^ 11 = e := by
  rw [← toNat_unpackExponent, unpackExponent_packComponents, BitVec.toNat_ofNat]
  exact Nat.mod_eq_of_lt range

/-- The exponent field that a number is packed with. -/
theorem exponentField_pack (s : Sign) {m : Nat} {e : Int} (pos : 0 < m) (range : e ≤ 971) :
    (UnpackedFloat.pack .binary64 (.finite s m e pos)).toNat / 2 ^ 52 % 2 ^ 11 =
      if m.log2 = 52 then (e + 1075).toNat else 0 := by
  have field : e + (Format.binary64.exponentBias : Int) +
      (Format.binary64.mantissaBitsWithoutImplicit : Int) = e + 1075 := by
    change e + 1023 + 52 = e + 1075
    omega
  have digits : m.log2 + 1 = Format.binary64.mantissaBits ↔ m.log2 = 52 := by
    change m.log2 + 1 = 53 ↔ m.log2 = 52
    omega
  unfold UnpackedFloat.pack
  simp only [field, digits]
  rw [if_neg (by change ¬ 2048 ≤ _; omega)]
  split
  · exact exponentField_packComponents s _ _ (by omega)
  · exact exponentField_packComponents s 0 _ (by decide)

/-- Packing keeps a bound that the range of a double can hold. -/
theorem below_unpack_pack {k : Nat} {u : UnpackedFloat} (range : k ≤ 972) (small : Below k u) :
    Below k (UnpackedFloat.unpack .binary64 (UnpackedFloat.pack .binary64 u)) := by
  obtain ⟨s, rfl⟩ | ⟨s, m, e, pos, rfl, total⟩ := small.zero_or_finite
  · cases s <;> trivial
  · unfold totalExponent at total
    have field := exponentField_pack s pos (by omega : e ≤ 971)
    split at field <;> apply below_unpack <;> omega

/-- Packing a number with all the digits of a mantissa keeps it at least one in size. -/
theorem atLeastOne_unpack_pack {s : Sign} {m : Nat} {e : Int} {pos : 0 < m} (digits : m.log2 = 52)
    (range : e ≤ 971) (large : AtLeastOne (.finite s m e pos)) :
    AtLeastOne (UnpackedFloat.unpack .binary64 (UnpackedFloat.pack .binary64 (.finite s m e pos))) := by
  have field := exponentField_pack s pos range
  rw [if_pos digits] at field
  unfold AtLeastOne totalExponent at large
  apply atLeastOne_unpack <;> omega

/-- Packing keeps the sign of a number. -/
theorem notNegative_unpack_pack {u : UnpackedFloat} (sign : NotNegative u) :
    NotNegative (UnpackedFloat.unpack .binary64 (UnpackedFloat.pack .binary64 u)) := by
  have unpacked (e : BitVec 11) (m : BitVec 52) :
      NotNegative (UnpackedFloat.unpack .binary64 (packComponents .binary64 .positive e m)) := by
    unfold UnpackedFloat.unpack
    dsimp only
    rw [unpackSign_packComponents, Sign.ofBitVec_toBitVec]
    split
    · split <;> trivial
    · split
      · split <;> trivial
      · trivial
  cases u with
  | finite s m e pos =>
      cases s with
      | negative => exact sign.elim
      | positive =>
          unfold UnpackedFloat.pack
          dsimp only
          split
          · exact unpacked _ _
          · split <;> exact unpacked _ _
  | zero s => cases s <;> trivial
  | infinity s => cases s <;> trivial
  | notANumber => trivial

/-! ## The exact value of a double -/

/-- The exact value of an unpacked number. -/
def valueOf : UnpackedFloat → Value
  | .zero s => .finite (isNegative s) 0 minExponent
  | .finite s m e _ => .finite (isNegative s) m e
  | .infinity s => .infinite (isNegative s)
  | .notANumber => .notANumber

/-- Decoding, with the fields of the bits written as quotients and remainders. -/
theorem decode_toBits (x : Float) :
    decode x =
      let n := x.toModel.toBits.toBitVec.toNat
      let negative := decide (n / 2 ^ 63 % 2 = 1)
      if n / 2 ^ 52 % 2 ^ 11 = 2047 then
        if n % 2 ^ 52 = 0 then .infinite negative else .notANumber
      else if n / 2 ^ 52 % 2 ^ 11 = 0 then
        .finite negative (n % 2 ^ 52) minExponent
      else
        .finite negative (2 ^ 52 + n % 2 ^ 52) (minExponent + (n / 2 ^ 52 % 2 ^ 11 - 1 : Nat)) :=
  rfl

/-- A double is decoded to the number that the machine unpacks from it. -/
theorem decode_eq (x : Float) : decode x = valueOf x.toModel.unpack := by
  rw [decode_toBits]
  unfold Float.Model.unpack UnpackedFloat.unpack
  generalize (x.toModel.toBits.toBitVec : BitVec Format.binary64.numBits) = b
  have exponent := toNat_unpackExponent b
  have mantissa := toNat_unpackMantissa b
  have sign := isNegative_unpackSign b
  have bias : (Format.binary64.exponentBias : Int) = 1023 := rfl
  have places : (Format.binary64.mantissaBitsWithoutImplicit : Int) = 52 := rfl
  have last : @unpackExponent .binary64 b = -1#_ ↔ b.toNat / 2 ^ 52 % 2 ^ 11 = 2047 := by
    rw [← exponent, ← BitVec.toNat_inj]
    rfl
  have first : @unpackExponent .binary64 b = 0#_ ↔ b.toNat / 2 ^ 52 % 2 ^ 11 = 0 := by
    rw [← exponent, ← BitVec.toNat_inj]
    rfl
  have none : @unpackMantissa .binary64 b = 0#_ ↔ b.toNat % 2 ^ 52 = 0 := by
    rw [← mantissa, ← BitVec.toNat_inj]
    rfl
  dsimp only
  by_cases isLast : b.toNat / 2 ^ 52 % 2 ^ 11 = 2047
  · rw [if_pos isLast, if_pos (last.2 isLast)]
    by_cases isNone : b.toNat % 2 ^ 52 = 0
    · rw [if_pos isNone, if_pos (none.2 isNone), valueOf, sign]
    · rw [if_neg isNone, if_neg (mt none.1 isNone), valueOf]
  · rw [if_neg isLast, if_neg (mt last.1 isLast)]
    by_cases isFirst : b.toNat / 2 ^ 52 % 2 ^ 11 = 0
    · rw [if_pos isFirst, if_pos (first.2 isFirst)]
      by_cases isNone : b.toNat % 2 ^ 52 = 0
      · rw [dif_pos (none.2 isNone), valueOf, sign, isNone]
      · rw [dif_neg (mt none.1 isNone), valueOf, sign, mantissa, exponent, isFirst]
        rfl
    · rw [if_neg isFirst, if_neg (mt first.1 isFirst), valueOf, sign, toNat_one_append, mantissa,
        exponent, bias, places]
      congr 1
      unfold minExponent
      omega

/-! ## Bounds -/

/-- Whether a value is finite and less than `2 ^ k` in size. -/
def Value.IsBelow (k : Nat) : Value → Prop
  | .finite _ m e => (ratio m e).1 < 2 ^ k * (ratio m e).2
  | .infinite _ => False
  | .notANumber => False

instance (k : Nat) (v : Value) : Decidable (v.IsBelow k) :=
  match v with
  | .finite _ m e => inferInstanceAs (Decidable ((ratio m e).1 < 2 ^ k * (ratio m e).2))
  | .infinite _ => isFalse id
  | .notANumber => isFalse id

/-- Whether a value is finite and at least one in size. -/
def Value.IsAtLeastOne : Value → Prop
  | .finite _ m e => (ratio m e).2 ≤ (ratio m e).1
  | .infinite _ => False
  | .notANumber => False

instance (v : Value) : Decidable v.IsAtLeastOne :=
  match v with
  | .finite _ m e => inferInstanceAs (Decidable ((ratio m e).2 ≤ (ratio m e).1))
  | .infinite _ => isFalse id
  | .notANumber => isFalse id

/-- Whether a double is finite and less than `2 ^ k` in size. -/
def IsBelow (k : Nat) (x : Float) : Prop :=
  (decode x).IsBelow k

instance (k : Nat) (x : Float) : Decidable (IsBelow k x) :=
  inferInstanceAs (Decidable ((decode x).IsBelow k))

/-- Whether a double is finite and at least one in size. -/
def IsAtLeastOne (x : Float) : Prop :=
  (decode x).IsAtLeastOne

instance (x : Float) : Decidable (IsAtLeastOne x) :=
  inferInstanceAs (Decidable (decode x).IsAtLeastOne)

theorem ratio_pos (m : Nat) (e : Int) : 0 < (ratio m e).2 := by
  unfold ratio
  split
  · exact Nat.one_pos
  · exact Nat.two_pow_pos _

theorem ratio_zero (e : Int) : (ratio 0 e).1 = 0 := by
  unfold ratio
  split
  · exact Nat.zero_mul _
  · rfl

theorem ratio_lt_iff {m : Nat} (some : m ≠ 0) (e : Int) (k : Nat) :
    (ratio m e).1 < 2 ^ k * (ratio m e).2 ↔ totalExponent m e ≤ k := by
  unfold ratio totalExponent
  by_cases whole : 0 ≤ e
  · have shifted := log2_shiftLeft some e.toNat
    rw [Nat.shiftLeft_eq] at shifted
    have product : m * 2 ^ e.toNat ≠ 0 := Nat.mul_ne_zero some (Nat.ne_of_gt (Nat.two_pow_pos _))
    simp only [if_pos whole, Nat.pow_eq, Nat.mul_one]
    rw [← Nat.log2_lt product, shifted]
    omega
  · simp only [if_neg whole, Nat.pow_eq]
    rw [← Nat.pow_add, ← Nat.log2_lt some]
    omega

theorem ratio_le_iff {m : Nat} (some : m ≠ 0) (e : Int) :
    (ratio m e).2 ≤ (ratio m e).1 ↔ 1 ≤ totalExponent m e := by
  have less := ratio_lt_iff some e 0
  rw [Nat.pow_zero, Nat.one_mul] at less
  omega

theorem isBelow_iff {k : Nat} {x : Float} : IsBelow k x ↔ Below k x.toModel.unpack := by
  unfold IsBelow
  rw [decode_eq]
  cases x.toModel.unpack with
  | zero s =>
      have positive := Nat.mul_pos (Nat.two_pow_pos k) (ratio_pos 0 minExponent)
      rw [← ratio_zero minExponent] at positive
      exact iff_of_true positive trivial
  | finite s m e pos => exact ratio_lt_iff (Nat.ne_of_gt pos) e k
  | infinity s => exact Iff.rfl
  | notANumber => exact Iff.rfl

theorem isAtLeastOne_iff {x : Float} : IsAtLeastOne x ↔ AtLeastOne x.toModel.unpack := by
  unfold IsAtLeastOne
  rw [decode_eq]
  cases x.toModel.unpack with
  | zero s =>
      have positive := ratio_pos 0 minExponent
      rw [← Nat.not_le, ← ratio_zero minExponent] at positive
      exact iff_of_false positive id
  | finite s m e pos => exact ratio_le_iff (Nat.ne_of_gt pos) e
  | infinity s => exact Iff.rfl
  | notANumber => exact Iff.rfl

section
variable {j k : Nat} {x y : Float}

theorem IsBelow.mono (h : IsBelow j x) (le : j ≤ k) : IsBelow k x :=
  isBelow_iff.2 ((isBelow_iff.1 h).mono (by omega))

/-- A result of an operation is bounded as it was before it was packed. -/
theorem isBelow_of_pack {u : UnpackedFloat} (h : Below k u) (range : k ≤ 972) :
    IsBelow k (.ofModel (.pack u)) :=
  isBelow_iff.2 (below_unpack_pack range h)

theorem IsBelow.add (left : IsBelow k x) (right : IsBelow k y) (range : k ≤ 970) :
    IsBelow (k + 2) (x + y) :=
  isBelow_of_pack ((isBelow_iff.1 left).add (by omega) (isBelow_iff.1 right)) (by omega)

theorem IsBelow.sub (left : IsBelow k x) (right : IsBelow k y) (range : k ≤ 970) :
    IsBelow (k + 2) (x - y) :=
  isBelow_of_pack ((isBelow_iff.1 left).sub (by omega) (isBelow_iff.1 right)) (by omega)

theorem IsBelow.mul (left : IsBelow j x) (right : IsBelow k y) (range : j + k ≤ 971) :
    IsBelow (j + k + 1) (x * y) :=
  isBelow_of_pack ((isBelow_iff.1 left).mul (by omega) (isBelow_iff.1 right)) (by omega)

theorem IsBelow.div (left : IsBelow k x) (right : IsAtLeastOne y) (range : k ≤ 970) :
    IsBelow (k + 2) (x / y) :=
  isBelow_of_pack ((isBelow_iff.1 left).div (by omega) (isAtLeastOne_iff.1 right))
    (by omega)

theorem IsBelow.neg (h : IsBelow k x) (range : k ≤ 972) : IsBelow k (-x) :=
  isBelow_of_pack (isBelow_iff.1 h).neg range

/-- The root of a sum of squares. -/
theorem IsBelow.sqrt_add_squares (left : IsBelow k x) (right : IsBelow k y) (range : k ≤ 480) :
    IsBelow (2 * k + 5) (Float.sqrt (x * x + y * y)) := by
  have square := left.mul left (by omega)
  have square' := right.mul right (by omega)
  have sum := isBelow_iff.1 (square.add square' (by omega))
  have sign : NotNegative (x * x + y * y).toModel.unpack :=
    notNegative_unpack_pack ((notNegative_unpack_pack (notNegative_mul_self _)).add
      (notNegative_unpack_pack (notNegative_mul_self _)))
  have root : IsBelow (k + k + 1 + 2 + 2) (Float.sqrt (x * x + y * y)) :=
    isBelow_of_pack (sum.sqrt (by omega) sign) (by omega)
  exact root.mono (by omega)

end

/-! ## Integers -/

theorem IsBelow.finite {k : Nat} {x : Float} (h : IsBelow k x) :
    ∃ negative m e, decode x = .finite negative m e := by
  unfold IsBelow at h
  generalize decode x = v at h
  cases v with
  | finite negative m e => exact ⟨negative, m, e, rfl⟩
  | infinite negative => exact h.elim
  | notANumber => exact h.elim

theorem IsBelow.floor {k : Nat} {x : Float} (h : IsBelow k x) : ∃ n, doubleFloor x = .ok n := by
  obtain ⟨negative, m, e, value⟩ := h.finite
  unfold doubleFloor floor?
  rw [value]
  exact ⟨_, rfl⟩

theorem IsBelow.round {k : Nat} {x : Float} (h : IsBelow k x) : ∃ n, doubleRound x = .ok n := by
  obtain ⟨negative, m, e, value⟩ := h.finite
  unfold doubleRound round?
  rw [value]
  exact ⟨_, rfl⟩

theorem roundHalfEven_le (n d : Nat) : roundHalfEven n d ≤ n / d + 1 := by
  unfold roundHalfEven
  dsimp only
  split
  · omega
  · split
    · omega
    · split <;> omega

theorem le_roundHalfEven (n d : Nat) : n / d ≤ roundHalfEven n d := by
  unfold roundHalfEven
  dsimp only
  split
  · omega
  · split
    · omega
    · split <;> omega

theorem scaleDown_eq (n d : Nat) (e : Int) :
    scaleDown n d e = (n * 2 ^ (-e).toNat, d * 2 ^ e.toNat) := by
  unfold scaleDown
  split
  · have none : (-e).toNat = 0 := by omega
    rw [none, Nat.pow_zero, Nat.mul_one]
    rfl
  · have none : e.toNat = 0 := by omega
    rw [none, Nat.pow_zero, Nat.mul_one]
    rfl

/-- An integer measured in units that leave it a given number of digits in front of the point. -/
theorem scaleDown_bounds {n : Nat} (some : n ≠ 0) (k : Nat) :
    2 ^ k * (scaleDown n 1 (n.log2 - k)).2 ≤ (scaleDown n 1 (n.log2 - k)).1 ∧
      (scaleDown n 1 (n.log2 - k)).1 < 2 ^ (k + 1) * (scaleDown n 1 (n.log2 - k)).2 := by
  rw [scaleDown_eq]
  generalize up : (-((n.log2 : Int) - k)).toNat = i
  generalize down : ((n.log2 : Int) - k).toNat = j
  have same : k + j = n.log2 + i := by omega
  have same' : k + 1 + j = n.log2 + 1 + i := by omega
  simp only [Nat.one_mul]
  rw [← Nat.pow_add, ← Nat.pow_add, same, same', Nat.pow_add, Nat.pow_add]
  exact ⟨Nat.mul_le_mul_right _ (Nat.log2_self_le some),
    Nat.mul_lt_mul_of_pos_right Nat.lt_log2_self (Nat.two_pow_pos i)⟩

/-- The exponent at which an integer has all the digits of a mantissa. -/
theorem mantissaExponent_one {n : Nat} (some : n ≠ 0) : mantissaExponent n 1 = n.log2 - 52 := by
  have guess : (n.log2 : Int) - Nat.log2 1 - 53 = n.log2 - (53 : Nat) := by
    change (n.log2 : Int) - 0 - 53 = n.log2 - 53
    omega
  unfold mantissaExponent minExponent
  rw [guess]
  simp only [Nat.pow_eq]
  rw [if_pos (scaleDown_bounds some 53).1]
  omega

theorem nearestBits_one {n : Nat} (some : n ≠ 0) (range : n.log2 ≤ 1022) :
    (n.log2 + 1023) * 2 ^ 52 ≤ nearestBits n 1 ∧ nearestBits n 1 ≤ (n.log2 + 1024) * 2 ^ 52 := by
  obtain ⟨low, high⟩ := scaleDown_bounds some 52
  have positive : 0 < (scaleDown n 1 ((n.log2 : Int) - (52 : Nat))).2 := by
    rw [scaleDown_eq]
    exact Nat.mul_pos Nat.one_pos (Nat.two_pow_pos _)
  unfold nearestBits minExponent
  rw [if_neg some, mantissaExponent_one some]
  simp only [Nat.pow_eq]
  generalize scaleDown n 1 ((n.log2 : Int) - (52 : Nat)) = r at *
  have least := (Nat.le_div_iff_mul_le positive).2 low
  have most := (Nat.div_lt_iff_lt_mul positive).2 high
  have down := le_roundHalfEven r.1 r.2
  have up := roundHalfEven_le r.1 r.2
  omega

/-- The exponent field of the double nearest to an integer. -/
theorem exponentField_nearest (negative : Bool) {n : Nat} (some : n ≠ 0) (range : n.log2 ≤ 1022) :
    let bits := UInt64.ofNat ((if negative then Nat.pow 2 63 else 0) + nearestBits n 1)
    n.log2 + 1023 ≤ bits.toBitVec.toNat / 2 ^ 52 % 2 ^ 11 ∧
      bits.toBitVec.toNat / 2 ^ 52 % 2 ^ 11 ≤ n.log2 + 1024 := by
  obtain ⟨low, high⟩ := nearestBits_one some range
  generalize nearestBits n 1 = b at low high
  have value : (UInt64.ofNat ((if negative then Nat.pow 2 63 else 0) + b)).toBitVec.toNat =
      (if negative then 2 ^ 63 else 0) + b := by
    change ((if negative then 2 ^ 63 else 0) + b) % 2 ^ 64 = _
    split <;> omega
  intro bits
  rw [value]
  split <;> omega

theorem isBelow_ofBits {k : Nat} (bits : UInt64) (range : k ≤ 972)
    (small : bits.toBitVec.toNat / 2 ^ 52 % 2 ^ 11 ≤ k + 1022) : IsBelow k (.ofBits bits) :=
  isBelow_of_pack (below_unpack _ (by omega) small) range

theorem isAtLeastOne_ofBits (bits : UInt64) (finite : bits.toBitVec.toNat / 2 ^ 52 % 2 ^ 11 ≠ 2047)
    (large : 1023 ≤ bits.toBitVec.toNat / 2 ^ 52 % 2 ^ 11) : IsAtLeastOne (.ofBits bits) := by
  have size := atLeastOne_unpack bits.toBitVec finite large
  obtain ⟨s, m, pos, unpacked, digits⟩ := unpack_normal bits.toBitVec (by omega) finite
  rw [unpacked] at size
  rw [isAtLeastOne_iff]
  change AtLeastOne (UnpackedFloat.unpack .binary64
    (UnpackedFloat.pack .binary64 (UnpackedFloat.unpack .binary64 bits.toBitVec)))
  rw [unpacked]
  exact atLeastOne_unpack_pack digits (by omega) size

/-- The double nearest to an integer. -/
theorem ofQuotient_one {k : Nat} {n : Int} (small : n.natAbs < 2 ^ k) (range : k ≤ 971) :
    IsBelow (k + 1) (ofQuotient n 1) ∧ (n ≠ 0 → IsAtLeastOne (ofQuotient n 1)) := by
  by_cases none : n = 0
  · subst none
    have zero : IsBelow 0 (ofQuotient 0 1) := by decide +kernel
    exact ⟨zero.mono (Nat.zero_le _), fun some => absurd rfl some⟩
  · have some : n.natAbs ≠ 0 := Int.natAbs_ne_zero.2 none
    have digits : n.natAbs.log2 < k := (Nat.log2_lt some).2 small
    obtain ⟨low, high⟩ := exponentField_nearest (decide (n < 0)) some (by omega)
    refine ⟨isBelow_ofBits _ (by omega) (by omega), fun _ => isAtLeastOne_ofBits _ ?_ ?_⟩ <;> omega

theorem doubleOfInt_eq_ok {k : Nat} {n : Int} (small : n.natAbs < 2 ^ k) (range : k ≤ 971) :
    doubleOfInt n = .ok (ofQuotient n 1) := by
  obtain ⟨negative, m, e, value⟩ := (ofQuotient_one small range).1.finite
  unfold doubleOfInt isFinite
  dsimp only
  rw [value]
  rfl

/-! ## Decimal places -/

theorem natAbs_pow_ten_lt (places : Nat) : (Int.pow 10 places).natAbs < 2 ^ (4 * places + 1) := by
  have value : (Int.pow 10 places).natAbs = 10 ^ places := Int.natAbs_pow 10 places
  have sixteen : (10 : Nat) ^ places ≤ 16 ^ places := Nat.pow_le_pow_left (by decide) places
  have binary : (16 : Nat) ^ places = 2 ^ (4 * places) := by rw [Nat.pow_mul]
  rw [value, Nat.pow_succ]
  have positive := Nat.two_pow_pos (4 * places)
  omega

/-- Rounding returns for a number that the shift to its decimal places keeps in the range. -/
theorem IsBelow.roundTo {k places : Nat} {x : Float} (h : IsBelow k x)
    (range : k + 4 * places ≤ 960) : Returns (Scalar.roundTo x places) := by
  have power := natAbs_pow_ten_lt places
  have factor := (ofQuotient_one power (by omega)).1
  have half : IsBelow 0 (ofQuotient 1 2) := by decide +kernel
  have shifted := h.mul factor (by omega)
  have raised := shifted.add (half.mono (Nat.zero_le _)) (by omega)
  obtain ⟨n, whole⟩ := raised.floor
  have power' : (Scalar.ofInt (Int.pow 10 places) : Except NumberError Float) = .ok _ :=
    doubleOfInt_eq_ok power (by omega)
  unfold Scalar.roundTo
  rw [power', ok_bind]
  exact Returns.map ⟨n, whole⟩ _

end TokenSheet.Binary
