import Mathlib

/-!
How large a machine number can become.

The machine's arithmetic works on unpacked numbers: a sign with `mantissa * 2 ^ exponent`, or an
infinity, or no number at all. `Below k` says that such a number is finite and less than `2 ^ k` in
size. Each operation on numbers below powers of two gives a number below a power that is little
larger: the exact result has a bound by its operands, and rounding doubles it at most. Packing a
number into its bits keeps the bound as long as the range of a double does.
-/

namespace TokenSheet.Binary

open Float.Model Float.Model.UnpackedFloat

/-! ## Binary logarithms -/

theorem log2_le_of_lt {n k : Nat} (small : n < 2 ^ (k + 1)) : n.log2 ≤ k := by
  by_cases none : n = 0
  · rw [none, Nat.log2_zero]
    exact Nat.zero_le k
  · have := (Nat.log2_lt none).2 small
    omega

theorem log2_mono {m n : Nat} (le : m ≤ n) : m.log2 ≤ n.log2 := by
  rw [Nat.log2_eq_log_two, Nat.log2_eq_log_two]
  exact Nat.log_mono_right le

theorem log2_div_pow (m k : Nat) : (m / 2 ^ k).log2 = m.log2 - k := by
  rw [Nat.log2_eq_log_two, Nat.log2_eq_log_two]
  exact Nat.log_div_base_pow 2 m k

theorem log2_mul_le (m n : Nat) : (m * n).log2 ≤ m.log2 + n.log2 + 1 := by
  apply log2_le_of_lt
  have product : m * n < 2 ^ (m.log2 + 1) * 2 ^ (n.log2 + 1) :=
    Nat.mul_lt_mul'' Nat.lt_log2_self Nat.lt_log2_self
  rw [← Nat.pow_add] at product
  have same : m.log2 + 1 + (n.log2 + 1) = m.log2 + n.log2 + 1 + 1 := by omega
  rwa [same] at product

theorem log2_add_le (m n : Nat) : (m + n).log2 ≤ max m.log2 n.log2 + 1 := by
  apply log2_le_of_lt
  have left : m < 2 ^ (max m.log2 n.log2 + 1) :=
    Nat.lt_of_lt_of_le Nat.lt_log2_self (Nat.pow_le_pow_right (by decide) (by omega))
  have right : n < 2 ^ (max m.log2 n.log2 + 1) :=
    Nat.lt_of_lt_of_le Nat.lt_log2_self (Nat.pow_le_pow_right (by decide) (by omega))
  rw [Nat.pow_succ 2 (max m.log2 n.log2 + 1)]
  omega

theorem log2_shiftLeft {m : Nat} (some : m ≠ 0) (k : Nat) : (m <<< k).log2 = m.log2 + k := by
  induction k with
  | zero => rfl
  | succ k ih =>
      have shifted : m <<< k ≠ 0 := by
        rw [Nat.shiftLeft_eq]
        exact Nat.mul_ne_zero some (Nat.ne_of_gt (Nat.two_pow_pos k))
      rw [Nat.shiftLeft_succ, Nat.log2_two_mul shifted, ih]
      omega

theorem le_log2_of_div {m k : Nat} (kept : m / 2 ^ k ≠ 0) : k ≤ m.log2 := by
  have some : m ≠ 0 := by
    rintro rfl
    exact kept (Nat.zero_div _)
  apply (Nat.le_log2 some).2
  by_contra small
  exact kept (Nat.div_eq_of_lt (by omega))

theorem log2_div_le (m : Nat) {n : Nat} (some : n ≠ 0) : (m / n).log2 ≤ m.log2 - n.log2 := by
  rw [← log2_div_pow]
  exact log2_mono (Nat.div_le_div_left (Nat.log2_self_le some) (Nat.two_pow_pos _))

theorem log2_sqrt_le {m : Nat} : 2 * (Nat.sqrt m).log2 ≤ m.log2 := by
  by_cases none : m.sqrt = 0
  · rw [none, Nat.log2_zero]
    exact Nat.zero_le _
  · have root : m.sqrt * m.sqrt ≤ m := Nat.sqrt_le m
    have size : 2 ^ m.sqrt.log2 ≤ m.sqrt := Nat.log2_self_le none
    have some : m ≠ 0 := by
      rintro rfl
      exact none Nat.sqrt_zero
    apply (Nat.le_log2 some).2
    rw [Nat.two_mul, Nat.pow_add]
    exact Nat.le_trans (Nat.mul_le_mul size size) root

/-! ## Numbers below a power of two -/

/-- Whether a number is finite and less than `2 ^ k` in size. -/
def Below (k : Int) : UnpackedFloat → Prop
  | .zero _ => True
  | .finite _ m e _ => totalExponent m e ≤ k
  | .infinity _ => False
  | .notANumber => False

theorem Below.mono {j k : Int} {u : UnpackedFloat} (h : Below j u) (le : j ≤ k) : Below k u := by
  cases u with
  | zero s => trivial
  | finite s m e pos => exact Int.le_trans h le
  | infinity s => exact h
  | notANumber => exact h

/-! ## Rounding -/

theorem mantissa_shiftRight (em : ExtendedMantissa) (n : Nat) :
    (em >>> n).mantissa = em.mantissa / 2 ^ n := by
  induction n with
  | zero => exact (Nat.div_one _).symm
  | succ n ih =>
      have step : (em >>> (n + 1)).mantissa = (em >>> n).mantissa / 2 := rfl
      rw [step, ih, Nat.div_div_eq_div_mul, Nat.pow_succ]

theorem roundedMantissa_le (em : ExtendedMantissa) : em.roundedMantissa ≤ em.mantissa + 1 := by
  obtain ⟨m, roundBit, stickyBit⟩ := em
  unfold ExtendedMantissa.roundedMantissa
  cases roundBit <;> cases stickyBit <;>
    simp only [ExtendedMantissa.accuracy, Accuracy.roundToNearestEven] <;> omega

theorem mantissa_ofMantissaAndAccuracy (m : Nat) (a : Accuracy) :
    (ExtendedMantissa.ofMantissaAndAccuracy m a).mantissa = m := by
  rcases a with _ | o
  · rfl
  · cases o <;> rfl

/-- A shift to the exponent of the format drops digits at the end. -/
theorem exists_shift (m : Nat) (e : Int) (a : Accuracy) :
    ∃ n : Nat, (shiftToTargetExponent .binary64 m e a).1.mantissa = m / 2 ^ n ∧
      (shiftToTargetExponent .binary64 m e a).2 = e + n ∧
      e + n ≤ max e (max (totalExponent m e - 53) (-1074)) := by
  refine ⟨(Format.binary64.targetExponent (totalExponent m e) - e).toNat, ?_, rfl, ?_⟩
  · unfold shiftToTargetExponent shiftToExponent
    rw [mantissa_shiftRight, mantissa_ofMantissaAndAccuracy]
  · have target : Format.binary64.targetExponent (totalExponent m e) =
        max (totalExponent m e - 53) (-1074) := rfl
    rw [target]
    omega

/-- Rounding to the format doubles a number at most. -/
theorem below_roundWithAccuracy {k : Int} (s : Sign) {m : Nat} {e : Int} (a : Accuracy)
    (low : -1074 ≤ k) (small : totalExponent m e ≤ k) :
    Below (k + 1) (roundWithAccuracy .binary64 s m e a) := by
  obtain ⟨n, mantissa, exponent, target⟩ := exists_shift m e a
  unfold roundWithAccuracy
  generalize shiftToTargetExponent .binary64 m e a = first at mantissa exponent
  obtain ⟨em, e₁⟩ := first
  obtain ⟨n', mantissa', exponent', -⟩ := exists_shift em.roundedMantissa e₁ .exact
  dsimp only at mantissa exponent mantissa' exponent' ⊢
  generalize shiftToTargetExponent .binary64 em.roundedMantissa e₁ .exact = second
    at mantissa' exponent'
  obtain ⟨em', e₂⟩ := second
  dsimp only at mantissa' exponent' ⊢
  by_cases some : em'.mantissa = 0
  · rw [dif_pos some]
    trivial
  · rw [dif_neg some]
    -- The carry of rounding makes the mantissa one digit longer at most.
    have carried : em.roundedMantissa.log2 + 1 + e₁ ≤ k + 1 := by
      have rounded := roundedMantissa_le em
      by_cases dropped : em.mantissa = 0
      · have one : em.roundedMantissa.log2 ≤ 0 := log2_le_of_lt (by omega)
        unfold totalExponent at small target
        omega
      · have longer : em.roundedMantissa.log2 ≤ em.mantissa.log2 + 1 := by
          have sum := log2_add_le em.mantissa 1
          have one : Nat.log2 1 = 0 := rfl
          have := log2_mono rounded
          omega
        have kept : em.mantissa.log2 = m.log2 - n := by rw [mantissa, log2_div_pow]
        have reach : n ≤ m.log2 := le_log2_of_div (mantissa ▸ dropped)
        unfold totalExponent at small
        omega
    have kept : em'.mantissa.log2 = em.roundedMantissa.log2 - n' := by rw [mantissa', log2_div_pow]
    have reach : n' ≤ em.roundedMantissa.log2 := le_log2_of_div (mantissa' ▸ some)
    change (em'.mantissa.log2 : Int) + 1 + e₂ ≤ k + 1
    omega

/-- A number at a lower exponent is the same number. -/
theorem totalExponent_shiftLeft {m : Nat} (some : m ≠ 0) (e : Int) (n : Nat) :
    totalExponent (m <<< n) (e - n) = totalExponent m e := by
  simp only [totalExponent, log2_shiftLeft some]
  omega

theorem below_round {k : Int} (s : Sign) {m : Nat} {e : Int} (some : m ≠ 0) (low : -1074 ≤ k)
    (small : totalExponent m e ≤ k) : Below (k + 1) (UnpackedFloat.round .binary64 s m e) := by
  unfold UnpackedFloat.round
  apply below_roundWithAccuracy s .exact low
  exact Int.le_trans (Int.le_of_eq (totalExponent_shiftLeft some e _)) small

theorem below_normalize {k : Int} {m : Int} {e : Int} (s : Sign) (low : -1074 ≤ k)
    (small : totalExponent m.natAbs e ≤ k) : Below (k + 1) (UnpackedFloat.normalize .binary64 m e s) := by
  unfold UnpackedFloat.normalize
  split
  · rename_i negative
    have sign := Int.compare_eq_lt.1 negative
    have size : (-m).toNat = m.natAbs := by omega
    exact below_round .negative (by omega) low (size ▸ small)
  · trivial
  · rename_i positive
    have sign := Int.compare_eq_gt.1 positive
    have size : m.toNat = m.natAbs := by omega
    exact below_round .positive (by omega) low (size ▸ small)

/-! ## Operations -/

section
variable {j k : Int} {u v : UnpackedFloat}

theorem Below.zero_or_finite (h : Below k u) :
    (∃ s, u = .zero s) ∨ ∃ s m e pos, u = .finite s m e pos ∧ totalExponent m e ≤ k := by
  cases u with
  | zero s => exact .inl ⟨s, rfl⟩
  | finite s m e pos => exact .inr ⟨s, m, e, pos, rfl, h⟩
  | infinity s => exact h.elim
  | notANumber => exact h.elim

theorem Below.neg (h : Below k u) : Below k u.neg := by
  cases u <;> exact h

/-- The sum of two numbers is less than twice the larger one, and rounding doubles it at most. -/
theorem Below.add (low : -1074 ≤ k) (left : Below k u) (right : Below k v) :
    Below (k + 2) (UnpackedFloat.add .binary64 u v) := by
  obtain ⟨s, rfl⟩ | ⟨s, m, e, pos, rfl, small⟩ := left.zero_or_finite
  · obtain ⟨s', rfl⟩ | ⟨s', m', e', pos', rfl, small'⟩ := right.zero_or_finite
    · cases s <;> cases s' <;> trivial
    · exact right.mono (by omega)
  · obtain ⟨s', rfl⟩ | ⟨s', m', e', pos', rfl, small'⟩ := right.zero_or_finite
    · exact left.mono (by omega)
    · have size := totalExponent_shiftLeft (Nat.ne_of_gt pos) e (e - min e e').toNat
      have size' := totalExponent_shiftLeft (Nat.ne_of_gt pos') e' (e' - min e e').toNat
      have twice : k + 2 = k + 1 + 1 := by omega
      dsimp only [UnpackedFloat.add, decreaseExponent]
      rw [twice]
      apply below_normalize .positive (by omega)
      -- Both mantissas stand at the smaller exponent now.
      generalize m <<< (e - min e e').toNat = n at size ⊢
      generalize m' <<< (e' - min e e').toNat = n' at size' ⊢
      have sum : (s.apply (n : Int) + s'.apply (n' : Int)).natAbs ≤ n + n' := by
        cases s <;> cases s' <;> simp only [Sign.apply] <;> omega
      have length := log2_mono sum
      have longer := log2_add_le n n'
      unfold totalExponent at *
      omega

theorem sub_eq_add_neg (u v : UnpackedFloat) :
    UnpackedFloat.sub .binary64 u v = UnpackedFloat.add .binary64 u v.neg := by
  cases u with
  | finite s m e pos =>
      cases v with
      | finite s' m' e' pos' =>
          have mantissa (n n' : Int) : s.apply n - s'.apply n' = s.apply n + (-s').apply n' := by
            cases s'
            · exact Int.sub_neg _ _
            · rfl
          change UnpackedFloat.normalize .binary64 (s.apply _ - s'.apply _) _ _ = _
          rw [mantissa]
          rfl
      | _ => rfl
  | _ => cases v <;> rfl

theorem Below.sub (low : -1074 ≤ k) (left : Below k u) (right : Below k v) :
    Below (k + 2) (UnpackedFloat.sub .binary64 u v) := by
  rw [sub_eq_add_neg]
  exact left.add low right.neg

/-- A product has the digits of both factors at most. -/
theorem Below.mul (low : -1074 ≤ j + k) (left : Below j u) (right : Below k v) :
    Below (j + k + 1) (UnpackedFloat.mul .binary64 u v) := by
  obtain ⟨s, rfl⟩ | ⟨s, m, e, pos, rfl, small⟩ := left.zero_or_finite
  · obtain ⟨s', rfl⟩ | ⟨s', m', e', pos', rfl, -⟩ := right.zero_or_finite <;> trivial
  · obtain ⟨s', rfl⟩ | ⟨s', m', e', pos', rfl, small'⟩ := right.zero_or_finite
    · trivial
    · apply below_roundWithAccuracy _ _ low
      have length := log2_mul_le m m'
      unfold totalExponent at *
      omega

/-- Whether a number is finite and at least one in size. -/
def AtLeastOne : UnpackedFloat → Prop
  | .zero _ => False
  | .finite _ m e _ => 1 ≤ totalExponent m e
  | .infinity _ => False
  | .notANumber => False

/-- A quotient by a number that is at least one in size is no larger than what is divided. -/
theorem Below.div (low : -1074 ≤ k) (left : Below k u) (right : AtLeastOne v) :
    Below (k + 2) (UnpackedFloat.div .binary64 u v) := by
  cases v with
  | zero s' => exact right.elim
  | infinity s' => exact right.elim
  | notANumber => exact right.elim
  | finite s' m' e' pos' =>
      obtain ⟨s, rfl⟩ | ⟨s, m, e, pos, rfl, small⟩ := left.zero_or_finite
      · trivial
      · have size : (1 : Int) ≤ totalExponent m' e' := right
        have twice : k + 2 = k + 1 + 1 := by omega
        have target : Format.binary64.targetExponent (totalExponent m e - totalExponent m' e') =
            max (totalExponent m e - totalExponent m' e' - 53) (-1074) := rfl
        dsimp only [UnpackedFloat.div, divCore]
        rw [twice, target]
        apply below_roundWithAccuracy _ _ (by omega)
        generalize fine : min (e - e') _ = t
        have shifted := log2_shiftLeft (Nat.ne_of_gt pos) (e - e' - t).toNat
        have quotient := log2_div_le (m <<< (e - e' - t).toNat) (Nat.ne_of_gt pos')
        unfold totalExponent at *
        omega

/-! ## Signs -/

/-- Whether a number is not a finite number below zero. -/
def NotNegative : UnpackedFloat → Prop
  | .finite .negative _ _ _ => False
  | _ => True

theorem notNegative_roundWithAccuracy (m : Nat) (e : Int) (a : Accuracy) :
    NotNegative (roundWithAccuracy .binary64 .positive m e a) := by
  unfold roundWithAccuracy
  generalize shiftToTargetExponent .binary64 m e a = first
  dsimp only
  generalize (shiftToTargetExponent .binary64 _ _ _).1.mantissa = n
  by_cases none : n = 0
  · rw [dif_pos none]
    trivial
  · rw [dif_neg none]
    trivial

theorem notNegative_normalize {m : Int} (sign : 0 ≤ m) (e : Int) (s : Sign) :
    NotNegative (UnpackedFloat.normalize .binary64 m e s) := by
  unfold UnpackedFloat.normalize
  split
  · rename_i negative
    have := Int.compare_eq_lt.1 negative
    omega
  · trivial
  · exact notNegative_roundWithAccuracy _ _ _

/-- A square is not below zero. -/
theorem notNegative_mul_self (u : UnpackedFloat) : NotNegative (UnpackedFloat.mul .binary64 u u) := by
  cases u with
  | finite s m e pos =>
      have square : s * s = .positive := by cases s <;> rfl
      unfold UnpackedFloat.mul
      dsimp only
      rw [square]
      exact notNegative_roundWithAccuracy _ _ _
  | _ => trivial

theorem NotNegative.add (left : NotNegative u) (right : NotNegative v) :
    NotNegative (UnpackedFloat.add .binary64 u v) := by
  cases u with
  | finite s m e pos =>
      cases v with
      | finite s' m' e' pos' =>
          cases s with
          | negative => exact left.elim
          | positive =>
              cases s' with
              | negative => exact right.elim
              | positive =>
                  apply notNegative_normalize
                  exact Int.add_nonneg (Int.natCast_nonneg _) (Int.natCast_nonneg _)
      | zero s' => exact left
      | _ => trivial
  | zero s =>
      cases v with
      | finite s' m' e' pos' => exact right
      | zero s' => cases s <;> cases s' <;> trivial
      | _ => trivial
  | infinity s =>
      cases v with
      | infinity s' => cases s <;> cases s' <;> trivial
      | _ => trivial
  | notANumber => trivial

theorem Below.sqrt (low : 0 ≤ k) (small : Below k u) (sign : NotNegative u) :
    Below (k + 2) (UnpackedFloat.sqrt .binary64 u) := by
  obtain ⟨s, rfl⟩ | ⟨s, m, e, pos, rfl, small⟩ := small.zero_or_finite
  · trivial
  · cases s with
    | negative => exact sign.elim
    | positive =>
        have twice : k + 2 = k + 1 + 1 := by omega
        have target : Format.binary64.targetExponent ((totalExponent m e + 1).ediv 2) =
            max ((totalExponent m e + 1) / 2 - 53) (-1074) := rfl
        dsimp only [UnpackedFloat.sqrt, sqrtCore]
        rw [twice, target]
        apply below_roundWithAccuracy _ _ (by omega)
        generalize fine : min (e.ediv 2) _ = t
        have shifted := log2_shiftLeft (Nat.ne_of_gt pos) (e - 2 * t).toNat
        have root := @log2_sqrt_le (m <<< (e - 2 * t).toNat)
        have half : e.ediv 2 = e / 2 := rfl
        unfold totalExponent at *
        omega

end

end TokenSheet.Binary
