/-!
Halves of surrogate pairs that stand alone.

An escape may name half of a surrogate pair without the other half. This is no character, but a text may hold it and
be compared, as long as nobody writes it. Texts here consist of characters, so a character for private use stands in
its place, one for each half (`halfOf?_ofHalf`).

Excluded are texts that hold one of these characters themselves, U+10F000 to U+10F7FF. Nothing is wrong with such a
text, but it counts as one with halves: checks refuse it as broken, lists and messages show an escape in place of the
character, and it is neither printed nor saved. What is said elsewhere about texts that are read, printed or saved is
meant for all others.
-/

namespace TokenSheet.Text

/-- The first of the characters that stand for halves. A text may not hold one of them for itself. -/
def firstHalf : Nat := 0x10F000

/-- Whether a number is that of half of a surrogate pair. -/
def isHalf (n : Nat) : Bool :=
  0xD800 ≤ n && n < 0xE000

/-- The character that stands for a half. -/
def ofHalf (n : Nat) : Char :=
  Char.ofNat (firstHalf + (n - 0xD800))

/-- The half that a character stands for. -/
def halfOf? (c : Char) : Option Nat :=
  if firstHalf ≤ c.toNat ∧ c.toNat < firstHalf + 0x800 then some (c.toNat - firstHalf + 0xD800) else none

theorem toNat_ofHalf {n : Nat} (h : n < 0xE000) : (ofHalf n).toNat = firstHalf + (n - 0xD800) := by
  have hv : (firstHalf + (n - 0xD800)).isValidChar := by
    simp only [Nat.isValidChar, firstHalf]
    omega
  rw [ofHalf, Char.ofNat, dif_pos hv]
  rfl

theorem halfOf?_ofHalf {n : Nat} (h : isHalf n = true) : halfOf? (ofHalf n) = some n := by
  simp only [isHalf, Bool.and_eq_true, decide_eq_true_eq] at h
  unfold halfOf?
  rw [toNat_ofHalf h.2, if_pos (by omega)]
  congr 1
  omega

/-- Whether a text holds a half, so that it cannot be written. This includes the excluded texts. -/
def hasHalf (s : String) : Bool :=
  s.toList.any fun c => (halfOf? c).isSome

end TokenSheet.Text
