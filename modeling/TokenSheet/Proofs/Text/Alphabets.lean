import TokenSheet.Css.Color
import TokenSheet.Css.PropertyName

/-!
The characters of what is computed for a stylesheet.

Numbers, their units, the bytes of colors and the names of properties are words: they are written in
letters, digits and a few signs (`isWordChar`), whatever a design says. So they hold no quotation
mark, no slash, no colon, no parenthesis and no brace. Numbers without their units have few letters
(`isNumberChar`), and none of a unit of length.
-/

namespace TokenSheet

/-! ## Texts over an alphabet -/

namespace Text

/-- Whether all characters of a text are of a kind. -/
def Over (kind : Char → Bool) (s : String) : Prop :=
  ∀ c ∈ s.toList, kind c = true

instance (kind : Char → Bool) (s : String) : Decidable (Over kind s) :=
  decidable_of_iff (s.toList.all kind = true) List.all_eq_true

variable {kind kind' : Char → Bool} {a b s : String} {cs : List Char}

theorem Over.append (h : Over kind a) (h' : Over kind b) : Over kind (a ++ b) := by
  rw [Over, String.toList_append]
  exact List.forall_mem_append.2 ⟨h, h'⟩

@[simp] theorem over_ofList : Over kind (String.ofList cs) ↔ ∀ c ∈ cs, kind c = true := by
  rw [Over, String.toList_ofList]

theorem Over.mono (h : Over kind s) (sub : ∀ c, kind c = true → kind' c = true) : Over kind' s :=
  fun c mem => sub c (h c mem)

/-- A character of another kind is not in the text. -/
theorem Over.ne (h : Over kind s) {d : Char} (out : kind d = false) : Over (· != d) s :=
  h.mono fun c here => by
    rw [bne_iff_ne]
    rintro rfl
    rw [out] at here
    cases here

/-- Letters, digits, and the signs of numbers and names. -/
def isWordChar (c : Char) : Bool :=
  c.isAlphanum || "+-.".toList.contains c

theorem isWordChar_of_isAlphanum {c : Char} (alphanum : c.isAlphanum = true) :
    isWordChar c = true :=
  Bool.or_eq_true_iff.2 (.inl alphanum)

/-- Digits, the signs of numbers, and the letters of exponents and of what is not finite. -/
def isNumberChar (c : Char) : Bool :=
  c.isDigit || "+-.aefin".toList.contains c

theorem isWordChar_of_isNumberChar {c : Char} (number : isNumberChar c = true) :
    isWordChar c = true := by
  rcases Bool.or_eq_true_iff.1 number with digit | sign
  · exact isWordChar_of_isAlphanum (Bool.or_eq_true_iff.2 (.inr digit))
  · have signs : Over isWordChar "+-.aefin" := by decide
    exact signs c (List.contains_iff_mem.1 sign)

/-- What numbers are written in is a word. -/
theorem Over.word (number : Over isNumberChar s) : Over isWordChar s :=
  number.mono fun _ => isWordChar_of_isNumberChar

end Text

open Text (Over over_ofList isNumberChar isWordChar isWordChar_of_isNumberChar)

/-! ## Numbers -/

namespace Number

theorem isNumberChar_of_mem_digitsOf {n : Nat} {c : Char} (mem : c ∈ Digits.digitsOf n) :
    isNumberChar c = true := by
  have digit : c.isDigit = true := Nat.isDigit_of_mem_toDigits (by decide) (by decide) mem
  exact Bool.or_eq_true_iff.2 (.inl digit)

theorem isNumberChar_of_mem_replicate {n : Nat} {c : Char} (mem : c ∈ List.replicate n '0') :
    isNumberChar c = true := by
  rw [List.eq_of_mem_replicate mem]
  decide

theorem over_natText (n : Nat) : Over isNumberChar (toString n) := by
  rw [Nat.toString_eq_ofList_toDigits, over_ofList]
  exact fun c mem => isNumberChar_of_mem_digitsOf mem

theorem over_intText (n : Int) : Over isNumberChar (toString n) := by
  cases n with
  | ofNat m => exact over_natText m
  | negSucc m => exact Over.append (by decide) (over_natText (m + 1))

/-- A layout whose marks may stand in numbers. -/
structure Layout.IsPlain (l : Layout) : Prop where
  wholeMark : Over isNumberChar l.wholeMark
  plusSign : Over isNumberChar l.plusSign

theorem recordLayout_isPlain : recordLayout.IsPlain := ⟨by decide, by decide⟩

theorem over_exponentText {l : Layout} (plain : l.IsPlain) (e : Int) :
    Over isNumberChar (exponentText l e) := by
  have sign : Over isNumberChar (if e < 0 then "-" else l.plusSign) := by
    split
    · decide
    · exact plain.plusSign
  refine (Over.append (by decide) sign).append (over_ofList.2 ?_)
  exact List.forall_mem_append.2
    ⟨fun c mem => isNumberChar_of_mem_replicate mem, fun c mem => isNumberChar_of_mem_digitsOf mem⟩

theorem over_layOut {l : Layout} (plain : l.IsPlain) {ds : List Char}
    (digits : ∀ c ∈ ds, isNumberChar c = true) (point : Int) : Over isNumberChar (layOut l ds point) := by
  have zeros (n : Nat) : ∀ c ∈ List.replicate n '0', isNumberChar c = true :=
    fun c mem => isNumberChar_of_mem_replicate mem
  have front (n : Nat) : ∀ c ∈ ds.take n, isNumberChar c = true :=
    fun c mem => digits c (List.mem_of_mem_take mem)
  have back (n : Nat) : ∀ c ∈ ds.drop n, isNumberChar c = true :=
    fun c mem => digits c (List.mem_of_mem_drop mem)
  simp only [layOut]
  split
  · split
    · exact Over.append (by decide)
        (over_ofList.2 (List.forall_mem_append.2 ⟨zeros _, digits⟩))
    · split
      · exact (over_ofList.2 (List.forall_mem_append.2 ⟨digits, zeros _⟩)).append plain.wholeMark
      · exact ((over_ofList.2 (front _)).append (by decide)).append (over_ofList.2 (back _))
  · refine ((over_ofList.2 (front 1)).append ?_).append (over_exponentText plain _)
    split
    · decide
    · exact Over.append (by decide) (over_ofList.2 (back 1))

theorem over_layoutText {l : Layout} (plain : l.IsPlain) (x : Float) :
    Over isNumberChar (layoutText l x) := by
  unfold layoutText
  split
  · decide
  · split <;> decide
  · rename_i negative m e _
    have sign : Over isNumberChar (if negative then "-" else "") := by split <;> decide
    dsimp only
    split
    · exact sign.append (over_layOut plain (List.forall_mem_singleton.2 (by decide)) 1)
    · refine sign.append (over_layOut plain (fun c mem => ?_) _)
      have kept := (List.dropWhile_sublist _).mem (List.mem_reverse.1 mem)
      exact isNumberChar_of_mem_digitsOf (List.mem_reverse.1 kept)

theorem over_exactText (x : Float) : Over isNumberChar (exactText x) :=
  over_layoutText recordLayout_isPlain x

theorem over_plainText (x : Float) : Over isNumberChar (plainText x) := by
  unfold plainText
  split
  · exact over_intText _
  · exact over_exactText x

theorem over_fixedText (x : Float) (places : Nat) : Over isNumberChar (fixedText x places) := by
  unfold fixedText
  split
  · decide
  · split <;> decide
  · rename_i negative m e _
    have sign : Over isNumberChar (if negative then "-" else "") := by split <;> decide
    refine (sign.append (over_natText _)).append ?_
    split
    · decide
    · refine Over.append (by decide) (over_ofList.2 (List.forall_mem_append.2 ⟨?_, ?_⟩))
      · exact fun c mem => isNumberChar_of_mem_replicate mem
      · exact fun c mem => isNumberChar_of_mem_digitsOf mem

end Number

/-! ## Bytes -/

theorem Css.isWordChar_of_mem_toDigits {n : Nat} {c : Char} (mem : c ∈ Nat.toDigits 16 n) :
    isWordChar c = true := by
  have digit : ∀ d < 16, isWordChar d.digitChar = true := by decide
  induction n using Nat.strongRecOn with
  | ind n ih =>
      rw [Nat.toDigits_eq_if (by decide)] at mem
      split at mem
      · rename_i small
        rw [List.mem_singleton.1 mem]
        exact digit n small
      · rename_i large
        rcases List.mem_append.1 mem with mem | mem
        · exact ih (n / 16) (by omega) mem
        · rw [List.mem_singleton.1 mem]
          exact digit (n % 16) (Nat.mod_lt n (by decide))

theorem Css.over_byteText (n : Int) : Over isWordChar (byteText n) := by
  have digits : ∀ c ∈ Nat.toDigits 16 n.natAbs, isWordChar c = true :=
    fun c mem => isWordChar_of_mem_toDigits mem
  unfold byteText
  dsimp only
  split
  · exact over_ofList.2 (List.forall_mem_cons.2 ⟨by decide, digits⟩)
  · exact over_ofList.2 (List.forall_mem_append.2
      ⟨fun c mem => isWordChar_of_isNumberChar (Number.isNumberChar_of_mem_replicate mem), digits⟩)

/-! ## Slugs and names of properties -/

namespace Text

theorem isWordChar_of_isSlugChar {c : Char} (slug : isSlugChar c = true) : isWordChar c = true := by
  simp only [isSlugChar, Bool.or_eq_true, Bool.and_eq_true, decide_eq_true_eq, Char.le_def] at slug
  rcases slug with (letter | digit) | rfl
  · have lower : c.isLower = true :=
      Bool.and_eq_true_iff.2 ⟨decide_eq_true letter.1, decide_eq_true letter.2⟩
    have alpha : c.isAlpha = true := Bool.or_eq_true_iff.2 (.inr lower)
    exact isWordChar_of_isAlphanum (Bool.or_eq_true_iff.2 (.inl alpha))
  · have numeral : c.isDigit = true :=
      Bool.and_eq_true_iff.2 ⟨decide_eq_true digit.1, decide_eq_true digit.2⟩
    exact isWordChar_of_isAlphanum (Bool.or_eq_true_iff.2 (.inr numeral))
  · decide

theorem mem_capHyphens {seen : Nat} {s : List Char} {c : Char} (mem : c ∈ capHyphens seen s) :
    c = '-' ∨ c ∈ s := by
  fun_induction capHyphens seen s with
  | case1 => cases mem
  | case2 seen rest _ ih =>
      rcases List.mem_cons.1 mem with same | mem
      · exact .inl same
      · exact (ih mem).imp_right (List.mem_cons_of_mem _)
  | case3 seen rest _ ih => exact (ih mem).imp_right (List.mem_cons_of_mem _)
  | case4 seen d rest _ ih =>
      rcases List.mem_cons.1 mem with rfl | mem
      · exact .inr List.mem_cons_self
      · exact (ih mem).imp_right (List.mem_cons_of_mem _)

theorem mem_trimHyphens {s : List Char} {c : Char} (mem : c ∈ trimHyphens s) : c ∈ s := by
  have kept := (List.dropWhile_sublist _).mem (List.mem_reverse.1 mem)
  exact (List.dropWhile_sublist _).mem (List.mem_reverse.1 kept)

theorem isSlugChar_of_mem_slugOfLower {s : List Char} {c : Char} (mem : c ∈ slugOfLower s) :
    isSlugChar c = true := by
  rcases mem_capHyphens (mem_trimHyphens mem) with rfl | mem
  · decide
  · obtain ⟨d, -, rfl⟩ := List.mem_map.1 mem
    split
    · assumption
    · decide

theorem over_slug (name : String) : Over isWordChar (slug name) :=
  over_ofList.2 fun _ mem => isWordChar_of_isSlugChar (isSlugChar_of_mem_slugOfLower mem)

end Text

theorem Css.over_propertyName (name domain : String) (layer : Layer) :
    Over isWordChar (propertyName name domain layer) := by
  have names := Text.over_slug name
  have domains := Text.over_slug domain
  unfold propertyName identifier
  refine over_ofList.2 (List.forall_mem_cons.2 ⟨(by decide), List.forall_mem_cons.2
    ⟨(by decide), ?_⟩⟩)
  dsimp only
  split
  · exact names
  · unfold qualified
    split
    · exact domains
    · exact List.forall_mem_append.2
        ⟨domains, List.forall_mem_cons.2 ⟨(by decide), names⟩⟩

end TokenSheet
