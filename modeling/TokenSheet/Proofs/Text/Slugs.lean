import Mathlib.Data.List.DropRight
import TokenSheet.Proofs.Text.Alphabets

/-!
Slugs are a normal form.

Three passes make a slug of a text in lowercase: what is no slug character becomes a hyphen, runs of
hyphens are capped, and the ends are trimmed. Each pass keeps what the passes before it have brought
about, so the result is a slug (`isSlug_slug`). A slug in turn gives none of the passes anything to do
(`slug_of_isSlug`), so slugs are exactly the texts that are their own slug.
-/

namespace TokenSheet.Text

variable {s : List Char} {c : Char}

/-- Three hyphens in a row. -/
def longRun : List Char := ['-', '-', '-']

/-! ## Runs of hyphens -/

/-- A character other than a hyphen stands in no run of hyphens. -/
theorem longRun_infix_cons (other : c ≠ '-') : longRun <:+: c :: s ↔ longRun <:+: s := by
  rw [List.infix_cons_iff]
  refine or_iff_right fun first => other ?_
  exact ((List.cons_prefix_cons.1 first).1).symm

/-- So a run stands in front of it or behind it. -/
theorem longRun_infix_append_cons {front : List Char} (other : c ≠ '-') :
    longRun <:+: front ++ c :: s ↔ longRun <:+: front ∨ longRun <:+: s := by
  constructor
  · intro inside
    rcases List.infix_append_iff_ne_nil.1 inside with
      front | back | ⟨l, r, -, nonempty, split, -, first⟩
    · exact .inl front
    · exact .inr ((longRun_infix_cons other).1 back)
    · cases r with
      | nil => exact absurd rfl nonempty
      | cons d rest =>
          have hyphen : d ∈ longRun := split ▸ List.mem_append_right l List.mem_cons_self
          rw [(List.cons_prefix_cons.1 first).1] at hyphen
          exact absurd (List.eq_of_mem_replicate (n := 3) hyphen) other
  · rintro (front | back)
    · exact List.infix_append_of_infix_left front
    · exact List.infix_append_of_infix_right ((longRun_infix_cons other).2 back)

theorem longRun_infix_replicate {n : Nat} : longRun <:+: List.replicate n '-' ↔ 3 ≤ n := by
  rw [List.infix_replicate_iff]
  simp [longRun, List.replicate]

/-- Behind the hyphens of a run that are kept already, capping keeps what makes no longer run. -/
theorem not_longRun_infix_capHyphens (seen : Nat) (s : List Char) (short : seen ≤ 2) :
    ¬ longRun <:+: List.replicate seen '-' ++ capHyphens seen s := by
  fun_induction capHyphens seen s with
  | case1 =>
      rw [List.append_nil, longRun_infix_replicate]
      omega
  | case2 seen rest less ih =>
      have grown := ih less
      rwa [List.replicate_succ', List.append_assoc, List.singleton_append] at grown
  | case3 seen rest _ ih => exact ih short
  | case4 seen d rest other ih =>
      rw [longRun_infix_append_cons other, longRun_infix_replicate]
      rintro (front | back)
      · omega
      · exact ih (Nat.zero_le 2) back

/-- A text without a long run is left alone by capping. -/
theorem capHyphens_of_not_longRun (seen : Nat) (s : List Char)
    (free : ¬ longRun <:+: List.replicate seen '-' ++ s) : capHyphens seen s = s := by
  fun_induction capHyphens seen s with
  | case1 => rfl
  | case2 seen rest _ ih =>
      rw [ih]
      rwa [List.replicate_succ', List.append_assoc, List.singleton_append]
  | case3 seen rest long _ =>
      rw [List.append_cons, ← List.replicate_succ'] at free
      refine absurd (List.infix_append_of_infix_left (longRun_infix_replicate.2 ?_)) free
      omega
  | case4 seen d rest other ih =>
      rw [ih]
      exact fun inside => free ((longRun_infix_append_cons other).2 (.inr inside))

/-! ## Edges -/

theorem head?_dropHyphens (s : List Char) : (s.dropWhile (· == '-')).head? ≠ some '-' := by
  intro first
  have other := List.head?_dropWhile_not (· == '-') s
  rw [first] at other
  exact Bool.noConfusion other

theorem dropHyphens_of_head? (first : s.head? ≠ some '-') : s.dropWhile (· == '-') = s := by
  cases s with
  | nil => rfl
  | cons c rest => exact List.dropWhile_cons_of_neg fun hyphen => first (congrArg some (eq_of_beq hyphen))

theorem isPrefix_trimHyphens (s : List Char) : trimHyphens s <+: s.dropWhile (· == '-') :=
  List.rdropWhile_prefix (· == '-') _

theorem isInfix_trimHyphens (s : List Char) : trimHyphens s <:+: s :=
  (isPrefix_trimHyphens s).isInfix.trans (List.dropWhile_suffix _).isInfix

theorem head?_trimHyphens (s : List Char) : (trimHyphens s).head? ≠ some '-' := by
  intro first
  obtain ⟨back, split⟩ := isPrefix_trimHyphens s
  refine head?_dropHyphens s ?_
  rw [← split, List.head?_append, first, Option.some_or]

theorem getLast?_trimHyphens (s : List Char) : (trimHyphens s).getLast? ≠ some '-' := by
  rw [trimHyphens, List.getLast?_reverse]
  exact head?_dropHyphens _

theorem trimHyphens_of_edges (first : s.head? ≠ some '-') (last : s.getLast? ≠ some '-') :
    trimHyphens s = s := by
  rw [trimHyphens, dropHyphens_of_head? first,
    dropHyphens_of_head? (by rwa [List.head?_reverse]), List.reverse_reverse]

/-! ## Slugs -/

/-- Whatever the text, its passes end in a slug. -/
theorem isSlug_slugOfLower (s : List Char) : IsSlug (slugOfLower s) := by
  refine ⟨fun c mem => isSlugChar_of_mem_slugOfLower mem, head?_trimHyphens _,
    getLast?_trimHyphens _, fun inside => ?_⟩
  exact not_longRun_infix_capHyphens 0 _ (Nat.zero_le 2) (inside.trans (isInfix_trimHyphens _))

theorem isSlug_slug (name : String) : IsSlug (slug name).toList := by
  rw [slug, String.toList_ofList]
  exact isSlug_slugOfLower _

/-- Slug characters are letters in lowercase, digits or the hyphen, all of them in ASCII. -/
theorem toNat_of_isSlugChar (slug : isSlugChar c = true) :
    c.toNat = 45 ∨ 48 ≤ c.toNat ∧ c.toNat ≤ 57 ∨ 97 ≤ c.toNat ∧ c.toNat ≤ 122 := by
  simp only [isSlugChar, Bool.or_eq_true, Bool.and_eq_true, decide_eq_true_eq, Char.le_def] at slug
  rcases slug with (letter | digit) | rfl
  · exact .inr (.inr letter)
  · exact .inr (.inl digit)
  · exact .inl rfl

theorem isBlank_of_isSlugChar (slug : isSlugChar c = true) : isBlank c = false := by
  have range := toNat_of_isSlugChar slug
  simp only [isBlank, Bool.or_eq_false_iff, Bool.and_eq_false_iff, decide_eq_false_iff_not,
    beq_eq_false_iff_ne]
  omega

theorem lowerChar_of_isSlugChar (slug : isSlugChar c = true) : lowerChar c = [c] := by
  have range := toNat_of_isSlugChar slug
  have small : ¬ (c.val ≥ 'A'.val ∧ c.val ≤ 'Z'.val) := by
    rintro ⟨above, below⟩
    have above : 65 ≤ c.toNat := above
    have below : c.toNat ≤ 90 := below
    omega
  have kept : c.toLower = c := dif_neg small
  rw [lowerChar, if_pos (by omega), kept]

theorem joinBlanks_of_slugChars (chars : ∀ c ∈ s, isSlugChar c = true) (inRun : Bool) :
    joinBlanks inRun s = s := by
  induction s generalizing inRun with
  | nil => rfl
  | cons c rest ih =>
      obtain ⟨here, there⟩ := List.forall_mem_cons.1 chars
      rw [joinBlanks, isBlank_of_isSlugChar here, if_neg Bool.false_ne_true, ih there]

/-- A text of slug characters is in lowercase. -/
theorem lowerFrom_of_slugChars (chars : ∀ c ∈ s, isSlugChar c = true) (before : List Char) :
    lowerFrom before s = s := by
  induction s generalizing before with
  | nil => rfl
  | cons c rest ih =>
      obtain ⟨here, there⟩ := List.forall_mem_cons.1 chars
      have noSigma : c ≠ capitalSigma := by
        rintro rfl
        exact absurd here (by decide)
      rw [lowerFrom, if_neg noSigma, lowerChar_of_isSlugChar here, ih there]
      rfl

/-- The passes over hyphens, on a text of slug characters. -/
theorem slugOfLower_of_slugChars (chars : ∀ c ∈ s, isSlugChar c = true) :
    slugOfLower s = trimHyphens (capHyphens 0 s) := by
  have kept : s.map (fun c => if isSlugChar c then c else '-') = s :=
    (List.map_congr_left fun c mem => if_pos (chars c mem)).trans (List.map_id s)
  rw [slugOfLower, joinBlanks_of_slugChars chars, kept]

theorem slug_of_slugChars {text : String} (chars : Over isSlugChar text) :
    (slug text).toList = trimHyphens (capHyphens 0 text.toList) := by
  rw [slug, lower, String.toList_ofList, String.toList_ofList, lowerFrom_of_slugChars chars,
    slugOfLower_of_slugChars chars]

/-- A slug is its own slug. -/
theorem slug_of_isSlug {text : String} (h : IsSlug text.toList) : slug text = text := by
  obtain ⟨chars, first, last, free⟩ := h
  rw [← String.toList_inj, slug_of_slugChars chars, capHyphens_of_not_longRun 0 text.toList free,
    trimHyphens_of_edges first last]

/-! ## Slugs made of slugs -/

/-- Hyphens are a long run only if there are three of them and a slug follows. -/
theorem IsSlug.not_longRun_append (h : IsSlug s) {n : Nat} (short : n ≤ 2) :
    ¬ longRun <:+: List.replicate n '-' ++ s := by
  obtain ⟨-, first, -, free⟩ := h
  cases s with
  | nil =>
      rw [List.append_nil, longRun_infix_replicate]
      omega
  | cons c rest =>
      have other : c ≠ '-' := fun hyphen => first (congrArg some hyphen)
      rw [longRun_infix_append_cons other, longRun_infix_replicate]
      rintro (front | back)
      · omega
      · exact free (List.infix_cons back)

/-- Two slugs that are not empty make a slug with a hyphen between them. -/
theorem IsSlug.join {p : List Char} (hp : IsSlug p) (hs : IsSlug s) (front : p ≠ [])
    (back : s ≠ []) : IsSlug (p ++ '-' :: s) := by
  refine ⟨?_, ?_, ?_, ?_⟩
  · exact List.forall_mem_append.2 ⟨hp.1, List.forall_mem_cons.2 ⟨by decide, hs.1⟩⟩
  · rw [List.head?_append_of_ne_nil _ front]
    exact hp.2.1
  · rw [List.append_cons, List.getLast?_append_of_ne_nil _ back]
    exact hs.2.2.1
  · obtain ⟨start, d, rfl⟩ : ∃ start d, p = start ++ [d] :=
      ⟨_, _, (List.dropLast_append_getLast front).symm⟩
    have other : d ≠ '-' := by simpa using hp.2.2.1
    rw [List.append_assoc, List.singleton_append]
    intro inside
    rcases (longRun_infix_append_cons other).1 inside with inside | inside
    · exact hp.2.2.2 (List.infix_append_of_infix_left inside)
    · exact hs.not_longRun_append (Nat.le_succ 1) inside

/-- Two hyphens in front of a slug are trimmed again. -/
theorem slug_hyphens_append (h : IsSlug s) :
    slug (String.ofList ('-' :: '-' :: s)) = String.ofList s := by
  have hyphens : Over isSlugChar (String.ofList ('-' :: '-' :: s)) :=
    over_ofList.2 (List.forall_mem_cons.2 ⟨by decide, List.forall_mem_cons.2 ⟨by decide, h.1⟩⟩)
  rw [← String.toList_inj, slug_of_slugChars hyphens, String.toList_ofList, String.toList_ofList,
    capHyphens_of_not_longRun 0 ('-' :: '-' :: s) (h.not_longRun_append (Nat.le_refl 2))]
  exact trimHyphens_of_edges h.2.1 h.2.2.1

/-- Slugs are a normal form: the slug of every name is one, it is its own slug, and the texts of this
form are exactly those that are their own slugs, and exactly those that are slugs of some name. -/
theorem slug_normal_form :
    (∀ name, IsSlug (slug name).toList) ∧ (∀ name, slug (slug name) = slug name) ∧
      ∀ text : String, (IsSlug text.toList ↔ slug text = text) ∧
        (IsSlug text.toList ↔ ∃ name, slug name = text) := by
  refine ⟨isSlug_slug, fun name => slug_of_isSlug (isSlug_slug name), fun text => ⟨?_, ?_⟩⟩
  · exact ⟨slug_of_isSlug, fun own => own ▸ isSlug_slug text⟩
  · refine ⟨fun h => ⟨text, slug_of_isSlug h⟩, ?_⟩
    rintro ⟨name, rfl⟩
    exact isSlug_slug name

/-- A slash between blanks becomes a run of three hyphens, which is capped. -/
example : slug " Stroke / Width" = "stroke--width" := by decide +kernel

end TokenSheet.Text
