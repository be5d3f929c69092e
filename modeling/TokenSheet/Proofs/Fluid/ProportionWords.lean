import TokenSheet.Proofs.Lists
import TokenSheet.Section.Basic

/-!
The longest word of a proportion wins.

The words for parts of the grid contain one another, and a name may hold several of them. They are
tried in the order of `proportionWords`, which is the order of their lengths (`words_sorted`), so
the word found is as long as any that occurs. Words of one length stand for the same columns, except
`whole` and `third`, where the first is preferred: what counts is `IsLongestIn`, and it fixes the
columns (`IsLongestIn.columns_eq`). The words for three quarters, and then the ones for two thirds,
are longer than all others.
-/

namespace TokenSheet.Fluid

open Text (lower mentions)

/-- The word occurs in the name, letter case apart. -/
def OccursIn (word name : String) : Prop :=
  word.toList <:+: (lower name).toList

/-- The spellings of a fraction by its two words: joined by a hyphen, by a blank or directly, and in
the plural or not. -/
def spellings (first second : String) : List String :=
  ["s", ""].flatMap fun ending => ["-", " ", ""].map fun joint => first ++ joint ++ second ++ ending

/-- One of the longest words for a part of the grid that occur in the name; a `third` counts only
where there is no `whole`. -/
structure IsLongestIn (w : String × Nat) (name : String) : Prop where
  mem : w ∈ proportionWords
  occurs : OccursIn w.1 name
  longest : ∀ v ∈ proportionWords, OccursIn v.1 name → v.1.length ≤ w.1.length
  preferred : w.1 = "third" → ¬ OccursIn "whole" name

theorem mentions_iff (word name : String) :
    mentions (lower name) word = true ↔ OccursIn word name :=
  Text.occurs_iff

/-! ## The order of the words -/

/-- The words are the spellings of three quarters and of two thirds and the four single words. -/
theorem proportionWords_eq :
    proportionWords =
      (spellings "three" "quarter").map (·, 9) ++ (spellings "two" "third").map (·, 8) ++
        [("quarter", 3), ("whole", 12), ("third", 4), ("half", 6)] := by
  decide +kernel

theorem mem_words_of_spelled {word : String} :
    (word ∈ spellings "three" "quarter" → (word, 9) ∈ proportionWords) ∧
      (word ∈ spellings "two" "third" → (word, 8) ∈ proportionWords) := by
  rw [proportionWords_eq]
  simp only [List.mem_append, List.mem_map]
  constructor
  · intro spelled
    exact Or.inl (Or.inl ⟨word, spelled, rfl⟩)
  · intro spelled
    exact Or.inl (Or.inr ⟨word, spelled, rfl⟩)

/-- No word comes before a longer one, and `third` not before `whole`. -/
theorem words_sorted :
    proportionWords.Pairwise fun v w =>
      w.1.length ≤ v.1.length ∧ (v.1 = "third" → w.1 ≠ "whole") := by
  decide +kernel

/-- Words of one length stand for the same columns, with one exception. -/
theorem columns_of_length :
    ∀ v ∈ proportionWords, ∀ w ∈ proportionWords, v.1.length = w.1.length →
      v.2 = w.2 ∨ v.1 = "third" ∧ w.1 = "whole" ∨ v.1 = "whole" ∧ w.1 = "third" := by
  decide +kernel

theorem IsLongestIn.columns_eq {v w : String × Nat} {name : String} (h : IsLongestIn v name)
    (h' : IsLongestIn w name) : v.2 = w.2 := by
  have length : v.1.length = w.1.length :=
    Nat.le_antisymm (h'.longest v h.mem h.occurs) (h.longest w h'.mem h'.occurs)
  obtain same | ⟨third, whole⟩ | ⟨whole, third⟩ := columns_of_length v h.mem w h'.mem length
  · exact same
  · exact absurd (whole ▸ h'.occurs) (h.preferred third)
  · exact absurd (whole ▸ h.occurs) (h'.preferred third)

/-- The first word that occurs is a longest one. -/
theorem isLongestIn_of_find? {name : String} {w : String × Nat}
    (found : (proportionWords.find? fun w => mentions (lower name) w.1) = some w) :
    IsLongestIn w name := by
  have before : ∀ v ∈ proportionWords, OccursIn v.1 name →
      v = w ∨ v.1.length ≤ w.1.length ∧ (w.1 = "third" → v.1 ≠ "whole") := by
    intro v mem occurs
    exact rel_of_find? words_sorted found mem ((mentions_iff v.1 name).2 occurs)
  refine ⟨List.mem_of_find?_eq_some found, ?_, ?_, ?_⟩
  · have here := List.find?_some found
    exact (mentions_iff w.1 name).1 here
  · intro v mem occurs
    obtain rfl | ⟨shorter, -⟩ := before v mem occurs
    · exact Nat.le_refl _
    · exact shorter
  · intro third whole
    obtain rfl | ⟨-, later⟩ := before ("whole", 12) (by decide +kernel) whole
    · exact absurd third (by decide)
    · exact later third rfl

/-! ## The columns of a proportion -/

section

variable {name : String} (proportion : OccursIn "proportion" name)
  (elsewhere : ¬ OccursIn "viewport" name)

include proportion elsewhere

theorem proportionColumns?_eq :
    proportionColumns? name =
      (proportionWords.find? fun w => mentions (lower name) w.1).map (·.2) := by
  have named := (mentions_iff _ _).2 proportion
  have not_viewport := mt (mentions_iff _ _).1 elsewhere
  simp [proportionColumns?, named, not_viewport]

theorem proportionColumns?_eq_none :
    proportionColumns? name = none ↔ ∀ w ∈ proportionWords, ¬ OccursIn w.1 name := by
  rw [proportionColumns?_eq proportion elsewhere]
  simp [mentions_iff]

theorem proportionColumns?_eq_some (n : Nat) :
    proportionColumns? name = some n ↔ ∃ w, IsLongestIn w name ∧ w.2 = n := by
  rw [proportionColumns?_eq proportion elsewhere]
  constructor
  · intro columns
    obtain ⟨w, found, rfl⟩ := Option.map_eq_some_iff.1 columns
    exact ⟨w, isLongestIn_of_find? found, rfl⟩
  · intro best
    obtain ⟨w, longest, columns⟩ := best
    cases found : proportionWords.find? fun w => mentions (lower name) w.1 with
    | none =>
      have missing := List.find?_eq_none.1 found w longest.mem
      exact absurd ((mentions_iff w.1 name).2 longest.occurs) missing
    | some v =>
      rw [Option.map_some, (isLongestIn_of_find? found).columns_eq longest, columns]

/-- Where a word of some length occurs, the columns are those of a word at least as long. -/
theorem exists_longer {w : String × Nat} (mem : w ∈ proportionWords) (occurs : OccursIn w.1 name) :
    ∃ v ∈ proportionWords, OccursIn v.1 name ∧ w.1.length ≤ v.1.length ∧
      proportionColumns? name = some v.2 := by
  cases columns : proportionColumns? name with
  | none => exact absurd occurs ((proportionColumns?_eq_none proportion elsewhere).1 columns w mem)
  | some n =>
    obtain ⟨v, longest, rfl⟩ := (proportionColumns?_eq_some proportion elsewhere n).1 columns
    exact ⟨v, longest.mem, longest.occurs, longest.longest w mem occurs, rfl⟩

theorem three_quarters_columns {word : String} (spelled : word ∈ spellings "three" "quarter")
    (occurs : OccursIn word name) : proportionColumns? name = some 9 := by
  have length : ∀ word ∈ spellings "three" "quarter", 12 ≤ word.length := by decide +kernel
  have long : ∀ v ∈ proportionWords, 12 ≤ v.1.length → v.2 = 9 := by decide +kernel
  obtain ⟨v, mem, -, longer, columns⟩ :=
    exists_longer proportion elsewhere (mem_words_of_spelled.1 spelled) occurs
  rw [columns, long v mem (Nat.le_trans (length word spelled) longer)]

theorem two_thirds_columns {word : String} (spelled : word ∈ spellings "two" "third")
    (occurs : OccursIn word name)
    (no_quarters : ∀ other ∈ spellings "three" "quarter", ¬ OccursIn other name) :
    proportionColumns? name = some 8 := by
  have length : ∀ word ∈ spellings "two" "third", 8 ≤ word.length := by decide +kernel
  have long : ∀ v ∈ proportionWords, 8 ≤ v.1.length →
      v.1 ∈ spellings "three" "quarter" ∨ v.2 = 8 := by decide +kernel
  obtain ⟨v, mem, occurs', longer, columns⟩ :=
    exists_longer proportion elsewhere (mem_words_of_spelled.2 spelled) occurs
  obtain quarters | eight := long v mem (Nat.le_trans (length word spelled) longer)
  · exact absurd occurs' (no_quarters v.1 quarters)
  · rw [columns, eight]

end

/-- The longest word for a part of the grid wins. A token that is named as a proportion, and not of
the viewport, has the columns of a longest word that occurs in its name, and none if no word occurs;
so it has nine columns if three quarters occur in any spelling, and eight if two thirds do and three
quarters do not, whatever shorter words its name holds. -/
theorem longest_word_columns (t : Token) (proportion : OccursIn "proportion" t.name)
    (elsewhere : ¬ OccursIn "viewport" t.name) :
    (t.columns? = none ↔ ∀ w ∈ proportionWords, ¬ OccursIn w.1 t.name) ∧
      (∀ n, t.columns? = some n ↔ ∃ w, IsLongestIn w t.name ∧ w.2 = n) ∧
      ((∃ word ∈ spellings "three" "quarter", OccursIn word t.name) → t.columns? = some 9) ∧
      ((∃ word ∈ spellings "two" "third", OccursIn word t.name) →
        (∀ word ∈ spellings "three" "quarter", ¬ OccursIn word t.name) → t.columns? = some 8) := by
  refine ⟨proportionColumns?_eq_none proportion elsewhere,
    proportionColumns?_eq_some proportion elsewhere, ?_, ?_⟩
  · intro found
    obtain ⟨word, spelled, occurs⟩ := found
    exact three_quarters_columns proportion elsewhere spelled occurs
  · intro found no_quarters
    obtain ⟨word, spelled, occurs⟩ := found
    exact two_thirds_columns proportion elsewhere spelled occurs no_quarters

/-- A proportion whose name holds a word for two thirds and three shorter words. -/
def manyWords : Token where
  id := "v"
  name := "Proportion / Whole of Two-Thirds, Quarter"
  description := ""
  collectionId := "c"
  collectionName := "Space"
  domain := "Space"
  layer := .other
  kind := .float
  values := []
  property := "--space-proportion--whole-of-two-thirds--quarter"

/-- The words for two thirds are longer than `quarter`, `whole` and `third`. -/
theorem many_words_columns :
    OccursIn "proportion" manyWords.name ∧ OccursIn "whole" manyWords.name ∧
      OccursIn "quarter" manyWords.name ∧ manyWords.columns? = some 8 := by
  have occurs (word : String) (mentioned : mentions (lower manyWords.name) word = true) :
      OccursIn word manyWords.name := (mentions_iff word _).1 mentioned
  have proportion := occurs "proportion" (by decide +kernel)
  have elsewhere : ¬ OccursIn "viewport" manyWords.name := by
    rw [← mentions_iff]
    decide +kernel
  have no_quarters : ∀ word ∈ spellings "three" "quarter", ¬ OccursIn word manyWords.name := by
    simp only [← mentions_iff]
    decide +kernel
  obtain ⟨-, -, -, two_thirds⟩ := longest_word_columns manyWords proportion elsewhere
  refine ⟨proportion, occurs "whole" (by decide +kernel), occurs "quarter" (by decide +kernel), ?_⟩
  apply two_thirds
  · exact ⟨"two-thirds", by decide +kernel, occurs "two-thirds" (by decide +kernel)⟩
  · exact no_quarters

end TokenSheet.Fluid
