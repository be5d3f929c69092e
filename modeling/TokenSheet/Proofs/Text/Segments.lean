import Mathlib.Data.List.Basic
import TokenSheet.Text.Segment

/-!
What a search for a segment finds.

A keyword is a segment of a text where it stands between two edges (`StandsBounded`): an end of
the text or one of the four separators on either side. `hasSegment` walks over the text one
character at a time; `searchFrom` is the same search by jumps, which goes to the next occurrence
and starts again one character after each one that is not bounded. Both find a bounded occurrence
exactly where there is one (`segmentFrom_iff`, `searchFrom_spec`), occurrences that overlap a
rejected one included, and the jumps need at most one round for each character and one more.
-/

namespace TokenSheet.Text

/-- An end of the text, or a character that separates segments. -/
def IsEdge : Option Char → Prop
  | none => True
  | some c => c = '-' ∨ c = '/' ∨ c = '.' ∨ c = ' '

/-- The keyword occurs in the text between two edges. -/
def StandsBounded (keyword text : List Char) : Prop :=
  ∃ front back, text = front ++ keyword ++ back ∧ IsEdge front.getLast? ∧ IsEdge back.head?

variable {keyword text : List Char}

theorem isSegmentEdge_iff (c? : Option Char) : isSegmentEdge c? = true ↔ IsEdge c? := by
  cases c? <;> simp [isSegmentEdge, segmentSeparators, IsEdge]

/-! ## Character by character -/

/-- The character in front of what follows a text is the last one of the text, if it has one. -/
theorem getLast?_cons_or (c : Char) (front : List Char) (before : Option Char) :
    (c :: front).getLast?.or before = front.getLast?.or (some c) := by
  rw [List.getLast?_cons]
  cases front.getLast? <;> rfl

/-- The walk over a text finds the bounded occurrences, where the character in front of the text
counts as the one before an occurrence at its start. -/
theorem segmentFrom_iff (nonempty : keyword ≠ []) (before : Option Char) :
    segmentFrom keyword before text = true ↔
      ∃ front back, text = front ++ keyword ++ back ∧
        IsEdge (front.getLast?.or before) ∧ IsEdge back.head? := by
  induction text generalizing before with
  | nil => simp [segmentFrom, nonempty]
  | cons c rest ih =>
    simp only [segmentFrom, Bool.or_eq_true, Bool.and_eq_true, isSegmentEdge_iff,
      List.isPrefixOf_iff_prefix, ih]
    constructor
    · intro found
      obtain ⟨⟨edge, back, here⟩, after⟩ | ⟨front, back, later, edge, after⟩ := found
      · rw [← here, List.drop_left] at after
        exact ⟨[], back, here.symm, edge, after⟩
      · refine ⟨c :: front, back, by rw [later]; rfl, ?_, after⟩
        rw [getLast?_cons_or]
        exact edge
    · intro found
      obtain ⟨front, back, split, edge, after⟩ := found
      cases front with
      | nil =>
        refine Or.inl ⟨⟨edge, back, split.symm⟩, ?_⟩
        rw [split, List.nil_append, List.drop_left]
        exact after
      | cons d front =>
        obtain ⟨rfl, later⟩ : c = d ∧ rest = front ++ keyword ++ back := by simpa using split
        rw [getLast?_cons_or] at edge
        exact Or.inr ⟨front, back, later, edge, after⟩

theorem hasSegment_iff (name word : String) :
    hasSegment name word = true ↔ word ≠ "" ∧ StandsBounded word.toList name.toList := by
  by_cases empty : word = ""
  · simp [hasSegment, empty]
  · have nonempty : word.toList ≠ [] := by simpa using empty
    simp [hasSegment, empty, segmentFrom_iff nonempty, StandsBounded]

/-! ## From one occurrence to the next -/

/-- The first place at or after `start` where the keyword occurs. -/
def nextPlace? (keyword text : List Char) (start : Nat) : Option Nat :=
  (List.range text.length).find? fun i => start ≤ i && keyword.isPrefixOf (text.drop i)

/-- Whether an occurrence at a place has an edge before it and one after it. -/
def boundedAt (keyword text : List Char) (i : Nat) : Bool :=
  (i == 0 || isSegmentEdge text[i - 1]?) && isSegmentEdge text[i + keyword.length]?

/-- Looks for a bounded occurrence at or after `start`, one occurrence a round; the result is
missing if the rounds do not suffice. -/
def searchFrom (keyword text : List Char) : (rounds start : Nat) → Option Bool
  | 0, _ => none
  | rounds + 1, start =>
    match nextPlace? keyword text start with
    | none => some false
    | some i =>
      if boundedAt keyword text i then some true else searchFrom keyword text rounds (i + 1)

/-- The search for a segment by jumps; an empty keyword is none. -/
def segmentSearch (name word : String) (rounds : Nat) : Option Bool :=
  if word = "" then some false else searchFrom word.toList name.toList rounds 0

/-- The keyword occurs at a place, and between two edges. -/
def HitAt (keyword text : List Char) (i : Nat) : Prop :=
  keyword <+: text.drop i ∧ boundedAt keyword text i = true

theorem lt_length_of_occurs (nonempty : keyword ≠ []) {i : Nat} (occurs : keyword <+: text.drop i) :
    i < text.length := by
  have long : 0 < keyword.length := List.length_pos_of_ne_nil nonempty
  have fits := occurs.length_le
  rw [List.length_drop] at fits
  omega

theorem nextPlace?_eq_none (nonempty : keyword ≠ []) {start : Nat}
    (nowhere : nextPlace? keyword text start = none) {i : Nat} (after : start ≤ i) :
    ¬ keyword <+: text.drop i := by
  intro occurs
  have inside := lt_length_of_occurs nonempty occurs
  simp only [nextPlace?, List.find?_range_eq_none] at nowhere
  have missed := nowhere i inside
  simp [after, List.isPrefixOf_iff_prefix.mpr occurs] at missed

/-- The place found is an occurrence, and no occurrence is left out before it. -/
theorem nextPlace?_eq_some {start i : Nat} (found : nextPlace? keyword text start = some i) :
    start ≤ i ∧ keyword <+: text.drop i ∧ ∀ j, start ≤ j → j < i → ¬ keyword <+: text.drop j := by
  simp only [nextPlace?, List.find?_range_eq_some, Bool.and_eq_true, decide_eq_true_eq,
    List.isPrefixOf_iff_prefix] at found
  obtain ⟨⟨after, occurs⟩, -, first⟩ := found
  refine ⟨after, occurs, ?_⟩
  intro j after before occurs'
  have missed := first j before
  simp [after, List.isPrefixOf_iff_prefix.mpr occurs'] at missed

/-- Rounds for every character from `start` on and one more suffice, and the search then says
whether there is a bounded occurrence at or after `start`. -/
theorem searchFrom_spec (nonempty : keyword ≠ []) (text : List Char) (rounds start : Nat)
    (enough : text.length ≤ start + rounds) :
    ∃ b, searchFrom keyword text (rounds + 1) start = some b ∧
      (b = true ↔ ∃ i, start ≤ i ∧ HitAt keyword text i) := by
  induction rounds generalizing start with
  | zero =>
    have nowhere : ∀ i, start ≤ i → ¬ keyword <+: text.drop i := by
      intro i after occurs
      have := lt_length_of_occurs nonempty occurs
      omega
    cases next : nextPlace? keyword text start with
    | none => exact ⟨false, by simp [searchFrom, next], by simp_all [HitAt]⟩
    | some i =>
      obtain ⟨after, occurs, -⟩ := nextPlace?_eq_some next
      exact absurd occurs (nowhere i after)
  | succ rounds ih =>
    cases next : nextPlace? keyword text start with
    | none =>
      refine ⟨false, by simp [searchFrom, next], ?_⟩
      simp only [Bool.false_eq_true, false_iff]
      intro hit
      obtain ⟨i, after, hit⟩ := hit
      exact nextPlace?_eq_none nonempty next after hit.1
    | some i =>
      obtain ⟨after, occurs, first⟩ := nextPlace?_eq_some next
      by_cases bounded : boundedAt keyword text i = true
      · refine ⟨true, by simp [searchFrom, next, bounded], ?_⟩
        exact ⟨fun _ => ⟨i, after, occurs, bounded⟩, fun _ => rfl⟩
      · -- the hits from `start` on are those after the rejected occurrence
        obtain ⟨b, result, tells⟩ := ih (i + 1) (by omega)
        refine ⟨b, ?_, tells.trans ⟨?_, ?_⟩⟩
        · rw [searchFrom, next]
          simpa [bounded] using result
        · intro hit
          obtain ⟨j, beyond, hit⟩ := hit
          exact ⟨j, by omega, hit⟩
        · intro hit
          obtain ⟨j, beyond, hit⟩ := hit
          refine ⟨j, ?_, hit⟩
          by_contra short
          obtain before | rfl : j < i ∨ j = i := by omega
          · exact first j beyond before hit.1
          · exact bounded hit.2

/-- The character before a place and the one after an occurrence there are the edges of the two
parts around it. -/
theorem boundedAt_iff (keyword front back : List Char) :
    boundedAt keyword (front ++ keyword ++ back) front.length = true ↔
      IsEdge front.getLast? ∧ IsEdge back.head? := by
  have after : (front ++ keyword ++ back)[front.length + keyword.length]? = back.head? := by
    rw [← List.length_append, List.getElem?_append_right (Nat.le_refl _)]
    simp [List.head?_eq_getElem?]
  have before : (front.length == 0 ||
      isSegmentEdge (front ++ keyword ++ back)[front.length - 1]?) = isSegmentEdge front.getLast? := by
    cases eq : front with
    | nil => rfl
    | cons c rest =>
      rw [List.append_assoc, List.getElem?_append_left (by simp), ← List.getLast?_eq_getElem?]
      simp
  rw [boundedAt, before, after, Bool.and_eq_true, isSegmentEdge_iff, isSegmentEdge_iff]

theorem hitAt_iff_standsBounded (nonempty : keyword ≠ []) :
    (∃ i, HitAt keyword text i) ↔ StandsBounded keyword text := by
  constructor
  · intro hit
    obtain ⟨i, occurs, bounded⟩ := hit
    have length : (text.take i).length = i := by
      have inside := lt_length_of_occurs nonempty occurs
      rw [List.length_take]
      omega
    obtain ⟨back, rest⟩ := occurs
    have split : text = text.take i ++ keyword ++ back := by
      rw [List.append_assoc, rest, List.take_append_drop]
    refine ⟨text.take i, back, split, (boundedAt_iff keyword (text.take i) back).mp ?_⟩
    rw [← split, length]
    exact bounded
  · intro stands
    obtain ⟨front, back, split, edges⟩ := stands
    subst split
    refine ⟨front.length, ⟨back, ?_⟩, (boundedAt_iff keyword front back).mpr edges⟩
    rw [List.append_assoc, List.drop_left]

/-- The search by jumps ends with what the walk finds, for every keyword: the empty one, one with
separators in it and one that overlaps itself. -/
theorem segmentSearch_eq (name word : String) (rounds : Nat) (enough : name.toList.length < rounds) :
    segmentSearch name word rounds = some (hasSegment name word) := by
  by_cases empty : word = ""
  · simp [segmentSearch, hasSegment, empty]
  · have nonempty : word.toList ≠ [] := by simpa using empty
    obtain ⟨last, rfl⟩ : ∃ last, rounds = last + 1 := ⟨rounds - 1, by omega⟩
    obtain ⟨b, result, tells⟩ := searchFrom_spec nonempty name.toList last 0 (by omega)
    have same : b = true ↔ hasSegment name word = true := by
      rw [tells, hasSegment_iff]
      simpa [empty] using hitAt_iff_standsBounded nonempty
    rw [segmentSearch, if_neg empty, result, Bool.eq_iff_iff.mpr same]

/-- Segment matching is exact. A name has a word as a segment exactly if the word is not empty and
some occurrence of it, overlapping others or not, stands between two edges; and the search that
starts again one character after each rejected occurrence ends with that answer, after at most one
round for each character of the name and one more. -/
theorem hasSegment_exact (name word : String) :
    (hasSegment name word = true ↔ word ≠ "" ∧ StandsBounded word.toList name.toList) ∧
      ∀ spare, segmentSearch name word (name.toList.length + 1 + spare) =
        some (hasSegment name word) := by
  refine ⟨hasSegment_iff name word, ?_⟩
  intro spare
  apply segmentSearch_eq
  omega

-- The first occurrence is rejected for the letter before it, and overlaps the one that counts.
example : nextPlace? "a-a".toList "xa-a-a".toList 0 = some 1 ∧
    segmentSearch "xa-a-a" "a-a" 7 = some true := by decide +kernel

end TokenSheet.Text
