import Mathlib.Data.List.Nodup
import TokenSheet.Proofs.Css.Cascade

/-!
The mode that applies at a width.

Seen from a window, modes in order from the widest to the narrowest are a step function of the
width: the first one that fits applies, and the narrowest where none fits (`Mode.atWidth?`). Both
ways of writing it with media conditions, down from the widest mode and up from the narrowest, give
that function (`takeover?_or_default?`), also where several modes share a width.
-/

namespace TokenSheet

namespace Mode

/-- The mode of a list in order from the widest to the narrowest that applies at a width. -/
def atWidth? (modes : List Mode) (width : Int) : Option Mode :=
  (modes.find? fun m => m.px ≤ width).or modes.getLast?

/-- The mode of the last condition that holds at a width. -/
def takeover? (width : Int) (ts : List (Css.Condition × Mode)) : Option Mode :=
  ((ts.filter fun t => t.1.holds width).getLast?).map (·.2)

variable {width : Int}

theorem takeover?_cons (t : Css.Condition × Mode) (ts : List (Css.Condition × Mode)) :
    takeover? width (t :: ts) =
      (takeover? width ts).or (if t.1.holds width then some t.2 else none) := by
  unfold takeover?
  rw [List.filter_cons]
  by_cases holds : t.1.holds width
  · rw [if_pos (decide_eq_true holds), if_pos holds, List.getLast?_cons]
    cases (ts.filter fun t => t.1.holds width).getLast? <;> rfl
  · rw [if_neg (by simpa using holds), if_neg holds, Option.or_none]

theorem takeover?_eq_none {ts : List (Css.Condition × Mode)} (unmet : ∀ t ∈ ts, ¬ t.1.holds width) :
    takeover? width ts = none := by
  have none_left : (ts.filter fun t => t.1.holds width) = [] := by
    rw [List.filter_eq_nil_iff]
    intro t mem
    simpa using unmet t mem
  rw [takeover?, none_left]
  rfl

/-! ## Order -/

/-- Modes in order from the widest to the narrowest. -/
def Descending (modes : List Mode) : Prop :=
  modes.Pairwise fun a b => b.px ≤ a.px

theorem widestFirst_perm (modes : List Mode) : (widestFirst modes).Perm modes :=
  List.mergeSort_perm modes _

theorem mem_widestFirst {modes : List Mode} {m : Mode} : m ∈ widestFirst modes ↔ m ∈ modes :=
  (widestFirst_perm modes).mem_iff

theorem widestFirst_descending (modes : List Mode) : Descending (widestFirst modes) := by
  refine (List.pairwise_mergeSort ?_ ?_ modes).imp fun le => of_decide_eq_true le
  · intro a b c
    simp only [decide_eq_true_eq]
    omega
  · intro a b
    simp only [Bool.or_eq_true, decide_eq_true_eq]
    omega

/-- Modes that are in order already stay as they are. -/
theorem widestFirst_of_descending {modes : List Mode} (sorted : Descending modes) :
    widestFirst modes = modes :=
  List.mergeSort_of_pairwise (sorted.imp fun le => decide_eq_true le)

/-- Modes of different widths have one order from the widest to the narrowest. -/
theorem widestFirst_perm_eq {modes modes' : List Mode} (perm : modes.Perm modes')
    (distinct : (modes.map (·.px)).Nodup) : widestFirst modes' = widestFirst modes := by
  refine List.Perm.eq_of_pairwise (fun a b first second narrower wider => ?_)
    (widestFirst_descending modes') (widestFirst_descending modes)
    ((widestFirst_perm modes').trans (perm.symm.trans (widestFirst_perm modes).symm))
  have mem := perm.mem_iff.2 (mem_widestFirst.1 first)
  exact List.inj_on_of_nodup_map distinct mem (mem_widestFirst.1 second)
    (Int.le_antisymm wider narrower)

theorem default?_isSome (desktopFirst : Bool) {modes : List Mode} (nonempty : modes ≠ []) :
    ∃ m, default? desktopFirst modes = some m := by
  cases desktopFirst with
  | true => exact ⟨modes.head nonempty, List.head?_eq_some_head nonempty⟩
  | false => exact ⟨modes.getLast nonempty, List.getLast?_eq_some_getLast nonempty⟩

/-- A condition leads to one of the modes. -/
theorem mem_of_mem_transitions {desktopFirst : Bool} {modes : List Mode} {t : Css.Condition × Mode}
    (h : t ∈ transitions desktopFirst modes) : t.2 ∈ modes := by
  cases desktopFirst with
  | true =>
      obtain ⟨⟨m, next⟩, pair, rfl⟩ := List.mem_map.1 h
      exact List.mem_of_mem_tail (List.of_mem_zip pair).2
  | false =>
      obtain ⟨m, mem, rfl⟩ := List.mem_map.1 h
      exact List.mem_reverse.1 (List.mem_of_mem_tail mem)

theorem mem_of_default? {desktopFirst : Bool} {modes : List Mode} {m : Mode}
    (h : default? desktopFirst modes = some m) : m ∈ modes := by
  cases desktopFirst with
  | true => exact List.mem_of_head? h
  | false => exact List.mem_of_getLast? h

theorem atWidth?_isSome {modes : List Mode} (nonempty : modes ≠ []) (width : Int) :
    ∃ m ∈ modes, atWidth? modes width = some m := by
  rw [atWidth?, List.getLast?_eq_some_getLast nonempty]
  cases found : modes.find? (fun m => decide (m.px ≤ width)) with
  | some m => exact ⟨m, List.mem_of_find?_eq_some found, rfl⟩
  | none => exact ⟨modes.getLast nonempty, List.getLast_mem nonempty, rfl⟩

/-! ## Down from the widest mode -/

theorem transitions_desktop_cons (m next : Mode) (rest : List Mode) :
    transitions true (m :: next :: rest) = (m.below, next) :: transitions true (next :: rest) := rfl

/-- Every condition of a step down belongs to the mode that it leads away from. -/
theorem mem_transitions_desktop {modes : List Mode} {t : Css.Condition × Mode}
    (h : t ∈ transitions true modes) : ∃ m ∈ modes, t.1 = m.below := by
  obtain ⟨⟨m, next⟩, pair, rfl⟩ := List.mem_map.1 h
  exact ⟨m, (List.of_mem_zip pair).1, rfl⟩

theorem takeover?_desktop {modes : List Mode} (sorted : Descending modes) :
    (takeover? width (transitions true modes)).or modes.head? = atWidth? modes width := by
  induction modes with
  | nil => rfl
  | cons m rest ih =>
      obtain ⟨narrower, sorted'⟩ := List.pairwise_cons.1 sorted
      cases rest with
      | nil =>
          rw [atWidth?, List.find?_singleton]
          by_cases fits : m.px ≤ width <;> simp [fits, transitions, takeover?]
      | cons next rest =>
          rw [transitions_desktop_cons]
          by_cases fits : m.px ≤ width
          · have unmet : ∀ t ∈ (m.below, next) :: transitions true (next :: rest),
              ¬ t.1.holds width := by
              intro t mem
              rw [← transitions_desktop_cons] at mem
              obtain ⟨m', mem', same⟩ := mem_transitions_desktop mem
              have le : m'.px ≤ m.px := by
                rcases List.mem_cons.1 mem' with rfl | mem'
                · exact Int.le_refl _
                · exact narrower m' mem'
              rw [same, below, Css.Condition.holds]
              omega
            rw [takeover?_eq_none unmet, atWidth?, List.find?_cons_of_pos (by simpa using fits)]
            rfl
          · have holds : m.below.holds width := by
              rw [below, Css.Condition.holds]
              omega
            have step := ih sorted'
            rw [takeover?_cons, if_pos holds, Option.or_assoc, Option.some_or]
            rw [List.head?_cons] at step
            rw [step, atWidth?, atWidth?, List.find?_cons_of_neg (a := m) (by simpa using fits),
              List.getLast?_cons_cons]

/-! ## Up from the narrowest mode -/

theorem takeover?_mobile (modes : List Mode) :
    (takeover? width (transitions false modes)).or modes.getLast? = atWidth? modes width := by
  have steps : takeover? width (transitions false modes) =
      modes.dropLast.find? fun m => m.px ≤ width := by
    have same : (fun m : Mode => decide (m.upwards.holds width)) = fun m => decide (m.px ≤ width) :=
      rfl
    rw [takeover?, transitions, if_neg Bool.false_ne_true, List.filter_map, Function.comp_def, same,
      List.tail_reverse, List.filter_reverse, List.getLast?_map, List.getLast?_reverse,
      List.head?_filter, Option.map_map]
    simp [Function.comp_def]
  rw [steps, atWidth?]
  rcases List.eq_nil_or_concat modes with rfl | ⟨front, last, rfl⟩
  · rfl
  · rw [List.concat_eq_append, List.dropLast_concat, List.find?_append, List.getLast?_concat,
      List.find?_singleton]
    by_cases fits : last.px ≤ width <;>
      cases front.find? (fun m => m.px ≤ width) <;> simp [fits]

/-- Whichever end of the range holds the default, the last condition that holds leads to the mode of
the width. -/
theorem takeover?_or_default? {modes : List Mode} (sorted : Descending modes)
    (desktopFirst : Bool) :
    (takeover? width (transitions desktopFirst modes)).or (default? desktopFirst modes) =
      atWidth? modes width := by
  cases desktopFirst with
  | true => exact takeover?_desktop sorted
  | false => exact takeover?_mobile modes

end Mode

/-! ## Media blocks -/

namespace Css

/-- In blocks that each hold a declaration of a property, the block of the mode that takes over is
the one that shows. -/
theorem shown?_media {w : Window} {property : String} {decls : Mode → List Declaration}
    {texts : Mode → String} {ts : List (Condition × Mode)}
    (steps : ∀ t ∈ ts, (∃ d ∈ decls t.2, d.property = property) ∧
      ∀ d ∈ decls t.2, d.property = property → d.value.text = texts t.2) :
    shown? w property (ts.flatMap fun t => writtenFor (.media t.1) (decls t.2)) =
      (Mode.takeover? w.width ts).map texts := by
  rw [Mode.takeover?, Option.map_map]
  exact shown?_flatMap steps

end Css

end TokenSheet
