import TokenSheet.Proofs.Css.Widths
import TokenSheet.Proofs.Css.References

/-!
The segments of a piecewise interpolation.

Where no two modes share a width, the range of widths falls into segments between neighbours;
the widest segment goes on above the widest mode, and the narrowest below the narrowest one
(`Mode.Segment`). No width has two (`Segment.unique`), and the narrow end of its segment is the mode
that applies at the width if the widest mode is left out (`segment_of_atWidth?`). The pieces of a
token (`pieces_eq_ok`) therefore follow the same steps as media blocks over the modes without the
widest one, and the last piece whose condition holds belongs to the segment of the width
(`segment_of_pieceAt?`), whichever end of the range the pieces start from.
-/

namespace TokenSheet

namespace Mode

variable {modes : List Mode} {width : Int} {wide narrow wide' narrow' : Mode}

/-- Modes in order from the widest to the narrowest, no two of one width. -/
def Strict (modes : List Mode) : Prop :=
  modes.Pairwise fun a b => b.px < a.px

/-- Neighbouring modes with a width between them. Above the widest mode it is the widest two, and
below the narrowest mode the narrowest two. -/
structure Segment (modes : List Mode) (width : Int) (wide narrow : Mode) : Prop where
  next : [wide, narrow] <:+: modes
  covers : narrow.px ≤ width ∧ width < wide.px ∨
    modes.head? = some wide ∧ wide.px ≤ width ∨
    modes.getLast? = some narrow ∧ width < narrow.px

theorem widestFirst_strict {modes : List Mode} (distinct : (modes.map px).Nodup) :
    Strict (widestFirst modes) := by
  have apart : ((widestFirst modes).map px).Nodup :=
    ((widestFirst_perm modes).map px).nodup_iff.2 distinct
  have both := (widestFirst_descending modes).and (List.pairwise_map.1 apart)
  refine both.imp fun {a b} h => ?_
  have le : b.px ≤ a.px := h.1
  have ne : a.px ≠ b.px := h.2
  omega

namespace Strict

theorem px_lt (sorted : Strict modes) (next : [wide, narrow] <:+: modes) : narrow.px < wide.px := by
  have pair : Strict [wide, narrow] := List.Pairwise.sublist next.sublist sorted
  rwa [Strict, List.pairwise_pair] at pair

theorem le_head (sorted : Strict modes) (head : modes.head? = some wide) {m : Mode}
    (mem : m ∈ modes) : m.px ≤ wide.px := by
  cases modes with
  | nil => cases mem
  | cons first rest =>
      obtain rfl := Option.some.inj head
      rcases List.mem_cons.1 mem with rfl | later
      · exact Int.le_refl _
      · exact Int.le_of_lt ((List.pairwise_cons.1 sorted).1 m later)

theorem last_le (sorted : Strict modes) (last : modes.getLast? = some narrow) {m : Mode}
    (mem : m ∈ modes) : narrow.px ≤ m.px := by
  obtain ⟨front, rfl⟩ := List.getLast?_eq_some_iff.1 last
  rcases List.mem_append.1 mem with earlier | here
  · exact Int.le_of_lt ((List.pairwise_append.1 sorted).2.2 m earlier narrow
      (List.mem_singleton_self narrow))
  · obtain rfl := List.mem_singleton.1 here
    exact Int.le_refl _

theorem last_lt_head (sorted : Strict modes) (head : modes.head? = some wide)
    (last : modes.getLast? = some narrow) (apart : wide ≠ narrow) : narrow.px < wide.px := by
  cases modes with
  | nil => cases head
  | cons first rest =>
      obtain rfl := Option.some.inj head
      rcases List.mem_cons.1 (List.mem_of_getLast? last) with same | later
      · exact absurd same.symm apart
      · exact (List.pairwise_cons.1 sorted).1 narrow later

/-- Two pairs of neighbours are the same, or one lies below the other. -/
theorem next_cases (sorted : Strict modes) (next : [wide, narrow] <:+: modes)
    (next' : [wide', narrow'] <:+: modes) :
    wide = wide' ∧ narrow = narrow' ∨ wide'.px ≤ narrow.px ∨ wide.px ≤ narrow'.px := by
  induction modes with
  | nil => cases List.infix_nil.1 next
  | cons m rest ih =>
      have sorted' : Strict rest := (List.pairwise_cons.1 sorted).2
      -- what comes after the first neighbour of `m` is no wider than it
      have below {a b c : Mode} (first : [a, b] <+: m :: rest) (mem : c ∈ rest) : c.px ≤ b.px := by
        obtain ⟨tail, split⟩ := (List.cons_prefix_cons.1 first).2
        exact sorted'.le_head (by rw [← split]; rfl) mem
      rcases List.infix_cons_iff.1 next with first | later <;>
        rcases List.infix_cons_iff.1 next' with first' | later'
      · obtain ⟨rfl, tail⟩ := List.cons_prefix_cons.1 first
        obtain ⟨rfl, tail'⟩ := List.cons_prefix_cons.1 first'
        refine .inl ⟨rfl, ?_⟩
        have heads := List.prefix_of_prefix_length_le tail tail' (Nat.le_refl 1)
        exact (List.cons_prefix_cons.1 heads).1
      · exact .inr (.inl (below first (later'.mem List.mem_cons_self)))
      · exact .inr (.inr (below first' (later.mem List.mem_cons_self)))
      · exact ih sorted' later later'

end Strict

namespace Segment

/-- Only the narrowest segment goes on below its narrow end. -/
theorem narrow_le (h : Segment modes width wide narrow) (sorted : Strict modes) {m : Mode}
    (mem : m ∈ modes) (lt : m.px < narrow.px) : narrow.px ≤ width := by
  have step := sorted.px_lt h.next
  rcases h.covers with ⟨le, -⟩ | ⟨-, above⟩ | ⟨last, -⟩
  · exact le
  · omega
  · have least := sorted.last_le last mem
    omega

/-- Only the widest segment goes on above its wide end. -/
theorem lt_wide (h : Segment modes width wide narrow) (sorted : Strict modes) {m : Mode}
    (mem : m ∈ modes) (lt : wide.px < m.px) : width < wide.px := by
  have step := sorted.px_lt h.next
  rcases h.covers with ⟨-, below⟩ | ⟨head, -⟩ | ⟨-, below⟩
  · exact below
  · have greatest := sorted.le_head head mem
    omega
  · omega

theorem wide_mem (h : Segment modes width wide narrow) : wide ∈ modes :=
  h.next.mem List.mem_cons_self

theorem narrow_mem (h : Segment modes width wide narrow) : narrow ∈ modes :=
  h.next.mem (List.mem_cons_of_mem _ List.mem_cons_self)

/-- Every width has at most one segment. -/
theorem unique (h : Segment modes width wide narrow) (h' : Segment modes width wide' narrow')
    (sorted : Strict modes) : wide = wide' ∧ narrow = narrow' := by
  have lt := sorted.px_lt h.next
  have lt' := sorted.px_lt h'.next
  rcases sorted.next_cases h.next h'.next with same | under | under
  · exact same
  · have le := h.narrow_le sorted h'.narrow_mem (by omega)
    have below := h'.lt_wide sorted h.wide_mem (by omega)
    omega
  · have le := h'.narrow_le sorted h.narrow_mem (by omega)
    have below := h.lt_wide sorted h'.wide_mem (by omega)
    omega

end Segment

/-- The narrow end of the segment of a width is the mode that applies there if the widest one is
left out. -/
theorem segment_of_atWidth? (sorted : Strict modes) (next : [wide, narrow] <:+: modes)
    (here : atWidth? modes.tail width = some narrow) : Segment modes width wide narrow := by
  refine ⟨next, ?_⟩
  have lt := sorted.px_lt next
  cases modes with
  | nil => cases List.infix_nil.1 next
  | cons m rest =>
      rw [List.tail_cons, atWidth?] at here
      cases found : rest.find? (fun m => decide (m.px ≤ width)) with
      | none =>
          rw [found, Option.none_or] at here
          have mem := List.mem_of_getLast? here
          have unmet := List.find?_eq_none.1 found narrow mem
          rw [decide_eq_true_eq] at unmet
          refine .inr (.inr ⟨?_, by omega⟩)
          rw [List.getLast?_cons, here]
          rfl
      | some first =>
          rw [found, Option.some_or] at here
          obtain rfl := Option.some.inj here
          obtain ⟨fits, front, back, split, earlier⟩ := List.find?_eq_some_iff_append.1 found
          rw [decide_eq_true_eq] at fits
          rcases List.mem_cons.1 (next.mem List.mem_cons_self) with rfl | later
          · by_cases above : wide.px ≤ width
            · exact .inr (.inl ⟨rfl, above⟩)
            · exact .inl ⟨fits, by omega⟩
          · have sorted' := (List.pairwise_cons.1 sorted).2
            rw [split] at later sorted'
            have before : wide ∈ front := by
              rcases List.mem_append.1 later with before | after
              · exact before
              · have le := Strict.le_head (List.pairwise_append.1 sorted').2.1 rfl after
                omega
            have unmet := earlier wide before
            rw [Bool.not_eq_true', decide_eq_false_iff_not] at unmet
            exact .inl ⟨fits, by omega⟩

/-! ## The steps from piece to piece -/

/-- The modes of the piece in the default block, the wide one first. -/
def firstPiece? (desktopFirst : Bool) (modes : List Mode) : Option (Mode × Mode) :=
  if desktopFirst then (modes.zip modes.tail).head?
  else (modes.reverse.zip modes.reverse.tail).head?.map Prod.swap

/-- The modes of each other piece, the wide one first, with the condition under which it takes
over. -/
def pieceSteps (desktopFirst : Bool) (modes : List Mode) : List (Css.Condition × Mode × Mode) :=
  if desktopFirst then (modes.tail.zip modes.tail.tail).map fun e => (e.1.below, e.1, e.2)
  else (modes.reverse.tail.zip modes.reverse.tail.tail).map fun e => (e.1.upwards, e.2, e.1)

theorem next_of_mem_zip {a b : Mode} (mem : (a, b) ∈ modes.zip modes.tail) :
    [a, b] <:+: modes := by
  induction modes with
  | nil => cases mem
  | cons m rest ih =>
      cases rest with
      | nil => cases mem
      | cons next rest =>
          rcases List.mem_cons.1 mem with same | later
          · cases same
            exact (List.prefix_append _ rest).isInfix
          · exact List.infix_cons_iff.2 (.inr (ih later))

theorem next_of_firstPiece? {desktopFirst : Bool}
    (first : firstPiece? desktopFirst modes = some (wide, narrow)) : [wide, narrow] <:+: modes := by
  cases desktopFirst with
  | true => exact next_of_mem_zip (List.mem_of_head? first)
  | false =>
      obtain ⟨⟨a, b⟩, head, same⟩ := Option.map_eq_some_iff.1 first
      cases same
      exact List.reverse_infix.1 (next_of_mem_zip (List.mem_of_head? head))

theorem next_of_mem_pieceSteps {desktopFirst : Bool} {s : Css.Condition × Mode × Mode}
    (mem : s ∈ pieceSteps desktopFirst modes) : [s.2.1, s.2.2] <:+: modes := by
  cases desktopFirst with
  | true =>
      obtain ⟨⟨a, b⟩, pair, rfl⟩ := List.mem_map.1 mem
      exact (next_of_mem_zip pair).trans (List.tail_suffix modes).isInfix
  | false =>
      obtain ⟨⟨a, b⟩, pair, rfl⟩ := List.mem_map.1 mem
      have next := (next_of_mem_zip pair).trans (List.tail_suffix modes.reverse).isInfix
      exact List.reverse_infix.1 next

/-- Each mode but the last is the first of a pair of neighbours. -/
theorem zip_tail_fst (modes : List Mode) : (modes.zip modes.tail).map (·.1) = modes.dropLast := by
  induction modes with
  | nil => rfl
  | cons m rest ih =>
      cases rest with
      | nil => rfl
      | cons next rest =>
          rw [List.dropLast_cons_of_ne_nil (List.cons_ne_nil next rest), ← ih]
          rfl

/-- Seen from their narrow ends, the pieces follow the steps of the modes without the widest one. -/
theorem pieceSteps_narrow (desktopFirst : Bool) (modes : List Mode) :
    (pieceSteps desktopFirst modes).map (fun s => (s.1, s.2.2)) =
      transitions desktopFirst modes.tail := by
  cases desktopFirst with
  | true => simp only [pieceSteps, transitions, if_true, List.map_map, Function.comp_def]
  | false =>
      have starts := zip_tail_fst modes.reverse.tail
      rw [← List.tail_dropLast, List.dropLast_reverse] at starts
      simp only [pieceSteps, transitions, Bool.false_eq_true, if_false]
      rw [← starts, List.map_map, List.map_map]
      rfl

/-- The conditions of the steps are those of the inner modes. -/
theorem pieceSteps_conditions (desktopFirst : Bool) (modes : List Mode) :
    (pieceSteps desktopFirst modes).map (·.1) =
      if desktopFirst then modes.tail.dropLast.map below
      else modes.reverse.tail.dropLast.map upwards := by
  cases desktopFirst with
  | true =>
      rw [if_pos rfl, ← zip_tail_fst, pieceSteps, if_pos rfl, List.map_map, List.map_map]
      rfl
  | false =>
      rw [if_neg Bool.false_ne_true, ← zip_tail_fst, pieceSteps, if_neg Bool.false_ne_true,
        List.map_map, List.map_map]
      rfl

/-- No two steps have one condition. -/
theorem Strict.pieceSteps_nodup (sorted : Strict modes) (desktopFirst : Bool) :
    ((pieceSteps desktopFirst modes).map (·.1)).Nodup := by
  rw [pieceSteps_conditions]
  cases desktopFirst with
  | true =>
      have kept : modes.tail.dropLast.Sublist modes :=
        (List.dropLast_sublist _).trans (List.tail_sublist modes)
      rw [if_pos rfl]
      refine List.pairwise_map.2 ((sorted.sublist kept).imp fun {a b} lt same => ?_)
      rw [below, below, Css.Condition.maxWidth.injEq] at same
      omega
  | false =>
      have kept : modes.reverse.tail.dropLast.Sublist modes.reverse :=
        (List.dropLast_sublist _).trans (List.tail_sublist modes.reverse)
      rw [if_neg Bool.false_ne_true]
      refine List.pairwise_map.2 (((List.pairwise_reverse.2 sorted).sublist kept).imp
        fun {a b} lt same => ?_)
      rw [upwards, upwards, Css.Condition.minWidth.injEq] at same
      omega

theorem firstPiece?_narrow (desktopFirst : Bool) (modes : List Mode) :
    (firstPiece? desktopFirst modes).map (·.2) = default? desktopFirst modes.tail := by
  cases desktopFirst with
  | true =>
      match modes with
      | [] => rfl
      | [_] => rfl
      | _ :: _ :: _ => rfl
  | false =>
      have starts := zip_tail_fst modes.reverse
      rw [List.dropLast_reverse] at starts
      simp only [firstPiece?, default?, Bool.false_eq_true, if_false]
      rw [← List.head?_reverse, ← starts, List.head?_map, Option.map_map]
      rfl

/-- The modes of the last piece whose condition holds at a width; those of the piece in the default
block if there is none. -/
def pieceAt? (desktopFirst : Bool) (modes : List Mode) (width : Int) : Option (Mode × Mode) :=
  ((((pieceSteps desktopFirst modes).filter fun s => s.1.holds width).getLast?).map (·.2)).or
    (firstPiece? desktopFirst modes)

theorem pieceAt?_narrow (sorted : Strict modes) (desktopFirst : Bool) :
    (pieceAt? desktopFirst modes width).map (·.2) = atWidth? modes.tail width := by
  have descending : Descending modes.tail :=
    List.Pairwise.imp (fun lt => Int.le_of_lt lt) (sorted.sublist (List.tail_sublist modes))
  rw [← takeover?_or_default? descending desktopFirst, ← pieceSteps_narrow, takeover?,
    ← firstPiece?_narrow, List.filter_map, List.getLast?_map, Option.map_map, pieceAt?,
    Option.map_or, Option.map_map]
  rfl

/-- Whichever end of the range holds the default, the last piece whose condition holds belongs to
the segment of the width. -/
theorem segment_of_pieceAt? (sorted : Strict modes) {desktopFirst : Bool}
    (here : pieceAt? desktopFirst modes width = some (wide, narrow)) :
    Segment modes width wide narrow := by
  refine segment_of_atWidth? sorted ?_ ?_
  · rw [pieceAt?, Option.or_eq_some_iff] at here
    rcases here with step | ⟨-, first⟩
    · obtain ⟨s, last, same⟩ := Option.map_eq_some_iff.1 step
      have next := next_of_mem_pieceSteps (List.mem_of_mem_filter (List.mem_of_getLast? last))
      rwa [same] at next
    · exact next_of_firstPiece? first
  · rw [← pieceAt?_narrow sorted desktopFirst, here]
    rfl

end Mode

/-! ## The pieces of a token -/

/-- Whether a token has a number in both of two modes. -/
def Token.spans (t : Token) (a b : Mode) : Bool :=
  (t.numberIn a.id).isSome && (t.numberIn b.id).isSome

theorem Token.spans_comm (t : Token) (a b : Mode) : t.spans a b = t.spans b a :=
  Bool.and_comm ..

namespace Fluid

variable {t : Token} {modes : List Mode} {a b : Mode} {v v' : Css.Value Float}

/-- A value is the interpolation of a token between two modes. -/
def Joins (t : Token) (a b : Mode) (v : Css.Value Float) : Prop :=
  ∃ p q, sampleIn t a = some p ∧ sampleIn t b = some q ∧ linearClamp p q t.unit = .ok v

theorem Joins.unique (h : Joins t a b v) (h' : Joins t a b v') : v = v' := by
  obtain ⟨p, q, first, last, made⟩ := h
  obtain ⟨p', q', first', last', made'⟩ := h'
  cases first.symm.trans first'
  cases last.symm.trans last'
  exact Except.ok.inj (made.symm.trans made')

/-- The text of the interpolation of a token between two modes; empty if there is none. -/
def joinedText (t : Token) (ends : Mode × Mode) : String :=
  match sampleIn t ends.1, sampleIn t ends.2 with
  | some p, some q => ((linearClamp p q t.unit).toOption.map Css.Value.text).getD ""
  | _, _ => ""

theorem Joins.text_eq (h : Joins t a b v) : v.text = joinedText t (a, b) := by
  obtain ⟨p, q, first, last, made⟩ := h
  rw [joinedText, first, last]
  simp only
  rw [made]
  rfl

theorem sampleIn_px {m : Mode} {p : Sample Float} (sample : sampleIn t m = some p) :
    p.px = m.px := by
  obtain ⟨x, -, rfl⟩ := Option.map_eq_some_iff.1 sample
  rfl

theorem isSome_sampleIn {m : Mode} : (sampleIn t m).isSome = (t.numberIn m.id).isSome := by
  rw [sampleIn, Option.isSome_map]

/-- An interpolation does not depend on the order of its ends. -/
theorem linearClamp_comm {α : Type} [Scalar α] {p q : Sample α} {unit : String}
    (apart : p.px ≠ q.px) : linearClamp p q unit = linearClamp q p unit := by
  unfold linearClamp
  rcases Int.lt_or_gt_of_ne apart with lt | gt
  · rw [if_neg (by omega), if_pos (by omega)]
  · rw [if_pos (by omega), if_neg (by omega)]

theorem Joins.symm (h : Joins t a b v) (apart : a.px ≠ b.px) : Joins t b a v := by
  obtain ⟨p, q, first, last, made⟩ := h
  refine ⟨q, p, last, first, ?_⟩
  rw [← sampleIn_px first, ← sampleIn_px last] at apart
  rw [linearClamp_comm (Ne.symm apart), made]

/-- Between two modes there is an interpolation only if the token has a number in both. -/
theorem Joins.spans (h : Joins t a b v) : t.spans a b = true := by
  obtain ⟨p, q, first, last, -⟩ := h
  rw [Token.spans, ← isSome_sampleIn, ← isSome_sampleIn, first, last]
  rfl

/-- The pieces of neighbouring modes are the one between the first two, if the token has a number in
both, and those that follow. -/
theorem piecesFrom_cases {condition : Mode → Css.Condition} {condition? : Option Css.Condition}
    {rest : List Mode} {ps : List Piece}
    (run : piecesFrom condition t condition? (a :: b :: rest) = .ok ps) :
    ∃ later, piecesFrom condition t (some (condition b)) (b :: rest) = .ok later ∧
      ((∃ v, Joins t a b v ∧ ps = ⟨condition?, pieceLabel a b, v⟩ :: later) ∨
        t.spans a b = false ∧ ps = later) := by
  rw [piecesFrom] at run
  split at run
  · rename_i p q first last
    obtain ⟨v, made, run⟩ := bind_eq_ok.1 run
    obtain ⟨piece, here, run⟩ := bind_eq_ok.1 run
    obtain ⟨later, others, done⟩ := bind_eq_ok.1 run
    rw [← pure_eq_ok.1 done, ← pure_eq_ok.1 here]
    exact ⟨later, others, .inl ⟨v, ⟨p, q, first, last, made⟩, rfl⟩⟩
  · rename_i missing
    obtain ⟨piece, here, run⟩ := bind_eq_ok.1 run
    obtain ⟨later, others, done⟩ := bind_eq_ok.1 run
    rw [← pure_eq_ok.1 done, ← pure_eq_ok.1 here]
    refine ⟨later, others, .inr ⟨?_, rfl⟩⟩
    rw [Token.spans, ← isSome_sampleIn, ← isSome_sampleIn]
    cases first : sampleIn t a with
    | none => rfl
    | some p =>
        cases last : sampleIn t b with
        | none => rfl
        | some q => exact absurd last (missing p q first)

/-- Every piece is the interpolation between two of the modes, and it is named after them. -/
theorem joins_of_mem_piecesFrom {condition : Mode → Css.Condition}
    {condition? : Option Css.Condition} {rest : List Mode} {ps : List Piece}
    (run : piecesFrom condition t condition? rest = .ok ps) {p : Piece} (mem : p ∈ ps) :
    ∃ first ∈ rest, ∃ last ∈ rest, Joins t first last p.value ∧ p.label = pieceLabel first last := by
  induction rest generalizing condition? ps with
  | nil =>
      cases run
      cases mem
  | cons a rest ih =>
      cases rest with
      | nil =>
          cases run
          cases mem
      | cons b rest =>
          have further {ps : List Piece} (others : piecesFrom condition t (some (condition b))
              (b :: rest) = .ok ps) (mem : p ∈ ps) : ∃ first ∈ a :: b :: rest,
              ∃ last ∈ a :: b :: rest, Joins t first last p.value ∧
                p.label = pieceLabel first last := by
            obtain ⟨first, first_mem, last, last_mem, made⟩ := ih others mem
            exact ⟨first, List.mem_cons_of_mem a first_mem, last, List.mem_cons_of_mem a last_mem,
              made⟩
          obtain ⟨later, others, ⟨v, joins, rfl⟩ | ⟨-, rfl⟩⟩ := piecesFrom_cases run
          · rcases List.mem_cons.1 mem with rfl | mem
            · exact ⟨a, List.mem_cons_self, b, List.mem_cons_of_mem a List.mem_cons_self, joins, rfl⟩
            · exact further others mem
          · exact further others mem

theorem joins_of_mem_pieces {desktopFirst : Bool} {ps : List Piece}
    (run : pieces desktopFirst t modes = .ok ps) {p : Piece} (mem : p ∈ ps) :
    ∃ first ∈ modes, ∃ last ∈ modes, Joins t first last p.value ∧
      p.label = pieceLabel first last := by
  unfold pieces at run
  split at run
  · exact joins_of_mem_piecesFrom run mem
  · obtain ⟨first, first_mem, last, last_mem, made⟩ := joins_of_mem_piecesFrom run mem
    exact ⟨first, List.mem_reverse.1 first_mem, last, List.mem_reverse.1 last_mem, made⟩

/-- In a run of neighbouring modes with numbers, the first two have a piece, and the others follow
them. -/
theorem piecesFrom_cons {condition : Mode → Css.Condition} {condition? : Option Css.Condition}
    {rest : List Mode} {ps : List Piece} (first : (t.numberIn a.id).isSome)
    (last : (t.numberIn b.id).isSome)
    (run : piecesFrom condition t condition? (a :: b :: rest) = .ok ps) :
    ∃ v later, Joins t a b v ∧
      piecesFrom condition t (some (condition b)) (b :: rest) = .ok later ∧
      ps = ⟨condition?, pieceLabel a b, v⟩ :: later := by
  obtain ⟨later, others, ⟨v, joins, split⟩ | ⟨missing, -⟩⟩ := piecesFrom_cases run
  · exact ⟨v, later, joins, others, split⟩
  · rw [Token.spans, first, last] at missing
    cases missing

/-- After the first pair each neighbour has a piece under the condition of the mode that it starts
from. -/
theorem piecesFrom_eq_ok {condition : Mode → Css.Condition} {rest : List Mode} {ps : List Piece}
    (numbers : ∀ m ∈ a :: rest, (t.numberIn m.id).isSome)
    (run : piecesFrom condition t (some (condition a)) (a :: rest) = .ok ps) :
    List.Forall₂ (fun e p => p.condition? = some (condition e.1) ∧ Joins t e.1 e.2 p.value)
      ((a :: rest).zip rest) ps := by
  induction rest generalizing a ps with
  | nil =>
      cases run
      exact .nil
  | cons b rest ih =>
      obtain ⟨here, numbers⟩ := List.forall_mem_cons.1 numbers
      obtain ⟨there, -⟩ := List.forall_mem_cons.1 numbers
      obtain ⟨v, later, joins, others, rfl⟩ := piecesFrom_cons here there run
      exact .cons ⟨rfl, joins⟩ (ih numbers others)

/-- The pieces of a token with a number in every mode, from either end of the range: one for each
pair of neighbours, under the condition of its step. -/
theorem pieces_eq_ok {desktopFirst : Bool} {ps : List Piece} (sorted : Mode.Strict modes)
    (two : 2 ≤ modes.length) (numbers : ∀ m ∈ modes, (t.numberIn m.id).isSome)
    (run : pieces desktopFirst t modes = .ok ps) :
    ∃ wide narrow first later, ps = first :: later ∧
      Mode.firstPiece? desktopFirst modes = some (wide, narrow) ∧ first.condition? = none ∧
      Joins t wide narrow first.value ∧
      List.Forall₂ (fun s p => p.condition? = some s.1 ∧ Joins t s.2.1 s.2.2 p.value)
        (Mode.pieceSteps desktopFirst modes) later := by
  cases desktopFirst with
  | true =>
      match modes, two with
      | a :: b :: rest, _ =>
          obtain ⟨here, numbers⟩ := List.forall_mem_cons.1 numbers
          obtain ⟨there, -⟩ := List.forall_mem_cons.1 numbers
          obtain ⟨v, later, joins, others, rfl⟩ := piecesFrom_cons here there run
          have steps := piecesFrom_eq_ok numbers others
          exact ⟨a, b, _, later, rfl, rfl, rfl, joins, List.forall₂_map_left_iff.2 steps⟩
  | false =>
      obtain ⟨up, rfl⟩ : ∃ up, modes = up.reverse := ⟨modes.reverse, (List.reverse_reverse _).symm⟩
      have first : Mode.firstPiece? false up.reverse = (up.zip up.tail).head?.map Prod.swap := by
        rw [Mode.firstPiece?, if_neg Bool.false_ne_true, List.reverse_reverse]
      have steps : Mode.pieceSteps false up.reverse =
          (up.tail.zip up.tail.tail).map fun e => (e.1.upwards, e.2, e.1) := by
        rw [Mode.pieceSteps, if_neg Bool.false_ne_true, List.reverse_reverse]
      rw [pieces, if_neg Bool.false_ne_true, List.reverse_reverse] at run
      rw [List.length_reverse] at two
      simp only [List.mem_reverse] at numbers
      -- up from the narrowest mode each piece starts at its narrow end
      have apart : ∀ e ∈ up.zip up.tail, e.1.px ≠ e.2.px := by
        intro e pair
        have next : [e.2, e.1] <:+: up.reverse := List.reverse_infix.2 (Mode.next_of_mem_zip pair)
        have lt := sorted.px_lt next
        omega
      rw [first, steps]
      match up, two, numbers, run, apart with
      | a :: b :: rest, _, numbers, run, apart =>
          obtain ⟨here, numbers⟩ := List.forall_mem_cons.1 numbers
          obtain ⟨there, -⟩ := List.forall_mem_cons.1 numbers
          obtain ⟨v, later, joins, others, rfl⟩ := piecesFrom_cons here there run
          refine ⟨b, a, _, later, rfl, rfl, rfl, joins.symm (apart _ List.mem_cons_self), ?_⟩
          have swapped := (List.forall₂_and_left _ _).2
            ⟨(List.forall_mem_cons.1 apart).2, piecesFrom_eq_ok numbers others⟩
          refine List.forall₂_map_left_iff.2 (swapped.imp ?_)
          rintro ⟨x, y⟩ p ⟨ne, condition, joins⟩
          exact ⟨condition, joins.symm ne⟩

end Fluid

end TokenSheet
