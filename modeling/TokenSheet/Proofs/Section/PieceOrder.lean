import TokenSheet.Proofs.Returns
import TokenSheet.Proofs.Section.Piecewise

/-!
The order of the blocks of pieces.

A block that stands behind another one goes before it wherever both conditions hold, so a block for a
smaller range of widths belongs behind the blocks for larger ones (`Css.Condition.Precedes`). The blocks of
pieces stand in the order in which tokens first bring their conditions. Each token brings its own in the
right order (`Token.takeovers_sorted`), but a token without a number in some mode leaves conditions out,
and a later token that has them brings them too late. The blocks are in order exactly if every token
brings, beyond the conditions that are there, only such as belong behind all of them
(`pieceConditions_ordered_iff`); they are if no number is missing.
-/

namespace TokenSheet

open Css (Entry Block MediaBlock)

variable {o : Options} {gate : Gate} {tokens : List Token} {modes : List Mode} {t : Token}
  {c : Collection} {s : Section}

/-! ## Conditions in order -/

namespace Css.Condition

/-- Whether the block of a condition belongs in front of the block of another one: greatest widths
become smaller, and least widths greater. -/
def Precedes : Condition → Condition → Prop
  | .maxWidth a, .maxWidth b => b < a
  | .minWidth a, .minWidth b => a < b
  | _, _ => False

/-- Whether a condition is of the kind that is written when starting from an end of the range. -/
def IsFor (desktopFirst : Bool) : Condition → Prop
  | .maxWidth _ => desktopFirst = true
  | .minWidth _ => desktopFirst = false

end Css.Condition

namespace Token

/-- The conditions under which pieces of a token take over from its first piece, in the order of
the pieces. -/
def takeovers (desktopFirst : Bool) (modes : List Mode) (t : Token) : List Css.Condition :=
  ((Mode.pieceSteps desktopFirst modes).filter fun s => t.spans s.2.1 s.2.2).map (·.1)

theorem takeovers_sublist (desktopFirst : Bool) (modes : List Mode) (t : Token) :
    (t.takeovers desktopFirst modes).Sublist
      ((Mode.pieceSteps desktopFirst modes).map (·.1)) :=
  List.filter_sublist.map _

/-- With a number in every mode there is a piece for every step. -/
theorem takeovers_of_numbers (numbers : ∀ m ∈ modes, (t.numberIn m.id).isSome)
    (desktopFirst : Bool) :
    t.takeovers desktopFirst modes = (Mode.pieceSteps desktopFirst modes).map (·.1) := by
  rw [takeovers, List.filter_eq_self.2 fun s mem => ?_]
  have next := Mode.next_of_mem_pieceSteps mem
  rw [spans, numbers _ (next.mem (by simp)), numbers _ (next.mem (by simp))]
  rfl

/-- Over modes in order a token brings its conditions in order. -/
theorem takeovers_sorted (sorted : Mode.Descending modes) (desktopFirst : Bool) :
    (t.takeovers desktopFirst modes).Pairwise fun a b => a = b ∨ a.Precedes b := by
  refine List.Pairwise.sublist (takeovers_sublist desktopFirst modes t) ?_
  rw [Mode.pieceSteps_conditions]
  cases desktopFirst with
  | true =>
      have kept : modes.tail.dropLast.Sublist modes :=
        (List.dropLast_sublist _).trans (List.tail_sublist modes)
      rw [if_pos rfl]
      refine List.pairwise_map.2 ((sorted.sublist kept).imp fun {a b} le => ?_)
      rw [Mode.below, Mode.below, Css.Condition.maxWidth.injEq, Css.Condition.Precedes]
      omega
  | false =>
      have kept : modes.reverse.tail.dropLast.Sublist modes.reverse :=
        (List.dropLast_sublist _).trans (List.tail_sublist modes.reverse)
      rw [if_neg Bool.false_ne_true]
      refine List.pairwise_map.2 (((List.pairwise_reverse.2 sorted).sublist kept).imp
        fun {a b} le => ?_)
      rw [Mode.upwards, Mode.upwards, Css.Condition.minWidth.injEq, Css.Condition.Precedes]
      omega

theorem isFor_of_mem_takeovers {desktopFirst : Bool} {a : Css.Condition}
    (mem : a ∈ t.takeovers desktopFirst modes) : a.IsFor desktopFirst := by
  have step := (takeovers_sublist desktopFirst modes t).subset mem
  rw [Mode.pieceSteps_conditions] at step
  cases desktopFirst with
  | true =>
      obtain ⟨m, -, rfl⟩ := List.mem_map.1 step
      rfl
  | false =>
      obtain ⟨m, -, rfl⟩ := List.mem_map.1 step
      rfl

end Token

/-! ## The conditions of one token -/

namespace Fluid

/-- Pieces from a mode on start under the conditions of the modes that they lead away from. -/
theorem piecesFrom_starts {condition : Mode → Css.Condition} {m : Mode} {rest : List Mode}
    {ps : List Piece} (run : piecesFrom condition t (some (condition m)) (m :: rest) = .ok ps) :
    ps.filterMap (·.condition?) =
      (((m :: rest).zip rest).filter fun e => t.spans e.1 e.2).map fun e => condition e.1 := by
  induction rest generalizing m ps with
  | nil =>
      cases run
      rfl
  | cons next rest ih =>
      obtain ⟨others, tail, ⟨v, joins, rfl⟩ | ⟨missing, rfl⟩⟩ := piecesFrom_cases run
      · rw [List.filterMap_cons, ih tail, List.zip_cons_cons, List.filter_cons, joins.spans]
        rfl
      · rw [ih tail, List.zip_cons_cons, List.filter_cons_of_neg (by simp [missing])]

theorem piecesFrom_none_starts {condition : Mode → Css.Condition} {ps : List Piece}
    (run : piecesFrom condition t none modes = .ok ps) :
    ps.filterMap (·.condition?) =
      ((modes.tail.zip modes.tail.tail).filter fun e => t.spans e.1 e.2).map
        fun e => condition e.1 := by
  match modes with
  | [] =>
      cases run
      rfl
  | [_] =>
      cases run
      rfl
  | first :: last :: rest =>
      obtain ⟨others, tail, ⟨v, -, rfl⟩ | ⟨-, rfl⟩⟩ := piecesFrom_cases run
      · rw [List.filterMap_cons]
        exact piecesFrom_starts tail
      · exact piecesFrom_starts tail

/-- Pieces take over where the token has numbers at both ends. -/
theorem pieces_starts {desktopFirst : Bool} {ps : List Piece}
    (run : pieces desktopFirst t modes = .ok ps) :
    ps.filterMap (·.condition?) = t.takeovers desktopFirst modes := by
  cases desktopFirst with
  | true =>
      rw [pieces, if_pos rfl] at run
      rw [piecesFrom_none_starts run, Token.takeovers, Mode.pieceSteps, if_pos rfl,
        List.filter_map, List.map_map]
      rfl
  | false =>
      rw [pieces, if_neg Bool.false_ne_true] at run
      rw [piecesFrom_none_starts run, Token.takeovers, Mode.pieceSteps, if_neg Bool.false_ne_true,
        List.filter_map, List.map_map]
      simp only [t.spans_comm, Function.comp_def]

end Fluid

/-! ## The blocks of a section -/

/-- Whether an entry is the first piece of an interpolation. -/
def Css.Entry.isPiecewise (e : Entry) : Bool :=
  match e.form with
  | .piecewise .. => true
  | _ => false

/-- The condition of a block of pieces. -/
def Css.Block.pieceCondition? : Block → Option Css.Condition
  | .pieces _ b => some b.condition
  | _ => none

/-- The conditions of the blocks of pieces, in the order of the blocks. -/
def Section.pieceConditions (s : Section) : List Css.Condition :=
  s.blocks.filterMap Block.pieceCondition?

/-- The later pieces of an entry take over under the conditions of its token, if the entry is
interpolated piece by piece; otherwise there are none. -/
theorem takeovers_of_clampableEntryIn {modeId : String} {en : Entrant} {e : FluidEntry}
    (known : EntrantOf o modes en.token en)
    (run : clampableEntryIn o modes modeId en = .ok (some e)) :
    e.entry.key = en.token.key ∧
      e.laterPieces.map (·.condition) =
        if e.entry.isPiecewise then en.token.takeovers o.desktopFirst modes else [] := by
  refine ⟨(fluidEntryFor_of_clampableEntryIn known run).entry.key.symm, ?_⟩
  have conditions : e.laterPieces.map (·.condition) = e.later.filterMap (·.condition?) := by
    rw [FluidEntry.laterPieces, List.map_filterMap]
    refine List.filterMap_congr fun p _ => ?_
    cases p.condition? <;> rfl
  rw [conditions]
  rcases pieces_of_clampableEntryIn run with ⟨none, other⟩ | ⟨first, pieces, start, entry⟩
  · have plain : e.entry.isPiecewise = false := by
      unfold Css.Entry.isPiecewise
      split
      · rename_i n v form
        exact absurd form (other n v)
      · rfl
    rw [none, plain]
    rfl
  · have starts := Fluid.pieces_starts pieces
    rw [List.filterMap_cons, start] at starts
    rw [entry]
    exact starts

/-- The tokens behind the piecewise entries of a section, in the order of the entries. -/
structure Section.PiecewiseBy (s : Section) (desktopFirst : Bool) (modes : List Mode)
    (tokens ts : List Token) : Prop where
  sublist : ts.Sublist tokens
  keys : (s.entries.filter (·.isPiecewise)).map Entry.key = ts.map Token.key
  conditions : s.pieceConditions = (ts.flatMap (Token.takeovers desktopFirst modes)).eraseDups

namespace FluidSteps

variable {widest standard : Mode} {entrants : List Entrant} {growing : List FluidEntry}
  {fixed : List Entry} {media : List MediaBlock} {fallback : List Block}
  (h : FluidSteps o gate modes tokens widest standard entrants growing fixed media fallback)

include h

/-- Entries of stepped tokens are not interpolated. -/
theorem fixed_isPiecewise : ∀ e ∈ fixed, e.isPiecewise = false := by
  intro e mem
  obtain ⟨t, -, made⟩ := (mem_filterMapM h.stay).1 mem
  obtain ⟨v, -, rfl⟩ := plainEntryIn_eq_ok.1 made
  rfl

/-- What an entry of a clampable token brings to the blocks of pieces. -/
theorem takeovers {en : Entrant} (inside : en ∈ clampable entrants) {e : FluidEntry}
    (made : clampableEntryIn o modes standard.id en = .ok (some e)) :
    e.entry.key = en.token.key ∧
      e.laterPieces.map (·.condition) =
        if e.entry.isPiecewise then en.token.takeovers o.desktopFirst modes else [] :=
  takeovers_of_clampableEntryIn (h.entrantOf_of_mem (mem_clampable.1 inside).1).2 made

/-- The conditions of later pieces are brought by the tokens of the piecewise entries. -/
theorem exists_piecewise :
    ∃ ts : List Token, ts.Sublist tokens ∧
      ((growing.map (·.entry) ++ fixed).filter (·.isPiecewise)).map Entry.key = ts.map Token.key ∧
      (laterPieces growing).map (·.condition) =
        ts.flatMap (Token.takeovers o.desktopFirst modes) := by
  obtain ⟨ens, kept, sources⟩ := exists_sources (q := (·.entry.isPiecewise)) h.grow
  have origins : List.Forall₂ (fun en e => e.entry.key = en.token.key ∧
      e.laterPieces.map (·.condition) = en.token.takeovers o.desktopFirst modes) ens
      (growing.filter (·.entry.isPiecewise)) := by
    have inside := (List.forall₂_and_left _ _).2 ⟨fun en mem => kept.subset mem, sources⟩
    refine inside.imp fun en e known => ?_
    obtain ⟨inside, piecewise, made⟩ := known
    have brings := h.takeovers inside made
    rwa [if_pos piecewise] at brings
  refine ⟨ens.map (·.token), ?_, ?_, ?_⟩
  · have inside : (ens.map (·.token)).Sublist (entrants.map (·.token)) :=
      (kept.trans List.filter_sublist).map _
    rw [h.tokens_eq] at inside
    exact inside.trans admitted_sublist
  · have plain : fixed.filter (·.isPiecewise) = [] :=
      List.filter_eq_nil_iff.2 fun e mem => by simp [h.fixed_isPiecewise e mem]
    rw [List.filter_append, plain, List.append_nil, List.filter_map, List.map_map, List.map_map]
    exact map_eq_of_forall₂ origins fun en e known => known.1
  · have others : ∀ e ∈ growing, e.entry.isPiecewise = false →
        e.laterPieces.map (·.condition) = [] := by
      intro e mem plain
      obtain ⟨en, inside, made⟩ := (mem_filterMapM h.grow).1 mem
      rw [(h.takeovers inside made).2, plain]
      rfl
    have split : (laterPieces growing).map (·.condition) =
        growing.flatMap fun e => e.laterPieces.map (·.condition) := List.map_flatMap
    rw [split, ← flatMap_filter_eq others, List.flatMap_map]
    exact flatMap_eq_of_forall₂ origins fun en e known => known.2

end FluidSteps

/-- Only blocks of pieces count among the blocks of a section. -/
theorem pieceConditions_eq {media : List MediaBlock} {ps : List (String × MediaBlock)}
    {fallback : List Block} (guarded : ∀ b ∈ fallback, ∃ bs, b = .fallback bs)
    (blocks : s.blocks = media.map .media ++ ps.map (fun p => .pieces p.1 p.2) ++ fallback) :
    s.pieceConditions = ps.map (·.2.condition) := by
  have none_there : fallback.filterMap Block.pieceCondition? = [] := by
    refine List.filterMap_eq_nil_iff.2 fun b mem => ?_
    obtain ⟨bs, rfl⟩ := guarded b mem
    rfl
  have none_here : (media.map Block.media).filterMap Block.pieceCondition? = [] := by
    refine List.filterMap_eq_nil_iff.2 (List.forall_mem_map.2 fun b _ => rfl)
  rw [Section.pieceConditions, blocks, List.filterMap_append, List.filterMap_append, none_here,
    none_there, List.nil_append, List.append_nil, List.filterMap_map]
  exact congrFun List.filterMap_eq_map' ps

/-- The piecewise entries of a fluid section come from tokens of the collection, and these bring the
conditions of the blocks. -/
theorem exists_piecewiseBy (fluid : c.IsFluid o) (run : sectionOf o gate c tokens = .ok s) :
    ∃ ts, s.PiecewiseBy o.desktopFirst (Mode.widestFirst c.modes) tokens ts := by
  obtain ⟨d, draft, rfl⟩ := exists_draft_of_sectionOf run
  rw [draftOf_of_isFluid fluid] at draft
  rcases fluidDraft_eq_ok draft with ⟨-, rfl⟩ |
    ⟨widest, standard, entrants, growing, fixed, media, fallback, -, -, steps, entries, blocks⟩
  · exact ⟨[], List.nil_sublist _, rfl, rfl⟩
  · obtain ⟨ts, sublist, keys, conditions⟩ := steps.exists_piecewise
    refine ⟨ts, sublist, by rw [entries]; exact keys, ?_⟩
    rw [pieceConditions_eq (fun b mem => ?_) blocks, pieceBlocks_conditions, conditions]
    obtain ⟨bs, -, same⟩ := fallbackBlocks_eq_ok steps.guard mem
    exact ⟨bs, same⟩

/-- Blocks of pieces have different conditions, all of one kind. They stand in the order of the cascade
exactly if every token that is interpolated piece by piece brings, beyond the conditions of those
before it, only such as belong behind all of them; and they do if no number is missing. -/
theorem pieceConditions_ordered_iff (fluid : c.IsFluid o)
    (run : sectionOf o gate c tokens = .ok s) :
    s.pieceConditions.Nodup ∧ (∀ a ∈ s.pieceConditions, a.IsFor o.desktopFirst) ∧
      ∃ ts, s.PiecewiseBy o.desktopFirst (Mode.widestFirst c.modes) tokens ts ∧
        (s.pieceConditions.Pairwise Css.Condition.Precedes ↔
          Gradual Css.Condition.Precedes
            (Token.takeovers o.desktopFirst (Mode.widestFirst c.modes)) ts) ∧
        ((∀ t ∈ ts, ∀ m ∈ c.modes, (t.numberIn m.id).isSome) →
          s.pieceConditions.Pairwise Css.Condition.Precedes) := by
  obtain ⟨ts, by_tokens⟩ := exists_piecewiseBy fluid run
  have sorted : ∀ t ∈ ts, (t.takeovers o.desktopFirst (Mode.widestFirst c.modes)).Pairwise
      fun a b => a = b ∨ a.Precedes b :=
    fun t _ => t.takeovers_sorted (Mode.widestFirst_descending c.modes) o.desktopFirst
  have exactly := by_tokens.conditions ▸ pairwise_eraseDups_flatMap_iff sorted
  refine ⟨?_, fun a mem => ?_, ts, by_tokens, exactly, fun numbers => exactly.2 ?_⟩
  · rw [by_tokens.conditions]
    exact eraseDups_nodup _
  · rw [by_tokens.conditions, List.mem_eraseDups] at mem
    obtain ⟨t, -, mem⟩ := List.mem_flatMap.1 mem
    exact Token.isFor_of_mem_takeovers mem
  · refine gradual_of_same fun t mem => Token.takeovers_of_numbers (fun m listed => ?_) _
    exact numbers t mem m (Mode.mem_widestFirst.1 listed)

namespace TwoDesktops

/-- A collection with five modes, the widest two of one width. -/
def collection : Collection :=
  .spaces [⟨"w", "Wide Desktop", some 1680⟩, ⟨"d", "Desktop", some 1680⟩,
    ⟨"l", "Laptop", some 1366⟩, ⟨"t", "Tablet", some 840⟩, ⟨"m", "Mobile", some 480⟩] ["v", "u"]

/-- A number that is missing on the laptop. -/
def gap : Token :=
  collection.number "v" "gap" "--space-gap" [("w", 40), ("d", 40), ("t", 20), ("m", 10)]

/-- A number of every mode. -/
def inset : Token :=
  collection.number "u" "inset" "--space-inset"
    [("w", 40), ("d", 40), ("l", 30), ("t", 20), ("m", 10)]

/-- Options under which both numbers are interpolated piece by piece. -/
def options : Options := { piecewise := ["--space-gap", "--space-inset"] }

theorem widestFirst_modes : Mode.widestFirst collection.modes = collection.modes :=
  Mode.widestFirst_of_descending (by simp [Mode.Descending, collection, Collection.spaces, Mode.px])

/-- A number of every mode has its blocks in order. -/
theorem inset_blocks_in_order :
    collection.IsFluid options ∧ ∃ s, sectionOf options {} collection [inset] = .ok s ∧
      s.pieceConditions.Pairwise Css.Condition.Precedes := by
  have fluid : collection.IsFluid options := by decide
  have returns : Returns (sectionOf options {} collection [inset]) := by
    rw [sectionOf, draftOf_of_isFluid fluid, widestFirst_modes]
    exact returns_of_error? (by decide +kernel)
  obtain ⟨s, run⟩ := returns
  obtain ⟨-, -, ts, by_tokens, -, ordered⟩ := pieceConditions_ordered_iff fluid run
  refine ⟨fluid, s, run, ordered fun t mem => ?_⟩
  obtain rfl := List.mem_singleton.1 (by_tokens.sublist.subset mem)
  decide

/-- Behind the number that is missing on the laptop, the other one brings the conditions of wider
modes too late. -/
theorem blocks_may_stand_out_of_order :
    ∃ s, sectionOf options {} collection [gap, inset] = .ok s ∧
      s.pieceConditions = [.maxWidth 839, .maxWidth 1679, .maxWidth 1365] ∧
      ¬ s.pieceConditions.Pairwise Css.Condition.Precedes := by
  have found : (sectionOf options {} collection [gap, inset]).toOption.map
      Section.pieceConditions = some [.maxWidth 839, .maxWidth 1679, .maxWidth 1365] := by
    rw [sectionOf, draftOf_of_isFluid (by decide), widestFirst_modes]
    decide +kernel
  obtain ⟨s, run, conditions⟩ := exists_of_toOption_map found
  refine ⟨s, run, conditions, ?_⟩
  rw [conditions]
  simp [Css.Condition.Precedes]

end TwoDesktops

end TokenSheet
