import Mathlib.Data.List.Nodup
import TokenSheet.Proofs.Css.Segments
import TokenSheet.Proofs.Section.PieceBlocks
import TokenSheet.Proofs.Section.Shown

/-!
Piecewise output is one interpolation of the width.

A token that is interpolated piece by piece has one piece in the default block, and its other pieces
in blocks that it shares with other tokens. All tokens with a number in every mode have their pieces
under the same conditions in the same order (`conditions_laterPieces`). In a window the last block
whose condition holds, or else the default block, therefore shows the interpolation between the two
modes around the width of the window, and it does not matter at which end of the range the pieces
start.
-/

namespace TokenSheet

open Css (Entry Block MediaBlock Declaration)

variable {o : Options} {gate : Gate} {tokens : List Token} {modes : List Mode} {t : Token}
  {w : Css.Window}

/-! ## Entries with pieces -/

/-- The entry of a token that is interpolated piece by piece, with its pieces for other blocks. -/
structure PiecesOf (desktopFirst : Bool) (modes : List Mode) (t : Token) (e : FluidEntry) :
    Prop where
  first : ∃ n v wide narrow, Mode.firstPiece? desktopFirst modes = some (wide, narrow) ∧
    Fluid.Joins t wide narrow v ∧ e.entry = ⟨t.id, t.property, .piecewise n v⟩
  later : List.Forall₂ (fun s p => p.condition? = some s.1 ∧ Fluid.Joins t s.2.1 s.2.2 p.value)
    (Mode.pieceSteps desktopFirst modes) e.later

theorem piecewiseEntryOf_eq_ok {e : FluidEntry}
    (run : piecewiseEntryOf o modes t = .ok (some e)) :
    ∃ first, Fluid.pieces o.desktopFirst t modes = .ok (first :: e.later) ∧
      first.condition? = none ∧
      e.entry = ⟨t.id, t.property, .piecewise (e.later.length + 1) first.value⟩ := by
  unfold piecewiseEntryOf at run
  split at run
  · obtain ⟨ps, pieces, run⟩ := bind_eq_ok.1 run
    cases ps with
    | nil => cases run
    | cons first later =>
        simp only at run
        split at run
        · rename_i start
          obtain rfl := Option.some.inj (pure_eq_ok.1 run)
          exact ⟨first, pieces, Option.isNone_iff_eq_none.1 start, rfl⟩
        · cases run
  · cases run

theorem interpolatedEntry_form {standard : Css.Value Float} {e : Entry}
    (run : interpolatedEntry o modes t standard = .ok e) (n : Nat) (v : Css.Value Float) :
    e.form ≠ .piecewise n v := by
  unfold interpolatedEntry at run
  obtain ⟨r, -, run⟩ := bind_eq_ok.1 run
  split at run <;> rw [← pure_eq_ok.1 run] <;> exact fun form => by cases form

/-- An entry has pieces for other blocks only if its form says so. -/
theorem pieces_of_clampableEntryIn {modeId : String} {en : Entrant} {e : FluidEntry}
    (run : clampableEntryIn o modes modeId en = .ok (some e)) :
    e.later = [] ∧ (∀ n v, e.entry.form ≠ .piecewise n v) ∨
      ∃ first, Fluid.pieces o.desktopFirst en.token modes = .ok (first :: e.later) ∧
        first.condition? = none ∧
        e.entry =
          ⟨en.token.id, en.token.property, .piecewise (e.later.length + 1) first.value⟩ := by
  obtain ⟨v, -, ⟨-, rfl⟩ | ⟨-, made⟩⟩ := clampableEntryIn_eq_ok run
  · exact .inl ⟨rfl, fun _ _ form => by cases form⟩
  · unfold scalingEntry at made
    cases columns : en.token.columns? with
    | some n =>
        rw [columns] at made
        rw [← Except.ok.inj made]
        exact .inl ⟨rfl, fun _ _ form => by cases form⟩
    | none =>
        rw [columns] at made
        obtain ⟨piecewise, pieces, made⟩ := bind_eq_ok.1 made
        cases piecewise with
        | some e' =>
            obtain rfl := pure_eq_ok.1 made
            exact .inr (piecewiseEntryOf_eq_ok pieces)
        | none =>
            obtain ⟨entry, whole, done⟩ := bind_eq_ok.1 made
            rw [← pure_eq_ok.1 done]
            exact .inl ⟨rfl, interpolatedEntry_form whole⟩

/-- What an entry contributes depends on its token and on whether the token scales. -/
theorem clampableEntryIn_congr {modeId : String} {en en' : Entrant} (token : en.token = en'.token)
    (scaling : en.scaling = en'.scaling) :
    clampableEntryIn o modes modeId en = clampableEntryIn o modes modeId en' := by
  rw [clampableEntryIn, clampableEntryIn, token, scaling]

theorem piecesOf_of_clampableEntryIn {modeId : String} {en : Entrant} {e : FluidEntry}
    (sorted : Mode.Strict modes) (two : 2 ≤ modes.length)
    (run : clampableEntryIn o modes modeId en = .ok (some e)) {n : Nat} {v : Css.Value Float}
    (form : e.entry.form = .piecewise n v)
    (numbers : ∀ m ∈ modes, (en.token.numberIn m.id).isSome) :
    PiecesOf o.desktopFirst modes en.token e := by
  rcases pieces_of_clampableEntryIn run with ⟨-, other⟩ | ⟨first, pieces, -, entry⟩
  · exact absurd form (other n v)
  · obtain ⟨wide, narrow, first', later, same, pair, -, joins, steps⟩ :=
      Fluid.pieces_eq_ok sorted two numbers pieces
    obtain ⟨rfl, rfl⟩ := List.cons.inj same
    exact ⟨⟨_, _, wide, narrow, pair, joins, entry⟩, steps⟩

/-- The pieces of an entry that belong to other blocks. -/
def FluidEntry.laterPieces (e : FluidEntry) : List LaterPiece :=
  e.later.filterMap fun p =>
    p.condition?.map fun c => ⟨c, p.label, ⟨e.entry.property, p.value⟩⟩

/-- One piece for each step, under the condition of the step. -/
theorem PiecesOf.laterPieces {desktopFirst : Bool} {e : FluidEntry}
    (h : PiecesOf desktopFirst modes t e) :
    List.Forall₂ (fun s p => s.1 = p.condition ∧ ∃ v, Fluid.Joins t s.2.1 s.2.2 v ∧
        p.declaration = ⟨t.property, v⟩)
      (Mode.pieceSteps desktopFirst modes) e.laterPieces := by
  obtain ⟨⟨n, v, wide, narrow, -, -, entry⟩, later⟩ := h
  rw [FluidEntry.laterPieces, entry]
  generalize Mode.pieceSteps desktopFirst modes = steps at later ⊢
  generalize e.later = ps at later
  induction later with
  | nil => exact .nil
  | cons here _ ih =>
      obtain ⟨condition, joins⟩ := here
      rw [List.filterMap_cons, condition]
      exact .cons ⟨rfl, _, joins, rfl⟩ ih

theorem PiecesOf.conditions {desktopFirst : Bool} {e : FluidEntry}
    (h : PiecesOf desktopFirst modes t e) :
    e.laterPieces.map (·.condition) = (Mode.pieceSteps desktopFirst modes).map (·.1) := by
  have same : List.Forall₂ Eq ((Mode.pieceSteps desktopFirst modes).map (·.1))
      (e.laterPieces.map (·.condition)) :=
    List.forall₂_map_left_iff.2 (List.forall₂_map_right_iff.2 (h.laterPieces.imp fun _ _ p => p.1))
  rw [List.forall₂_eq_eq_eq] at same
  exact same.symm

/-- At every width there is a piece. -/
theorem PiecesOf.exists_pieceAt? {desktopFirst : Bool} {e : FluidEntry}
    (h : PiecesOf desktopFirst modes t e) (width : Int) :
    ∃ wide narrow v, Mode.pieceAt? desktopFirst modes width = some (wide, narrow) ∧
      Fluid.Joins t wide narrow v := by
  obtain ⟨n, v, wide, narrow, first, joins, -⟩ := h.first
  rw [Mode.pieceAt?, first]
  cases last : ((Mode.pieceSteps desktopFirst modes).filter fun s => s.1.holds width).getLast? with
  | none => exact ⟨wide, narrow, v, rfl, joins⟩
  | some s =>
      have step := List.mem_of_mem_filter (List.mem_of_getLast? last)
      obtain ⟨p, -, -, joins⟩ := exists_of_forall₂_left h.later step
      exact ⟨s.2.1, s.2.2, p.value, rfl, joins⟩

theorem property_of_mem_laterPieces {e : FluidEntry} {p : LaterPiece} (mem : p ∈ e.laterPieces) :
    p.declaration.property = e.entry.property := by
  obtain ⟨q, -, made⟩ := List.mem_filterMap.1 mem
  obtain ⟨c, -, rfl⟩ := Option.map_eq_some_iff.1 made
  rfl

/-! ## The only entry of a token -/

/-- Whether a default block holds a token as the first piece of an interpolation. -/
def InPieces (entries : List Entry) (t : Token) : Prop :=
  ∃ e ∈ entries, e.key = t.key ∧ ∃ n v, e.form = .piecewise n v

/-- The entry of a token with pieces, as the only one under its property. -/
structure OnlyPieces (desktopFirst : Bool) (modes : List Mode) (growing : List FluidEntry)
    (fixed : List Entry) (t : Token) (e : FluidEntry) : Prop where
  mem : e ∈ growing
  pieces : PiecesOf desktopFirst modes t e
  only : ∀ e' ∈ growing, e'.entry.property = t.property → e' = e
  others : ∀ e' ∈ fixed, e'.property ≠ t.property

/-- The default block shows the piece that has no condition. -/
theorem OnlyPieces.shown?_firstPiece {desktopFirst : Bool} {growing : List FluidEntry}
    {fixed : List Entry} {e : FluidEntry} {first : Mode × Mode}
    (only : OnlyPieces desktopFirst modes growing fixed t e)
    (own : Owner tokens (growing.map (·.entry) ++ fixed) t)
    (apart : NoCompanion (growing.map (·.entry) ++ fixed) t.property)
    (default : Mode.firstPiece? desktopFirst modes = some first) :
    Css.shown? w t.property ((growing.map (·.entry) ++ fixed).flatMap Entry.written) =
      some (Fluid.joinedText t first) := by
  refine shown?_entries own apart fun entry listed same => ?_
  rcases List.mem_append.1 listed with grew | stayed
  · obtain ⟨e', mem, rfl⟩ := List.mem_map.1 grew
    obtain rfl := only.only e' mem same
    obtain ⟨n, v, wide, narrow, pair, joins, entry⟩ := only.pieces.first
    obtain rfl := Option.some.inj (default.symm.trans pair)
    rw [entry, ← joins.text_eq]
    rfl
  · exact absurd same (only.others entry stayed)

namespace FluidSteps

variable {widest standard : Mode} {entrants : List Entrant} {growing : List FluidEntry}
  {fixed : List Entry} {media : List MediaBlock} {fallback : List Block}
  (h : FluidSteps o gate modes tokens widest standard entrants growing fixed media fallback)

include h in
/-- The entry of a clampable token is the only one under its property. -/
theorem only_grown (own : Owner tokens (growing.map (·.entry) ++ fixed) t) {en : Entrant}
    (known : EntrantOf o modes t en) (clampable : en.stepped = false) {e : FluidEntry}
    (made : clampableEntryIn o modes standard.id en = .ok (some e)) :
    (∀ e' ∈ growing, e'.entry.property = t.property → e' = e) ∧
      ∀ e' ∈ fixed, e'.property ≠ t.property := by
  constructor
  · intro e' mem' same
    obtain ⟨en', known', clampable', made'⟩ := h.entrant_of_grown own mem' same
    have scaling : Except.ok en.scaling = Except.ok en'.scaling :=
      (known.scaling clampable).symm.trans (known'.scaling clampable')
    rw [clampableEntryIn_congr (known'.token.trans known.token.symm)
      (Except.ok.inj scaling).symm, made] at made'
    exact (Option.some.inj (Except.ok.inj made')).symm
  · intro e' mem' same
    obtain ⟨en', known', stepped, -⟩ := h.entrant_of_stayed own mem' same
    have steps := known'.stepped
    rw [known.stepped, clampable, stepped] at steps
    cases steps

variable (sorted : Mode.Strict modes) (two : 2 ≤ modes.length)
  (numbers : ∀ u ∈ tokens, InPieces (growing.map (·.entry) ++ fixed) u →
    ∀ m ∈ modes, (u.numberIn m.id).isSome)

include h sorted two numbers

/-- Every entry has pieces under the conditions of all steps, or none. -/
theorem conditions_of_mem {e : FluidEntry} (mem : e ∈ growing) :
    e.laterPieces.map (·.condition) = [] ∨
      e.laterPieces.map (·.condition) = (Mode.pieceSteps o.desktopFirst modes).map (·.1) := by
  obtain ⟨en, entrant, made⟩ := (mem_filterMapM h.grow).1 mem
  rcases pieces_of_clampableEntryIn made with ⟨none, -⟩ | ⟨first, -, -, entry⟩
  · rw [FluidEntry.laterPieces, none]
    exact .inl rfl
  · have form : e.entry.form = .piecewise (e.later.length + 1) first.value := by rw [entry]
    have key : e.entry.key = en.token.key := by rw [entry]; rfl
    have passed := (h.entrantOf_of_mem (mem_clampable.1 entrant).1).1
    have inPieces : InPieces (growing.map (·.entry) ++ fixed) en.token :=
      ⟨e.entry, List.mem_append_left _ (List.mem_map_of_mem mem), key, _, _, form⟩
    have all := numbers en.token (admitted_sublist.subset passed) inPieces
    exact .inr (piecesOf_of_clampableEntryIn sorted two made form all).conditions

/-- Together the conditions of all pieces come up in the order of the steps. -/
theorem conditions_laterPieces {e : FluidEntry} (mem : e ∈ growing)
    (pieces : PiecesOf o.desktopFirst modes t e) :
    ((laterPieces growing).map (·.condition)).eraseDups =
      (Mode.pieceSteps o.desktopFirst modes).map (·.1) := by
  have parts : (laterPieces growing).map (·.condition) =
      growing.flatMap fun e => e.laterPieces.map (·.condition) := List.map_flatMap
  rw [parts]
  exact eraseDups_flatMap (sorted.pieceSteps_nodup _)
    (fun e mem => h.conditions_of_mem sorted two numbers mem) ⟨e, mem, pieces.conditions⟩

theorem exists_onlyPieces (own : Owner tokens (growing.map (·.entry) ++ fixed) t)
    (inPieces : InPieces (growing.map (·.entry) ++ fixed) t) :
    ∃ en, EntrantOf o modes t en ∧ en.stepped = false ∧
      ∃ e, OnlyPieces o.desktopFirst modes growing fixed t e := by
  obtain ⟨entry, listed, key, n, v, form⟩ := inPieces
  have property := (Prod.mk.inj key).2
  rcases List.mem_append.1 listed with grew | stayed
  · obtain ⟨e, mem, rfl⟩ := List.mem_map.1 grew
    obtain ⟨en, known, clampable, made⟩ := h.entrant_of_grown own mem property
    obtain ⟨only, others⟩ := h.only_grown own known clampable made
    have all := numbers t own.mem ⟨e.entry, listed, key, n, v, form⟩
    rw [← known.token] at all
    have pieces := piecesOf_of_clampableEntryIn sorted two made form all
    rw [known.token] at pieces
    exact ⟨en, known, clampable, e, mem, pieces, only, others⟩
  · obtain ⟨-, -, -, made⟩ := h.entrant_of_stayed own stayed property
    obtain ⟨v', -, rfl⟩ := plainEntryIn_eq_ok.1 made
    cases form

/-- The blocks of pieces show the piece of the last step whose condition holds. -/
theorem shown?_pieceBlocks {e : FluidEntry}
    (own : OnlyPieces o.desktopFirst modes growing fixed t e) :
    Css.shown? w t.property (((pieceBlocks (laterPieces growing)).map fun p =>
        Block.pieces p.1 p.2).flatMap Block.written) =
      ((((Mode.pieceSteps o.desktopFirst modes).filter fun s => s.1.holds w.width).getLast?).map
        (·.2)).map (Fluid.joinedText t) := by
  have nodup := sorted.pieceSteps_nodup o.desktopFirst
  have later := own.pieces.laterPieces
  rw [pieceBlocks_written, h.conditions_laterPieces sorted two numbers own.mem own.pieces,
    List.flatMap_map, Option.map_map]
  refine Css.shown?_flatMap fun s step => ⟨?_, fun d inside same => ?_⟩
  · obtain ⟨p, mem, condition, v, -, declaration⟩ := exists_of_forall₂_left later step
    refine ⟨p.declaration, List.mem_map_of_mem (List.mem_filter.2 ⟨?_, ?_⟩), ?_⟩
    · exact List.mem_flatMap.2 ⟨e, own.mem, mem⟩
    · exact decide_eq_true condition.symm
    · rw [declaration]
  · obtain ⟨p, kept, rfl⟩ := List.mem_map.1 inside
    obtain ⟨mem, condition⟩ := List.mem_filter.1 kept
    obtain ⟨e', grown, mem⟩ := List.mem_flatMap.1 mem
    obtain rfl := own.only e' grown ((property_of_mem_laterPieces mem).symm.trans same)
    obtain ⟨s', step', condition', v, joins, declaration⟩ := exists_of_forall₂_right later mem
    -- no other step has the condition of the block
    obtain rfl : s' = s := List.inj_on_of_nodup_map nodup step' step
      (condition'.trans (of_decide_eq_true condition))
    rw [declaration]
    exact joins.text_eq

end FluidSteps

/-- A browser that knows interpolations passes over the fallback. -/
theorem shown?_fallback_of_knowsClamp {declared : List String} {es : List Entrant}
    {bs : List Block} (run : fallbackBlocks o modes declared es = .ok bs)
    (knows : w.knowsClamp = true) (property : String) :
    Css.shown? w property (bs.flatMap Block.written) = none := by
  refine Css.shown?_eq_none_of_unmet fun d written => ?_
  obtain ⟨b, listed, written⟩ := List.mem_flatMap.1 written
  obtain ⟨guarded, -, rfl⟩ := fallbackBlocks_eq_ok run listed
  obtain ⟨m, -, written⟩ := List.mem_flatMap.1 written
  obtain ⟨x, -, rfl⟩ := List.mem_map.1 written
  rw [Css.Circumstance.met, knows]
  rfl

theorem fluidDraft_shown?_piece {d : Draft} (run : fluidDraft o gate modes tokens = .ok d)
    (sorted : Mode.Strict modes) (two : 2 ≤ modes.length)
    (numbers : ∀ u ∈ tokens, InPieces d.entries u → ∀ m ∈ modes, (u.numberIn m.id).isSome)
    (own : Owner tokens d.entries t) (apart : NoCompanion d.entries t.property)
    (inPieces : InPieces d.entries t) (knows : w.knowsClamp = true) :
    ∃ wide narrow v, Mode.Segment modes w.width wide narrow ∧ Fluid.Joins t wide narrow v ∧
      Css.shown? w t.property
        (d.entries.flatMap Entry.written ++ d.blocks.flatMap Block.written) = some v.text := by
  rcases fluidDraft_eq_ok run with ⟨rfl, -⟩ |
    ⟨widest, standard, entrants, growing, fixed, media, fallback, -, -, steps, entries, blocks⟩
  · cases two
  · rw [entries] at numbers own apart inPieces ⊢
    obtain ⟨en, known, clampable, e, only⟩ :=
      steps.exists_onlyPieces sorted two numbers own inPieces
    obtain ⟨_, _, _, _, default, -⟩ := only.pieces.first
    have shows : Css.shown? w t.property ((growing.map (·.entry) ++ fixed).flatMap Entry.written ++
          d.blocks.flatMap Block.written) =
        (Mode.pieceAt? o.desktopFirst modes w.width).map (Fluid.joinedText t) := by
      rw [blocks, Css.shown?_append, List.flatMap_append, Css.shown?_append,
        shown?_fallback_of_knowsClamp steps.guard knows, Option.none_or, List.flatMap_append,
        Css.shown?_append, steps.shown?_media_eq_none own known clampable, Option.or_none,
        steps.shown?_pieceBlocks sorted two numbers only,
        only.shown?_firstPiece own apart default, Mode.pieceAt?, default,
        Option.map_or]
      rfl
    obtain ⟨wide, narrow, v, here, joins⟩ := only.pieces.exists_pieceAt? w.width
    refine ⟨wide, narrow, v, Mode.segment_of_pieceAt? sorted here, joins, ?_⟩
    rw [shows, here, joins.text_eq]
    rfl

/-! ## Breakpoint collections -/

/-- A token of a fluid section that is interpolated piece by piece, over modes of different widths.
Every token with pieces has a number in every mode. No other token declares the property, neither as
its own nor as the companion of a proportion. -/
structure PiecewiseToken (o : Options) (gate : Gate) (c : Collection) (tokens : List Token)
    (s : Section) (t : Token) : Prop where
  run : sectionOf o gate c tokens = .ok s
  fluid : c.IsFluid o
  distinct : (c.modes.map Mode.px).Nodup
  numbers : ∀ u ∈ tokens, InPieces s.entries u → ∀ m ∈ c.modes, (u.numberIn m.id).isSome
  own : Owner tokens s.entries t
  apart : NoCompanion s.entries t.property
  inPieces : InPieces s.entries t

/-- In a window the section shows a token as interpolated between the two modes around the width. -/
def Section.FollowsSegment (s : Section) (c : Collection) (t : Token) (w : Css.Window) : Prop :=
  ∃ wide narrow v, Mode.Segment (Mode.widestFirst c.modes) w.width wide narrow ∧
    Fluid.Joins t wide narrow v ∧ s.shown? w t.property = some v.text

theorem Section.FollowsSegment.unique {c : Collection} {s s' : Section}
    (h : s.FollowsSegment c t w) (h' : s'.FollowsSegment c t w)
    (sorted : Mode.Strict (Mode.widestFirst c.modes)) :
    s.shown? w t.property = s'.shown? w t.property := by
  obtain ⟨wide, narrow, v, segment, joins, shown⟩ := h
  obtain ⟨wide', narrow', v', segment', joins', shown'⟩ := h'
  obtain ⟨rfl, rfl⟩ := segment.unique segment' sorted
  rw [shown, shown', joins.unique joins']

theorem PiecewiseToken.followsSegment {c : Collection} {s : Section}
    (h : PiecewiseToken o gate c tokens s t) (knows : w.knowsClamp = true) :
    s.FollowsSegment c t w := by
  obtain ⟨run, fluid, distinct, numbers, own, apart, inPieces⟩ := h
  obtain ⟨d, draft, rfl⟩ := exists_draft_of_sectionOf run
  rw [draftOf_of_isFluid fluid] at draft
  have two : 2 ≤ (Mode.widestFirst c.modes).length := by
    rw [(Mode.widestFirst_perm c.modes).length_eq]
    exact fluid.2.2
  refine fluidDraft_shown?_piece draft (Mode.widestFirst_strict distinct) two ?_ own apart inPieces
    knows
  intro u mem pieces m listed
  exact numbers u mem pieces m (Mode.mem_widestFirst.1 listed)

/-- A token that is interpolated piece by piece shows, at every width, the interpolation between the
two modes around the width: the widest two above the widest mode, and the narrowest two below the
narrowest one. Both directions show the same text. -/
theorem piecewise_token_follows_segment {c : Collection} {s : Section} (w : Css.Window)
    (knows : w.knowsClamp = true) (h : PiecewiseToken o gate c tokens s t) :
    s.FollowsSegment c t w ∧
      ∀ direction gate' s', PiecewiseToken { o with direction } gate' c tokens s' t →
        s'.shown? w t.property = s.shown? w t.property := by
  have follows := h.followsSegment knows
  refine ⟨follows, fun direction gate' s' h' => ?_⟩
  exact (h'.followsSegment knows).unique follows (Mode.widestFirst_strict h.distinct)

namespace ThreeModes

/-- A collection with three modes. -/
def collection : Collection where
  id := "c"
  name := "space"
  domain := "space"
  layerName := "default"
  layer := .aliases
  modes := [⟨"d", "Desktop", some 1680⟩, ⟨"t", "Tablet", some 768⟩, ⟨"m", "Mobile", some 480⟩]
  kind := .breakpoint
  tokenIds := ["v"]

/-- A number that grows faster up to the tablet than above it. -/
def gap : Token where
  id := "v"
  name := "gap"
  description := ""
  collectionId := collection.id
  collectionName := collection.name
  domain := collection.domain
  layer := collection.layer
  kind := .float
  values := [("d", .literal (.number 32)), ("t", .literal (.number 24)),
    ("m", .literal (.number 16))]
  property := "--gap"

/-- Options under which the number is interpolated piece by piece. -/
def options : Options := { piecewise := ["--gap"] }

/-- The interpolation above the tablet. -/
def upper : Css.Value Float := .clamp 24 (.interceptFirst 17.26 0.8772) 32 "px"

/-- The interpolation below the tablet. -/
def lower : Css.Value Float := .clamp 16 (.interceptFirst 2.67 2.7778) 24 "px"

/-- A section of the number with its first piece and one block. -/
def pieceSection (first : Css.Value Float) (block : Block) : Section where
  title := "SPACE"
  entries := [⟨"v", "--gap", .piecewise 2 first⟩]
  blocks := [block]
  advice := ((gap.advice collection.modes).toOption).getD []

/-- The section that starts from the widest mode. -/
def downwards : Section :=
  pieceSection upper (.pieces "Tablet → Mobile" ⟨.maxWidth 767, [⟨"--gap", lower⟩]⟩)

/-- The section that starts from the narrowest mode. -/
def upwards : Section :=
  pieceSection lower (.pieces "Tablet → Desktop" ⟨.minWidth 768, [⟨"--gap", upper⟩]⟩)

/-- A window of some width. -/
def window (width : Int) : Css.Window := ⟨width, "light", none, true⟩

theorem widestFirst_modes : Mode.widestFirst collection.modes = collection.modes :=
  Mode.widestFirst_of_descending (by simp [Mode.Descending, collection, Mode.px])

theorem gap_inPieces {o : Options} {first : Css.Value Float} {block : Block}
    (run : sectionOf o {} collection [gap] = .ok (pieceSection first block))
    (fluid : collection.IsFluid o) :
    PiecewiseToken o {} collection [gap] (pieceSection first block) gap where
  run := run
  fluid := fluid
  distinct := by decide
  numbers := List.forall_mem_singleton.2 fun _ => by decide
  own := .of_only rfl
  apart := List.forall_mem_singleton.2 fun _ form => by cases form
  inPieces := ⟨_, List.mem_singleton_self _, rfl, 2, first, rfl⟩

set_option maxRecDepth 2000 in
theorem downwards_run : sectionOf options {} collection [gap] = .ok downwards := by
  rw [sectionOf, draftOf_of_isFluid (by decide), widestFirst_modes]
  rfl

set_option maxRecDepth 2000 in
theorem upwards_run :
    sectionOf { options with direction := .mobileFirst } {} collection [gap] = .ok upwards := by
  rw [sectionOf, draftOf_of_isFluid (by decide), widestFirst_modes]
  rfl

/-- One pixel below the tablet both directions show the interpolation below it. -/
theorem gap_follows_segment :
    PiecewiseToken options {} collection [gap] downwards gap ∧
      PiecewiseToken { options with direction := .mobileFirst } {} collection [gap] upwards gap ∧
      downwards.FollowsSegment collection gap (window 767) ∧
      upwards.shown? (window 767) "--gap" = downwards.shown? (window 767) "--gap" := by
  have down := gap_inPieces downwards_run (by decide)
  have up := gap_inPieces upwards_run (by decide)
  obtain ⟨follows, same⟩ := piecewise_token_follows_segment (window 767) rfl down
  exact ⟨down, up, follows, same .mobileFirst {} upwards up⟩

end ThreeModes

end TokenSheet
