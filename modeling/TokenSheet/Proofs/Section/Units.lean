import TokenSheet.Proofs.Section.Origins

/-!
The units of what a section writes.

Each value of a section of widths belongs to a token, which has it in one of the modes or which is
interpolated (`Token.Gives`). A number keeps the unit of its token in both cases (`Token.InUnit`): the
numbers of a token without a unit stand bare even inside an interpolation, where only the part that
grows with the viewport has a unit (`values_keep_units`). As long as it is not interpolated such a
number is written alone. It does not stay alone if it is (`HalfOpacity.bare_number_may_grow`).
-/

namespace TokenSheet

open Css (Entry Block Declaration MediaBlock Value)
open Text (Over)

variable {o : Options} {gate : Gate} {tokens : List Token} {modes : List Mode} {t : Token}
  {c : Collection} {s : Section} {v : Value Float} {grown grown' : Prop}

/-! ## What a token gives -/

/-- A token whose values are interpolated over the widths of a collection. -/
structure Token.Grows (o : Options) (c : Collection) (t : Token) : Prop where
  fluid : c.IsFluid o
  scales : t.isScaling o (Mode.widestFirst c.modes) = .ok true
  noProportion : t.columns? = none

/-- A value that a token has in one of the modes or, where it may grow, as an interpolation: a line
between two of the modes or, if that is asked for, as much of the viewport as one of the modes allows. -/
inductive Token.Gives (o : Options) (modes : List Mode) (t : Token) (grown : Prop) (v : Value Float) :
    Prop
  | rendered {m : Mode} (mem : m ∈ modes) (run : t.rendered o m.id = .ok (some v))
  | line {a b : Mode} (grows : grown) (first : a ∈ modes) (last : b ∈ modes)
      (joins : Fluid.Joins t a b v)
  | capped {m : Mode} {p : Fluid.Sample Float} (grows : grown)
      (wanted : o.wantsViewport t.property = true) (mem : m ∈ modes)
      (sample : Fluid.sampleIn t m = some p) (run : Fluid.viewportCapped p.value t.unit = .ok v)

theorem Token.Gives.mono (h : t.Gives o modes grown v) {modes' : List Mode} (sub : modes ⊆ modes')
    (weaker : grown → grown') : t.Gives o modes' grown' v := by
  cases h with
  | rendered mem run => exact .rendered (sub mem) run
  | line grows first last joins => exact .line (weaker grows) (sub first) (sub last) joins
  | capped grows wanted mem sample run => exact .capped (weaker grows) wanted (sub mem) sample run

/-- A number of a token is its value in the mode. -/
theorem Token.rendered_of_sampleIn {m : Mode} {p : Fluid.Sample Float} {n : Float}
    (float : t.kind = .float) (sample : Fluid.sampleIn t m = some p)
    (rounded : Scalar.roundTo p.value 2 = .ok n) :
    t.rendered o m.id = .ok (some (.quantity n t.unit)) := by
  obtain ⟨x, number, rfl⟩ := Option.map_eq_some_iff.1 sample
  unfold numberIn at number
  split at number
  · rename_i l value
    rw [rendered, value]
    cases l with
    | number y =>
        obtain rfl := Option.some.inj number
        simp only [render, renderLiteral, float]
        rw [rounded]
        rfl
    | flag b =>
        obtain rfl := Option.some.inj number
        simp only [render, renderLiteral, float]
        rw [rounded]
        rfl
    | text _ => cases number
  · cases number

/-- An interpolation over a range of modes is a value that the token gives. -/
theorem gives_of_fluidValue? {r : Fluid.Form × Value Float} (float : t.kind = .float)
    (run : Fluid.fluidValue? o t modes = .ok (some r)) : t.Gives o modes True r.2 := by
  unfold Fluid.fluidValue? at run
  split at run
  · rename_i wide narrow widest narrowest
    obtain ⟨a, head, first⟩ := Option.bind_eq_some_iff.1 widest
    obtain ⟨b, last, second⟩ := Option.bind_eq_some_iff.1 narrowest
    have inside := List.mem_of_head? head
    obtain ⟨r', ends, done⟩ := bind_eq_ok.1 run
    cases pure_eq_ok.1 done
    unfold Fluid.endToEnd at ends
    split at ends
    · rename_i wanted
      obtain ⟨v, capped, done⟩ := bind_eq_ok.1 ends
      rw [← pure_eq_ok.1 done]
      exact .capped trivial wanted inside first capped
    · split at ends
      · rename_i still
        obtain ⟨n, rounded, done⟩ := bind_eq_ok.1 ends
        have bare : t.unit = "" := String.isEmpty_iff.1 (Bool.and_eq_true_iff.1 still).1
        rw [← pure_eq_ok.1 done]
        exact .rendered inside (bare ▸ Token.rendered_of_sampleIn float first rounded)
      · obtain ⟨v, joined, done⟩ := bind_eq_ok.1 ends
        rw [← pure_eq_ok.1 done]
        exact .line trivial inside (List.mem_of_getLast? last) ⟨wide, narrow, first, second, joined⟩
  · cases run

/-! ## Entries -/

/-- An entry with a value that its token gives. -/
def Token.GivesEntry (o : Options) (modes : List Mode) (t : Token) (grown : Prop) (e : Entry) : Prop :=
  t.key = e.key ∧ ∀ v, e.value? = some v → t.Gives o modes grown v

theorem givesEntry_of_plainEntryIn {m : Mode} {e : Entry} (mem : m ∈ modes)
    (run : plainEntryIn o m.id t = .ok (some e)) : t.GivesEntry o modes grown e := by
  obtain ⟨v, rendered, rfl⟩ := plainEntryIn_eq_ok.1 run
  refine ⟨rfl, fun _ value => ?_⟩
  cases value
  exact .rendered mem rendered

theorem givesEntry_of_steppedEntryIn {m : Mode} {e : Entry} (mem : m ∈ modes)
    (run : steppedEntryIn o m.id t = .ok (some e)) : t.GivesEntry o modes grown e := by
  unfold steppedEntryIn at run
  split at run
  · rw [← Option.some.inj (Except.ok.inj run)]
    exact ⟨rfl, nofun⟩
  · exact givesEntry_of_plainEntryIn mem run

/-- An entry whose pieces for other blocks are given by its token, too. -/
structure Token.GivesFluid (o : Options) (modes : List Mode) (t : Token) (grown : Prop)
    (e : FluidEntry) : Prop where
  entry : t.GivesEntry o modes grown e.entry
  later : ∀ p ∈ e.later, t.Gives o modes grown p.value

theorem Token.GivesFluid.mono {e : FluidEntry} (h : t.GivesFluid o modes grown e) {modes' : List Mode}
    (sub : modes ⊆ modes') (weaker : grown → grown') : t.GivesFluid o modes' grown' e where
  entry := ⟨h.entry.1, fun v value => (h.entry.2 v value).mono sub weaker⟩
  later p mem := (h.later p mem).mono sub weaker

theorem givesFluid_of_scalingEntry {m : Mode} {standard : Value Float} {e : FluidEntry}
    (mem : m ∈ modes) (float : t.kind = .float) (plain : t.rendered o m.id = .ok (some standard))
    (run : scalingEntry o modes t standard = .ok e) :
    t.GivesFluid o modes (t.columns? = none) e := by
  unfold scalingEntry at run
  split at run
  · rw [← Except.ok.inj run]
    exact ⟨⟨rfl, nofun⟩, List.forall_mem_nil _⟩
  · rename_i noProportion
    obtain ⟨piecewise, pieces, run⟩ := bind_eq_ok.1 run
    split at run
    · rw [← pure_eq_ok.1 run]
      obtain ⟨first, pieces, -, entry⟩ := piecewiseEntryOf_eq_ok pieces
      have lines : ∀ p ∈ first :: _, t.Gives o modes (t.columns? = none) p.value := fun p mem => by
        obtain ⟨a, a_mem, b, b_mem, joins, -⟩ := Fluid.joins_of_mem_pieces pieces mem
        exact .line noProportion a_mem b_mem joins
      obtain ⟨here, later⟩ := List.forall_mem_cons.1 lines
      refine ⟨?_, later⟩
      rw [entry]
      refine ⟨rfl, fun _ value => ?_⟩
      cases value
      exact here
    · obtain ⟨entry, whole, done⟩ := bind_eq_ok.1 run
      rw [← pure_eq_ok.1 done]
      refine ⟨?_, List.forall_mem_nil _⟩
      unfold interpolatedEntry at whole
      obtain ⟨r, interpolated, whole⟩ := bind_eq_ok.1 whole
      have gives {r : Fluid.Form × Value Float}
          (run : Fluid.fluidValue? o t modes = .ok (some r)) :
          t.Gives o modes (t.columns? = none) r.2 :=
        (gives_of_fluidValue? float run).mono (fun _ => id) fun _ => noProportion
      split at whole <;> rw [← pure_eq_ok.1 whole] <;> refine ⟨rfl, fun _ value => ?_⟩ <;> cases value
      · exact .rendered mem plain
      · exact gives interpolated
      · exact gives interpolated

/-! ## Sections -/

/-- Whether a block holds the pieces of interpolations. -/
def Css.Block.IsPieces (b : Block) : Prop :=
  ∃ label block, b = .pieces label block

/-- A draft whose values are given by some tokens. -/
structure Draft.Gives (o : Options) (c : Collection) (tokens : List Token) (d : Draft) : Prop where
  entries : ∀ e ∈ d.entries, ∃ t ∈ tokens, t.GivesEntry o c.modes (t.Grows o c) e
  blocks : ∀ b ∈ d.blocks, ∀ x ∈ b.declarations, ∃ t ∈ tokens, t.property = x.property ∧
    t.Gives o c.modes (t.Grows o c ∧ b.IsPieces) x.value

theorem Draft.gives_empty : ({} : Draft).Gives o c tokens :=
  ⟨List.forall_mem_nil _, List.forall_mem_nil _⟩

/-- The declarations of a mode are values of their tokens there. -/
theorem gives_of_mediaBlocks {grown : Token → Prop} {declared : List String}
    {transitions : List (Css.Condition × Mode)} {bs : List MediaBlock} (sub : ∀ p ∈ transitions, p.2 ∈ modes)
    (run : mediaBlocks o declared tokens transitions = .ok bs) :
    ∀ b ∈ bs, ∀ d ∈ b.declarations, ∃ t ∈ tokens, t.property = d.property ∧
      t.Gives o modes (grown t) d.value := by
  intro b mem d inside
  obtain ⟨p, step, -, run, -⟩ := mem_mediaBlocks run mem
  obtain ⟨t, mem, -, writes⟩ := (mem_modeDeclarations run).1 inside
  obtain ⟨-, v, rendered, rfl⟩ := declaration?_eq_ok.1 writes
  exact ⟨t, mem, rfl, .rendered (sub p step) rendered⟩

theorem mem_modes_of_transitions {desktopFirst : Bool} :
    ∀ p ∈ Mode.transitions desktopFirst (Mode.widestFirst c.modes), p.2 ∈ c.modes :=
  fun _ step => Mode.mem_widestFirst.1 (Mode.mem_of_mem_transitions step)

theorem steppedDraft_gives {d : Draft}
    (run : steppedDraft o gate (Mode.widestFirst c.modes) tokens = .ok d) : d.Gives o c tokens := by
  rcases steppedDraft_eq_ok run with ⟨-, rfl⟩ | ⟨m, entries, media, default, made, blocks, rfl⟩
  · exact Draft.gives_empty
  · have standard := Mode.mem_widestFirst.1 (Mode.mem_of_default? default)
    refine ⟨fun e mem => ?_, List.forall_mem_map.2 fun b mem => ?_⟩
    · obtain ⟨t, passed, made⟩ := (mem_filterMapM made).1 mem
      exact ⟨t, admitted_sublist.subset passed, givesEntry_of_steppedEntryIn standard made⟩
    · exact gives_of_mediaBlocks mem_modes_of_transitions blocks b mem

namespace FluidSteps

variable {widest standard : Mode} {entrants : List Entrant} {growing : List FluidEntry}
  {fixed : List Entry} {media : List MediaBlock} {fallback : List Block}
  (h : FluidSteps o gate (Mode.widestFirst c.modes) tokens widest standard entrants growing fixed
    media fallback)

include h

/-- Entries of a fluid section that may be interpolated, with the pieces for other blocks. -/
theorem givesFluid_of_mem_growing (fluid : c.IsFluid o) (default : standard ∈ c.modes)
    {e : FluidEntry} (grown : e ∈ growing) :
    ∃ t ∈ tokens, t.GivesFluid o c.modes (t.Grows o c) e := by
  obtain ⟨en, entrant, made⟩ := (mem_filterMapM h.grow).1 grown
  obtain ⟨mem, still⟩ := mem_clampable.1 entrant
  obtain ⟨passed, known⟩ := h.entrantOf_of_mem mem
  refine ⟨en.token, admitted_sublist.subset passed, ?_⟩
  obtain ⟨v, rendered, ⟨-, rfl⟩ | ⟨scaling, made⟩⟩ := clampableEntryIn_eq_ok made
  · refine ⟨⟨rfl, fun _ value => ?_⟩, List.forall_mem_nil _⟩
    cases value
    exact .rendered default rendered
  · have scales := known.scaling still
    rw [scaling] at scales
    have gives := givesFluid_of_scalingEntry (Mode.mem_widestFirst.2 default)
      (Token.number_of_isScaling scales).1 rendered made
    exact gives.mono (fun _ => Mode.mem_widestFirst.1) fun none => ⟨fluid, scales, none⟩

theorem gives_of_mem_pieceBlocks (fluid : c.IsFluid o) (default : standard ∈ c.modes)
    {b : String × MediaBlock} (mem : b ∈ pieceBlocks (laterPieces growing)) :
    ∀ d ∈ b.2.declarations, ∃ t ∈ tokens, t.property = d.property ∧
      t.Gives o c.modes (t.Grows o c ∧ (Block.pieces b.1 b.2).IsPieces) d.value := by
  intro d inside
  obtain ⟨p, piece, rfl⟩ := mem_pieceBlocks.1 ⟨b, mem, inside⟩
  obtain ⟨e, grown, q, later, -, same⟩ := mem_laterPieces piece
  obtain ⟨t, mem, gives⟩ := h.givesFluid_of_mem_growing fluid default grown
  rw [same]
  exact ⟨t, mem, congrArg Prod.snd gives.entry.1,
    (gives.later q later).mono (fun _ => id) fun grows => ⟨grows, b.1, b.2, rfl⟩⟩

end FluidSteps

theorem fluidDraft_gives {d : Draft} (fluid : c.IsFluid o)
    (run : fluidDraft o gate (Mode.widestFirst c.modes) tokens = .ok d) : d.Gives o c tokens := by
  rcases fluidDraft_eq_ok run with ⟨-, rfl⟩ |
    ⟨widest, standard, entrants, growing, fixed, media, fallback, -, default, steps, entries, blocks⟩
  · exact Draft.gives_empty
  · have default := Mode.mem_widestFirst.1 (Mode.mem_of_default? default)
    constructor
    · rw [entries]
      refine List.forall_mem_append.2 ⟨List.forall_mem_map.2 fun e grown => ?_, fun e stayed => ?_⟩
      · obtain ⟨t, mem, gives⟩ := steps.givesFluid_of_mem_growing fluid default grown
        exact ⟨t, mem, gives.entry⟩
      · obtain ⟨t, driven, made⟩ := (mem_filterMapM steps.stay).1 stayed
        obtain ⟨en, entrant, -, rfl⟩ := mem_mediaDriven.1 driven
        exact ⟨en.token, admitted_sublist.subset (steps.entrantOf_of_mem entrant).1,
          givesEntry_of_plainEntryIn default made⟩
    · rw [blocks]
      refine List.forall_mem_append.2 ⟨List.forall_mem_append.2
        ⟨List.forall_mem_map.2 fun b mem => ?_, List.forall_mem_map.2 fun b mem => ?_⟩, ?_⟩
      · intro d inside
        obtain ⟨t, driven, gives⟩ :=
          gives_of_mediaBlocks mem_modes_of_transitions steps.step b mem d inside
        exact ⟨t, steps.tokens_subset (List.filter_subset_self _) driven, gives⟩
      · exact steps.gives_of_mem_pieceBlocks fluid default mem
      · intro b mem d inside
        obtain ⟨guarded, repeated, rfl⟩ := fallbackBlocks_eq_ok steps.guard mem
        obtain ⟨m, mem, inside⟩ := List.mem_flatMap.1 inside
        obtain ⟨t, driven, gives⟩ :=
          gives_of_mediaBlocks mem_modes_of_transitions repeated m mem d inside
        refine ⟨t, steps.tokens_subset ?_ driven, gives⟩
        exact List.Subset.trans (List.filter_subset_self _) (List.filter_subset_self _)

/-- Every value of a section of widths is given by one of its tokens. -/
theorem draftOf_gives {d : Draft} (kind : c.kind = .breakpoint)
    (run : draftOf o gate c tokens = .ok d) : d.Gives o c tokens := by
  by_cases fluid : c.IsFluid o
  · rw [draftOf_of_isFluid fluid] at run
    exact fluidDraft_gives fluid run
  · rw [draftOf_of_stepped kind fluid] at run
    exact steppedDraft_gives run

/-! ## Units -/

namespace Token

/-- A number token whose values are all given as numbers. -/
structure IsNumeric (t : Token) : Prop where
  float : t.kind = .float
  numbers : ∀ p ∈ t.values, ∃ x, p.2 = .literal (.number x)

/-- A value with the unit of a number token in all its terms. Where it has grown, terms may have a
part of the viewport as their unit; otherwise it is a number alone. -/
structure InUnit (t : Token) (grown : Prop) (v : Value Float) : Prop where
  measured : v.MeasuredIn t.unit
  bare : Css.isUnitless t.name t.property = true →
    (∀ x ∈ v.terms, x.unit = "" ∨ grown ∧ x.unit = "vw") ∧ Over (· != 'x') v.text
  length : Css.isUnitless t.name t.property = false →
    ∀ x ∈ v.terms, x.unit = "px" ∨ grown ∧ x.unit = "vw"
  alone : ¬ grown → (∃ n, v = .quantity n t.unit) ∧ Over (· != 'v') v.text

theorem unit_of_isUnitless (bare : Css.isUnitless t.name t.property = true) : t.unit = "" :=
  if_pos bare

theorem unit_of_not_isUnitless (length : Css.isUnitless t.name t.property = false) : t.unit = "px" :=
  if_neg (by rw [length]; exact Bool.false_ne_true)

theorem over_unit_ne (t : Token) : Over (· != 'v') t.unit := by
  unfold unit Css.unitOf
  split <;> decide

theorem inUnit_of_measuredIn (measured : v.MeasuredIn t.unit)
    (alone : ¬ grown → ∃ n, v = .quantity n t.unit) : t.InUnit grown v := by
  have terms : ∀ x ∈ v.terms, x.unit = t.unit ∨ grown ∧ x.unit = "vw" := by
    intro x mem
    by_cases grows : grown
    · exact (measured.unit_of_mem_terms mem).imp_right fun viewport => ⟨grows, viewport⟩
    · obtain ⟨n, rfl⟩ := alone grows
      obtain rfl := List.mem_singleton.1 mem
      exact .inl rfl
  refine ⟨measured, fun bare => ?_, fun length => ?_, fun stays => ?_⟩
  · have none := unit_of_isUnitless bare
    exact ⟨none ▸ terms, measured.no_pixels none⟩
  · exact unit_of_not_isUnitless length ▸ terms
  · obtain ⟨n, rfl⟩ := alone stays
    exact ⟨⟨n, rfl⟩, Css.Value.no_viewport_of_quantity t.over_unit_ne⟩

/-- A number is written as a number with the unit of its token. -/
theorem IsNumeric.quantity_of_rendered {modeId : String} (numeric : t.IsNumeric)
    (run : t.rendered o modeId = .ok (some v)) : ∃ n, v = .quantity n t.unit := by
  cases value : t.valueIn modeId with
  | none =>
      rw [rendered, value] at run
      cases run
  | some w =>
      obtain ⟨front, back, split, -⟩ := List.lookup_eq_some_iff.1 value
      have listed : (modeId, w) ∈ t.values := split ▸ List.mem_append_right _ List.mem_cons_self
      obtain ⟨x, rfl⟩ := numeric.numbers _ listed
      obtain ⟨u, made, same⟩ := rendered_of_literal value run
      obtain rfl := Option.some.inj same
      simp only [renderLiteral, numeric.float] at made
      obtain ⟨n, -, done⟩ := bind_eq_ok.1 made
      exact ⟨n, (pure_eq_ok.1 done).symm⟩

/-- All values that a number token gives have its unit. -/
theorem Gives.inUnit (h : t.Gives o modes grown v) (numeric : t.IsNumeric) : t.InUnit grown v := by
  cases h with
  | rendered mem run =>
      obtain ⟨n, rfl⟩ := numeric.quantity_of_rendered run
      exact inUnit_of_measuredIn (.quantity n) fun _ => ⟨n, rfl⟩
  | line grows first last joins =>
      obtain ⟨p, q, -, -, made⟩ := joins
      exact inUnit_of_measuredIn (Fluid.linearClamp_measuredIn made) fun still => absurd grows still
  | capped grows wanted mem sample run =>
      exact inUnit_of_measuredIn (Fluid.viewportCapped_measuredIn run) fun still => absurd grows still

end Token

/-- Numbers keep their units. Every value of a section of widths is given by a token with its property.
Unless the token grows, a number token gives numbers with the unit that its name asks for and nothing
else, and so it does in all further blocks but those of pieces. Where it grows, the numbers keep this
unit in every argument and every fixed part, none for a name without units; only the part that grows
with the viewport is measured by it. -/
theorem values_keep_units (kind : c.kind = .breakpoint) (run : sectionOf o gate c tokens = .ok s) :
    (∀ e ∈ s.entries, ∀ v, e.value? = some v → ∃ t ∈ tokens, t.key = e.key ∧
      t.Gives o c.modes (t.Grows o c) v ∧ (t.IsNumeric → t.InUnit (t.Grows o c) v)) ∧
      ∀ b ∈ s.blocks, ∀ d ∈ b.declarations, ∃ t ∈ tokens, t.property = d.property ∧
        t.Gives o c.modes (t.Grows o c ∧ b.IsPieces) d.value ∧
        (t.IsNumeric → t.InUnit (t.Grows o c ∧ b.IsPieces) d.value) := by
  obtain ⟨d, draft, rfl⟩ := exists_draft_of_sectionOf run
  have gives := draftOf_gives kind draft
  constructor
  · intro e mem v value
    obtain ⟨t, mem, key, gives⟩ := gives.entries e mem
    exact ⟨t, mem, key, gives v value, (gives v value).inUnit⟩
  · intro b mem x inside
    obtain ⟨t, mem, property, gives⟩ := gives.blocks b mem x inside
    exact ⟨t, mem, property, gives, gives.inUnit⟩

namespace HalfOpacity

/-- The only collection of a design with two widths. -/
def collection : Collection :=
  .spaces [⟨"d", "Desktop", some 1680⟩, ⟨"m", "Mobile", some 480⟩] ["v"]

/-- A number without a unit that varies over the widths. -/
def opacity : Token :=
  collection.number "v" "opacity" "--space-opacity" [("d", 1), ("m", 0.5)]

/-- Its value between the widths. -/
def between : Value Float :=
  .clamp 0.5 (.interceptFirst 0.3 0.0417) 1 ""

/-- The section of the number. -/
def interpolated : Section where
  title := "SPACE - 2. ALIASES"
  entries := [⟨"v", "--space-opacity", .plain between⟩]
  blocks := []
  advice := ((opacity.advice collection.modes).toOption).getD []

theorem opacity_isNumeric : opacity.IsNumeric where
  float := rfl
  numbers := List.forall_mem_map.2 fun v _ => ⟨v.2, rfl⟩

theorem opacity_isUnitless : Css.isUnitless opacity.name opacity.property = true := by
  decide +kernel

set_option maxRecDepth 4000 in
theorem run_interpolates : sectionOf {} {} collection [opacity] = .ok interpolated := by
  have sorted : Mode.widestFirst collection.modes = collection.modes :=
    Mode.widestFirst_of_descending (by simp [Mode.Descending, collection, Collection.spaces, Mode.px])
  rw [sectionOf, draftOf_of_isFluid (by decide), sorted]
  rfl

/-- A number without a unit does not stay a number alone: it is written with a part of the viewport. -/
theorem bare_number_may_grow :
    opacity.IsNumeric ∧ Css.isUnitless opacity.name opacity.property = true ∧
      collection.kind = .breakpoint ∧ sectionOf {} {} collection [opacity] = .ok interpolated ∧
      ∃ e ∈ interpolated.entries, e.property = opacity.property ∧ e.value? = some between ∧
        (¬ ∃ n, between = .quantity n "") ∧ (∃ x ∈ between.terms, x.unit = "vw") ∧
        between.text = "clamp(0.5, calc(0.3 + 0.0417vw), 1)" := by
  refine ⟨opacity_isNumeric, opacity_isUnitless, rfl, run_interpolates, _, List.mem_cons_self, rfl,
    rfl, nofun, ⟨⟨0.0417, "vw"⟩, ?_, rfl⟩, by decide +kernel⟩
  simp [between, Value.terms, Css.Preferred.terms]

/-- Its numbers have no unit of length, though. -/
theorem opacity_keeps_bare : Over (· != 'x') between.text := by
  obtain ⟨entries, -⟩ := values_keep_units rfl run_interpolates
  obtain ⟨t, only, -, -, keeps⟩ := entries _ List.mem_cons_self between rfl
  obtain rfl := List.mem_singleton.1 only
  exact ((keeps opacity_isNumeric).bare opacity_isUnitless).2

end HalfOpacity

end TokenSheet
