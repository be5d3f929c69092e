import TokenSheet.Proofs.Section.Shown

/-!
Stepped output is one function of the width.

A token that is written in every mode of a breakpoint collection, and that has its property to
itself, shows the text of the mode that applies at the width of the window. Its default block and
its media blocks may start at either end of the range: the conditions differ, and what a window
shows does not. In a fluid section the same holds of every token that does not scale.
-/

namespace TokenSheet

open Css (Entry Block MediaBlock)

variable {o : Options} {gate : Gate} {tokens : List Token} {modes : List Mode} {t : Token}
  {w : Css.Window}

/-! ## Sections without interpolation -/

theorem steppedDraft_shown? {d : Draft} (run : steppedDraft o gate modes tokens = .ok d)
    (sorted : Mode.Descending modes) (written : t.WrittenIn o modes)
    (own : SoleOwner tokens d.entries t)
    (apart : NoCompanion d.entries t.property) :
    Css.shown? w t.property (d.entries.flatMap Entry.written ++ d.blocks.flatMap Block.written) =
      (Mode.atWidth? modes w.width).map (t.textIn o) := by
  rcases steppedDraft_eq_ok run with ⟨-, rfl⟩ |
    ⟨standard, entries, media, default, made, blocks, rfl⟩
  · obtain ⟨e, mem, -⟩ := own.declared
    cases mem
  · refine shown?_steps sorted default
      (shown?_plain_entries own.owner apart fun e mem same => ?_) ?_
    · obtain ⟨u, passed, step⟩ := (mem_filterMapM made).1 mem
      have entry := entryFor_of_steppedEntryIn step
      obtain rfl := own.owner.eq_of_entryFor (admitted_sublist.subset passed) mem entry same
      unfold steppedEntryIn at step
      split at step
      · rename_i n columns
        have proportion := Option.some.inj (Except.ok.inj step)
        exact absurd (proportion ▸ rfl) (own.noProportion e mem entry.id n)
      · obtain ⟨v, run, rfl⟩ := plainEntryIn_eq_ok.1 step
        exact ⟨v, rfl, Token.textIn_of_rendered run⟩
    · refine shown?_mediaBlocks blocks (fun p => Mode.mem_of_mem_transitions) written own.mem ?_ ?_
      · refine List.mem_filter.2 ⟨own.owner.id_mem, ?_⟩
        -- a proportion with the id of the token would have an entry of that form
        rw [Bool.not_eq_true', List.contains_eq_mem, decide_eq_false_iff_not]
        intro proportion
        obtain ⟨u, passed, same⟩ := List.mem_map.1 proportion
        obtain ⟨passed, columns⟩ := List.mem_filter.1 passed
        obtain ⟨n, columns⟩ := Option.isSome_iff_exists.1 columns
        have step : steppedEntryIn o standard.id u = .ok (some (proportionEntry u n)) := by
          rw [steppedEntryIn, columns]
        exact own.noProportion _ ((mem_filterMapM made).2 ⟨u, passed, step⟩) same n rfl
      · intro u mem id
        exact own.alone u mem (List.mem_of_mem_filter id)

/-! ## Sections with interpolation -/

namespace FluidSteps

variable {widest standard : Mode} {entrants : List Entrant} {growing : List FluidEntry}
  {fixed : List Entry} {media : List MediaBlock} {fallback : List Block}
  (h : FluidSteps o gate modes tokens widest standard entrants growing fixed media fallback)

include h

/-- The entries of a token that does not scale hold its value in the default mode. -/
theorem plain_of_not_scaling
    (own : SoleOwner tokens (growing.map (·.entry) ++ fixed) t)
    (scaling : t.isScaling o modes = .ok false) {e : Entry}
    (mem : e ∈ growing.map (·.entry) ++ fixed) (same : e.property = t.property) :
    ∃ v, e.form = .plain v ∧ v.text = t.textIn o standard := by
  rcases List.mem_append.1 mem with grew | stayed
  · obtain ⟨fe, grown, rfl⟩ := List.mem_map.1 grew
    obtain ⟨en, known, clampable, made⟩ := h.entrant_of_grown own.owner grown same
    obtain ⟨v, run, ⟨-, rfl⟩ | ⟨grows, -⟩⟩ := clampableEntryIn_eq_ok made
    · rw [known.token] at run
      exact ⟨v, rfl, Token.textIn_of_rendered run⟩
    · have scales := known.scaling clampable
      rw [scaling, grows] at scales
      cases scales
  · obtain ⟨-, -, -, made⟩ := h.entrant_of_stayed own.owner stayed same
    obtain ⟨v, run, rfl⟩ := plainEntryIn_eq_ok.1 made
    exact ⟨v, rfl, Token.textIn_of_rendered run⟩

/-- Clampable entrants that scale have other properties. -/
theorem property_ne_of_scaling
    (own : SoleOwner tokens (growing.map (·.entry) ++ fixed) t)
    (scaling : t.isScaling o modes = .ok false) {en : Entrant} (mem : en ∈ clampable entrants)
    (grows : en.scaling = true) (id : en.token.id ∈ declaredIds (growing.map (·.entry) ++ fixed)) :
    en.token.property ≠ t.property := by
  intro same
  obtain ⟨entrant, clampable⟩ := mem_clampable.1 mem
  obtain ⟨passed, known⟩ := h.entrantOf_of_mem entrant
  have here := own.alone en.token (admitted_sublist.subset passed) id same
  have scales := known.scaling clampable
  rw [here, scaling, grows] at scales
  cases scales

/-- Pieces of interpolations are written for tokens that scale. -/
theorem shown?_pieces
    (own : SoleOwner tokens (growing.map (·.entry) ++ fixed) t)
    (scaling : t.isScaling o modes = .ok false) :
    Css.shown? w t.property (((pieceBlocks (laterPieces growing)).map fun p =>
      Block.pieces p.1 p.2).flatMap Block.written) = none := by
  refine shown?_blocks_eq_none (List.forall_mem_map.2 fun b block x inside => ?_)
  obtain ⟨p, later, rfl⟩ := mem_pieceBlocks.1 ⟨b, block, inside⟩
  obtain ⟨fe, grown, q, piece, -, made⟩ := mem_laterPieces later
  rw [made]
  obtain ⟨en, entrant, step⟩ := (mem_filterMapM h.grow).1 grown
  have entry := (fluidEntryFor_of_clampableEntryIn
    (h.entrantOf_of_mem (mem_clampable.1 entrant).1).2 step).entry
  obtain ⟨v, -, ⟨-, rfl⟩ | ⟨grows, -⟩⟩ := clampableEntryIn_eq_ok step
  · cases piece
  · refine entry.property ▸ h.property_ne_of_scaling own scaling entrant grows ?_
    rw [← entry.id]
    exact List.mem_map_of_mem (List.mem_append_left _ (List.mem_map_of_mem grown))

/-- The fallback is written for tokens that scale. -/
theorem shown?_fallback
    (own : SoleOwner tokens (growing.map (·.entry) ++ fixed) t)
    (scaling : t.isScaling o modes = .ok false) :
    Css.shown? w t.property (fallback.flatMap Block.written) = none := by
  refine shown?_blocks_eq_none fun b listed x inside => ?_
  obtain ⟨guarded, run, rfl⟩ := fallbackBlocks_eq_ok h.guard listed
  obtain ⟨b, listed, inside⟩ := List.mem_flatMap.1 inside
  obtain ⟨u, mem, id, same⟩ := exists_of_mem_mediaBlocks run listed inside
  obtain ⟨en, needs, rfl⟩ := List.mem_map.1 mem
  obtain ⟨entrant, needs⟩ := List.mem_filter.1 needs
  simp only [needsFallback, Bool.and_eq_true] at needs
  rw [same]
  exact h.property_ne_of_scaling own scaling entrant needs.1.1.2 id

/-- Media blocks of a fluid section show a stepped token in the mode that takes over; with the
default block a token that does not vary shows its only text. -/
theorem shown?_default_and_media
    (sorted : Mode.Descending modes) (default : Mode.default? o.desktopFirst modes = some standard)
    (written : t.WrittenIn o modes) (own : SoleOwner tokens (growing.map (·.entry) ++ fixed) t)
    (apart : NoCompanion (growing.map (·.entry) ++ fixed) t.property)
    (scaling : t.isScaling o modes = .ok false)
    (inside : t.kind = .float → t.hasReference = true → t.refersIn modes = true) :
    Css.shown? w t.property ((growing.map (·.entry) ++ fixed).flatMap Entry.written ++
        (media.map Block.media).flatMap Block.written) =
      (Mode.atWidth? modes w.width).map (t.textIn o) := by
  have first : Css.shown? w t.property ((growing.map (·.entry) ++ fixed).flatMap Entry.written) =
      some (t.textIn o standard) :=
    shown?_plain_entries own.owner apart fun e mem same =>
      h.plain_of_not_scaling own scaling mem same
  have driven {u : Token} (mem : u ∈ mediaDriven entrants) : u ∈ tokens :=
    h.tokens_subset (List.filter_subset_self _) mem
  obtain ⟨en, entrant, known⟩ := h.exists_entrant_of_owner own.owner
  cases stepped : en.stepped with
  | true =>
      refine shown?_steps sorted default first ?_
      exact shown?_mediaBlocks h.step (fun p => Mode.mem_of_mem_transitions) written
        (mem_mediaDriven.2 ⟨en, entrant, stepped, known.token⟩) own.owner.id_mem
        fun u mem => own.alone u (driven mem)
  | false =>
      have varies := Token.varies_eq_false (stepped ▸ known.stepped) scaling inside
      have standard_mem := Mode.mem_of_default? default
      obtain ⟨m, mem, here⟩ := Mode.atWidth?_isSome (List.ne_nil_of_mem standard_mem) w.width
      rw [Css.shown?_append, h.shown?_media_eq_none own.owner known stepped, first, here,
        Option.map_some,
        written.textIn_eq varies standard_mem mem]
      rfl

end FluidSteps

theorem fluidDraft_shown? {d : Draft} (run : fluidDraft o gate modes tokens = .ok d)
    (sorted : Mode.Descending modes) (written : t.WrittenIn o modes)
    (own : SoleOwner tokens d.entries t)
    (apart : NoCompanion d.entries t.property) (scaling : t.isScaling o modes = .ok false)
    (inside : t.kind = .float → t.hasReference = true → t.refersIn modes = true) :
    Css.shown? w t.property (d.entries.flatMap Entry.written ++ d.blocks.flatMap Block.written) =
      (Mode.atWidth? modes w.width).map (t.textIn o) := by
  rcases fluidDraft_eq_ok run with ⟨-, rfl⟩ |
    ⟨widest, standard, entrants, growing, fixed, media, fallback, -, default, steps,
      entries, blocks⟩
  · obtain ⟨e, mem, -⟩ := own.declared
    cases mem
  · rw [entries] at own apart ⊢
    have front :=
      steps.shown?_default_and_media (w := w) sorted default written own apart scaling inside
    rw [Css.shown?_append] at front
    rw [blocks, Css.shown?_append, List.flatMap_append, Css.shown?_append,
      steps.shown?_fallback own scaling, Option.none_or, List.flatMap_append, Css.shown?_append,
      steps.shown?_pieces own scaling, Option.none_or, front]

/-! ## Breakpoint collections -/

/-- A token of the section of a breakpoint collection that is written in every mode, that has its
property to itself, and that does not scale if the output is fluid. -/
structure SteppedToken (o : Options) (gate : Gate) (c : Collection) (tokens : List Token)
    (s : Section) (t : Token) : Prop where
  run : sectionOf o gate c tokens = .ok s
  kind : c.kind = .breakpoint
  written : t.WrittenIn o c.modes
  own : SoleOwner tokens s.entries t
  still : o.outputMode = .fluid → t.isScaling o (Mode.widestFirst c.modes) = .ok false

/-- In a window the section shows a token as it is written in the mode of the width. -/
def Section.FollowsWidth (s : Section) (o : Options) (c : Collection) (t : Token) (w : Css.Window) :
    Prop :=
  ∃ m text, Mode.atWidth? (Mode.widestFirst c.modes) w.width = some m ∧
    t.renderedText o m.id = .ok (some text) ∧ s.shown? w t.property = some text

/-- A token that is written in every mode and has its property to itself follows the width, in both
directions and with and without interpolation. No companion of a proportion may have the property,
and a number with references must have one in a mode of the collection. -/
theorem stepped_token_follows_width {c : Collection} {s : Section} (w : Css.Window)
    (h : SteppedToken o gate c tokens s t) (apart : NoCompanion s.entries t.property)
    (inside : o.outputMode = .fluid → t.kind = .float → t.hasReference = true →
      t.refersIn c.modes = true) :
    s.FollowsWidth o c t w := by
  obtain ⟨run, kind, written, own, still⟩ := h
  obtain ⟨d, draft, done⟩ := bind_eq_ok.1 run
  obtain rfl := pure_eq_ok.1 done
  have sorted := Mode.widestFirst_descending c.modes
  have written' : t.WrittenIn o (Mode.widestFirst c.modes) :=
    fun m mem => written m (Mode.mem_widestFirst.1 mem)
  have shows : Css.shown? w t.property
        (d.entries.flatMap Entry.written ++ d.blocks.flatMap Block.written) =
      (Mode.atWidth? (Mode.widestFirst c.modes) w.width).map (t.textIn o) := by
    by_cases fluid : c.IsFluid o
    · rw [draftOf_of_isFluid fluid] at draft
      refine fluidDraft_shown? draft sorted written' own apart (still fluid.2.1) ?_
      intro float reference
      have refers := inside fluid.2.1 float reference
      rw [Token.refersIn, List.any_eq_true] at refers ⊢
      obtain ⟨m, mem, refers⟩ := refers
      exact ⟨m, Mode.mem_widestFirst.2 mem, refers⟩
    · rw [draftOf_of_stepped kind fluid] at draft
      exact steppedDraft_shown? draft sorted written' own apart
  have nonempty : Mode.widestFirst c.modes ≠ [] := by
    rcases draftOf_shape draft with rfl | ⟨-, standard, -, default, -⟩
    · obtain ⟨e, mem, -⟩ := own.declared
      cases mem
    · rw [Collection.standardMode?_of_breakpoint kind] at default
      exact List.ne_nil_of_mem (Mode.mem_of_default? default)
  obtain ⟨m, mem, here⟩ := Mode.atWidth?_isSome nonempty w.width
  refine ⟨m, t.textIn o m, here, written'.renderedText mem, ?_⟩
  rw [Section.shown?, Section.written, shows, here]
  rfl

namespace TwoModes

/-- A collection with a wide and a narrow mode. -/
def collection : Collection where
  id := "c"
  name := "proportion"
  domain := "proportion"
  layerName := "default"
  layer := .aliases
  modes := [⟨"d", "Desktop", some 1680⟩, ⟨"m", "Mobile", some 480⟩]
  kind := .breakpoint
  tokenIds := ["v", "u"]

/-- A token of the collection. -/
def token (id name : String) (kind : TokenKind) (property : String)
    (values : List (String × TokenValue)) : Token where
  id := id
  name := name
  description := ""
  collectionId := collection.id
  collectionName := collection.name
  domain := collection.domain
  layer := collection.layer
  kind := kind
  values := values
  property := property

/-- The only token of a section has its property to itself. -/
theorem soleOwner_of_only {e : Entry} (entry : e.key = t.key)
    (plain : ∀ n, e.form ≠ .proportion n) : SoleOwner [t] [e] t where
  mem := List.mem_singleton_self t
  declared := ⟨e, List.mem_singleton_self e, entry⟩
  alone _ mem _ _ := List.mem_singleton.1 mem
  noProportion := List.forall_mem_singleton.2 fun _ => plain

theorem widestFirst_modes : Mode.widestFirst collection.modes = collection.modes :=
  Mode.widestFirst_of_descending (by simp [Mode.Descending, collection, Mode.px])

/-- A window of some width. -/
def window (width : Int) : Css.Window := ⟨width, "light", none, true⟩

/-- A number that refers to another one in each mode. -/
def gap : Token :=
  token "v" "gap" .float "--gap"
    [("d", .reference "a" (some "--large")), ("m", .reference "b" (some "--small"))]

/-- The fluid section of that number. -/
def gapSection : Section where
  title := "PROPORTION"
  entries := [⟨"v", "--gap", .plain (.reference "--large")⟩]
  blocks := [.media ⟨.maxWidth 1679, [⟨"--gap", .reference "--small"⟩]⟩]
  advice := []

theorem gap_stepped : SteppedToken {} {} collection [gap] gapSection gap where
  run := by
    rw [sectionOf, draftOf_of_isFluid (by decide), widestFirst_modes]
    rfl
  kind := rfl
  written := List.forall_mem_cons.2 ⟨⟨rfl, _, rfl⟩, List.forall_mem_singleton.2 ⟨rfl, _, rfl⟩⟩
  own := soleOwner_of_only rfl fun _ form => by cases form
  still := fun _ => rfl

theorem gap_follows_width : SteppedToken {} {} collection [gap] gapSection gap ∧
    gapSection.FollowsWidth {} collection gap (window 1000) :=
  ⟨gap_stepped, stepped_token_follows_width (window 1000) gap_stepped
    (List.forall_mem_singleton.2 fun _ form => by cases form) fun _ _ _ => rfl⟩

/-! ### Where a token does not follow the width -/

theorem not_followsWidth {c : Collection} {s : Section} {m : Mode} {text text' : String}
    (here : Mode.atWidth? (Mode.widestFirst c.modes) w.width = some m)
    (written : t.renderedText o m.id = .ok (some text)) (shown : s.shown? w t.property = some text')
    (differ : text ≠ text') : ¬ s.FollowsWidth o c t w := by
  rintro ⟨m', text'', here', written', shown'⟩
  obtain rfl := Option.some.inj (here.symm.trans here')
  obtain rfl := Option.some.inj (Except.ok.inj (written.symm.trans written'))
  exact differ (Option.some.inj (shown'.symm.trans shown))

/-- A token with the property that a proportion has for its companion. -/
def fraction : Token :=
  token "v" "half--fr" .string "--proportion-half--fr"
    [("d", .literal (.text "wide")), ("m", .literal (.text "narrow"))]

/-- That proportion. -/
def half : Token :=
  token "u" "proportion-half" .string "--proportion-half"
    [("d", .literal (.text "a")), ("m", .literal (.text "b"))]

/-- The section of the two without interpolation. -/
def halfSection : Section where
  title := "PROPORTION"
  entries := [⟨"v", "--proportion-half--fr", .plain (.quoted "wide")⟩,
    ⟨"u", "--proportion-half", .proportion 6⟩]
  blocks := [.media ⟨.maxWidth 1679, [⟨"--proportion-half--fr", .quoted "narrow"⟩]⟩]
  advice := []

theorem fraction_stepped :
    SteppedToken { outputMode := .fixed } {} collection [fraction, half] halfSection fraction where
  run := by
    rw [sectionOf, draftOf_of_stepped rfl (by decide), widestFirst_modes]
    rfl
  kind := rfl
  written := List.forall_mem_cons.2 ⟨⟨rfl, _, rfl⟩, List.forall_mem_singleton.2 ⟨rfl, _, rfl⟩⟩
  own := {
    mem := List.mem_cons_self
    declared := ⟨_, List.mem_cons_self, rfl⟩
    alone := by
      intro u mem _ same
      rcases List.mem_cons.1 mem with rfl | mem
      · rfl
      · rw [List.mem_singleton.1 mem] at same
        exact absurd same (by decide)
    noProportion := by
      refine List.forall_mem_cons.2 ⟨fun _ n form => ?_, List.forall_mem_singleton.2 fun same => ?_⟩
      · cases form
      · exact absurd same (by decide) }
  still := fun fluid => by cases fluid

/-- A number with a reference in a mode that the collection does not have. -/
def inset : Token :=
  token "v" "inset" .float "--inset"
    [("d", .literal (.text "32px")), ("m", .literal (.text "24px")),
      ("x", .reference "a" (some "--gap"))]

/-- The fluid section of that number. -/
def insetSection : Section where
  title := "PROPORTION"
  entries := [⟨"v", "--inset", .plain (.verbatim "32px")⟩]
  blocks := []
  advice := []

theorem inset_stepped : SteppedToken {} {} collection [inset] insetSection inset where
  run := by
    rw [sectionOf, draftOf_of_isFluid (by decide), widestFirst_modes]
    rfl
  kind := rfl
  written := List.forall_mem_cons.2 ⟨⟨rfl, _, rfl⟩, List.forall_mem_singleton.2 ⟨rfl, _, rfl⟩⟩
  own := soleOwner_of_only rfl fun _ form => by cases form
  still := fun _ => rfl

/-- Both conditions are needed: the companion of a proportion that is written later hides a token,
and a number that refers to something only outside the modes of the collection is neither
interpolated nor stepped. -/
theorem stepped_token_may_not_follow_width :
    (SteppedToken { outputMode := .fixed } {} collection [fraction, half] halfSection fraction ∧
      ¬ halfSection.FollowsWidth { outputMode := .fixed } collection fraction (window 1680)) ∧
    (SteppedToken {} {} collection [inset] insetSection inset ∧
      ¬ insetSection.FollowsWidth {} collection inset (window 480)) := by
  refine ⟨⟨fraction_stepped, ?_⟩, inset_stepped, ?_⟩
  · have here : Mode.atWidth? (Mode.widestFirst collection.modes) (window 1680).width =
        some ⟨"d", "Desktop", some 1680⟩ := by
      rw [widestFirst_modes]
      rfl
    have written : fraction.renderedText { outputMode := .fixed } "d" = .ok (some "\x22wide\x22") :=
      rfl
    have shown : halfSection.shown? (window 1680) "--proportion-half--fr" = some "6fr" := rfl
    exact not_followsWidth here written shown (by decide)
  · have here : Mode.atWidth? (Mode.widestFirst collection.modes) (window 480).width =
        some ⟨"m", "Mobile", some 480⟩ := by
      rw [widestFirst_modes]
      rfl
    have written : inset.renderedText {} "m" = .ok (some "24px") := rfl
    have shown : insetSection.shown? (window 480) "--inset" = some "32px" := rfl
    exact not_followsWidth here written shown (by decide)

end TwoModes

end TokenSheet
