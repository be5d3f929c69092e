import TokenSheet.Proofs.Css.Marks
import TokenSheet.Proofs.Css.Terms
import TokenSheet.Proofs.Section.Piecewise

/-!
Where the values of a section come from.

Whatever the strategy, a section is made from its own tokens and modes: its properties and ids are
those of tokens, each of its values is a value of a token or made of numbers (`IsValueOf`), its pieces
are named after two modes, and its themes are words (`Draft.MadeFrom`).
-/

namespace TokenSheet

open Css (Entry Block Declaration MediaBlock ThemeBlock Value)
open Text (Over isWordChar)

variable {o : Options} {gate : Gate} {tokens : List Token} {modes : List Mode} {t : Token}
  {modeId : String} {declared : List String}

/-! ## Numbers -/

theorem Token.over_unit (t : Token) : Over isWordChar t.unit := by
  unfold unit Css.unitOf
  split <;> decide

theorem Css.Value.MeasuredIn.isNumeric {v : Value Float} {unit : String} (h : v.MeasuredIn unit)
    (word : Over isWordChar unit) : v.IsNumeric := by
  cases h <;> exact word

namespace Fluid

variable {p q : Sample Float} {unit : String} {v : Value Float}

theorem between_measuredIn (run : between p q unit = .ok v) : v.MeasuredIn unit := by
  unfold between at run
  split at run
  · obtain ⟨n, -, done⟩ := bind_eq_ok.1 run
    rw [← pure_eq_ok.1 done]
    exact .quantity n
  · simp only [bind_eq_ok] at run
    obtain ⟨_, -, _, -, _, -, _, -, lower, -, upper, -, done⟩ := run
    rw [← pure_eq_ok.1 done]
    exact .clamp lower _ upper

theorem linearClamp_measuredIn (run : linearClamp p q unit = .ok v) : v.MeasuredIn unit := by
  unfold linearClamp at run
  split at run
  · exact between_measuredIn run
  · exact between_measuredIn run

theorem viewportCapped_measuredIn {limit : Float} (run : viewportCapped limit unit = .ok v) :
    v.MeasuredIn unit := by
  obtain ⟨x, -, done⟩ := bind_eq_ok.1 run
  rw [← pure_eq_ok.1 done]
  exact .viewportCapped x

theorem endToEnd_measuredIn {wide narrow : Sample Float} {r : Form × Value Float}
    (run : endToEnd o t wide narrow = .ok r) : r.2.MeasuredIn t.unit := by
  unfold endToEnd at run
  split at run
  · obtain ⟨v, capped, done⟩ := bind_eq_ok.1 run
    rw [← pure_eq_ok.1 done]
    exact viewportCapped_measuredIn capped
  · split at run
    · rename_i still
      obtain ⟨x, -, done⟩ := bind_eq_ok.1 run
      rw [← pure_eq_ok.1 done, String.isEmpty_iff.1 (Bool.and_eq_true_iff.1 still).1]
      exact .quantity x
    · obtain ⟨v, clamp, done⟩ := bind_eq_ok.1 run
      rw [← pure_eq_ok.1 done]
      exact linearClamp_measuredIn clamp

theorem fluidValue?_measuredIn {r : Form × Value Float}
    (run : fluidValue? o t modes = .ok (some r)) : r.2.MeasuredIn t.unit := by
  unfold fluidValue? at run
  split at run
  · obtain ⟨r', ends, done⟩ := bind_eq_ok.1 run
    cases pure_eq_ok.1 done
    exact endToEnd_measuredIn ends
  · cases run

/-- A piece is made of numbers and named after two modes. -/
structure Piece.MadeFrom (modes : List Mode) (p : Piece) : Prop where
  value : p.value.IsNumeric
  label : ∃ first ∈ modes, ∃ last ∈ modes, p.label = pieceLabel first last

theorem pieces_madeFrom {desktopFirst : Bool} {ps : List Piece}
    (run : pieces desktopFirst t modes = .ok ps) : ∀ p ∈ ps, p.MadeFrom modes := by
  intro p mem
  obtain ⟨first, first_mem, last, last_mem, ⟨_, _, -, -, clamp⟩, label⟩ := joins_of_mem_pieces run mem
  exact ⟨(linearClamp_measuredIn clamp).isNumeric t.over_unit, first, first_mem, last, last_mem, label⟩

end Fluid

/-! ## Values, entries and blocks -/

/-- A value that one of some tokens has in a mode, or that is made of numbers. -/
inductive IsValueOf (o : Options) (tokens : List Token) (v : Value Float) : Prop where
  | rendered {t : Token} {modeId : String} (mem : t ∈ tokens)
      (run : t.rendered o modeId = .ok (some v))
  | numeric (h : v.IsNumeric)

/-- An entry that is made from some tokens. -/
structure Css.Entry.MadeFrom (o : Options) (tokens : List Token) (e : Entry) : Prop where
  token : ∃ t ∈ tokens, e.id = t.id ∧ e.property = t.property
  value : ∀ v, e.value? = some v → IsValueOf o tokens v

/-- A declaration that is made from some tokens. -/
structure Css.Declaration.MadeFrom (o : Options) (tokens : List Token) (d : Declaration) : Prop where
  token : ∃ t ∈ tokens, d.property = t.property
  value : IsValueOf o tokens d.value

/-- A block that is made from some tokens and modes. -/
structure Css.Block.MadeFrom (o : Options) (tokens : List Token) (modes : List Mode) (b : Block) :
    Prop where
  declarations : ∀ d ∈ b.declarations, d.MadeFrom o tokens
  themes : ∀ theme ∈ b.themes, Over isWordChar theme
  label : ∀ label block, b = .pieces label block →
    ∃ first ∈ modes, ∃ last ∈ modes, label = Fluid.pieceLabel first last

/-- A draft that is made from some tokens and modes. -/
structure Draft.MadeFrom (o : Options) (tokens : List Token) (modes : List Mode) (d : Draft) :
    Prop where
  entries : ∀ e ∈ d.entries, e.MadeFrom o tokens
  blocks : ∀ b ∈ d.blocks, b.MadeFrom o tokens modes

theorem Draft.madeFrom_empty : ({} : Draft).MadeFrom o tokens modes :=
  ⟨List.forall_mem_nil _, List.forall_mem_nil _⟩

theorem madeFrom_of_plainEntryIn {e : Entry} (mem : t ∈ tokens)
    (run : plainEntryIn o modeId t = .ok (some e)) : e.MadeFrom o tokens := by
  obtain ⟨v, rendered, rfl⟩ := plainEntryIn_eq_ok.1 run
  refine ⟨⟨t, mem, rfl, rfl⟩, fun _ value => ?_⟩
  cases value
  exact .rendered mem rendered

theorem madeFrom_of_plainEntries {ts : List Token} {es : List Entry} (sub : ts ⊆ tokens)
    (run : ts.filterMapM (plainEntryIn o modeId) = .ok es) : ∀ e ∈ es, e.MadeFrom o tokens := by
  intro e mem
  obtain ⟨t, listed, made⟩ := (mem_filterMapM run).1 mem
  exact madeFrom_of_plainEntryIn (sub listed) made

theorem madeFrom_proportionEntry (mem : t ∈ tokens) (n : Nat) :
    (proportionEntry t n).MadeFrom o tokens :=
  ⟨⟨t, mem, rfl, rfl⟩, nofun⟩

theorem madeFrom_of_steppedEntryIn {e : Entry} (mem : t ∈ tokens)
    (run : steppedEntryIn o modeId t = .ok (some e)) : e.MadeFrom o tokens := by
  unfold steppedEntryIn at run
  split at run
  · rw [← Option.some.inj (Except.ok.inj run)]
    exact madeFrom_proportionEntry mem _
  · exact madeFrom_of_plainEntryIn mem run

/-! ## Blocks of modes and themes -/

theorem madeFrom_of_modeDeclarations {m : Mode} {ds : List Declaration}
    (run : modeDeclarations o declared tokens m = .ok ds) : ∀ d ∈ ds, d.MadeFrom o tokens := by
  intro d written
  obtain ⟨t, mem, -, writes⟩ := (mem_modeDeclarations run).1 written
  obtain ⟨-, v, rendered, rfl⟩ := declaration?_eq_ok.1 writes
  exact ⟨⟨t, mem, rfl⟩, .rendered mem rendered⟩

theorem madeFrom_of_mediaBlocks {ts : List (Css.Condition × Mode)} {bs : List MediaBlock}
    (run : mediaBlocks o declared tokens ts = .ok bs) :
    ∀ b ∈ bs, ∀ d ∈ b.declarations, d.MadeFrom o tokens := by
  intro b mem
  obtain ⟨p, -, -, run, -⟩ := mem_mediaBlocks run mem
  exact madeFrom_of_modeDeclarations run

/-- A block of a theme whose name is a word, as all themes are named. -/
structure Css.ThemeBlock.MadeFrom (o : Options) (tokens : List Token) (b : ThemeBlock) : Prop where
  theme : Over isWordChar b.theme
  declarations : ∀ d ∈ b.declarations, d.MadeFrom o tokens

theorem madeFrom_of_themeBlocks {themes : List (String × Mode)} {bs : List ThemeBlock}
    (words : ∀ p ∈ themes, Over isWordChar p.1)
    (run : themeBlocks o declared tokens themes = .ok bs) : ∀ b ∈ bs, b.MadeFrom o tokens := by
  intro b mem
  obtain ⟨p, theme, same, run, -⟩ := mem_themeBlocks run mem
  exact ⟨same ▸ words p theme, madeFrom_of_modeDeclarations run⟩

theorem madeFrom_of_some_themeBlocks {condition : Prop} [Decidable condition]
    {themes : List (String × Mode)} {bs : List ThemeBlock}
    (words : ∀ p ∈ themes, Over isWordChar p.1)
    (run : (if condition then themeBlocks o declared tokens themes else .ok []) = .ok bs) :
    ∀ b ∈ bs, b.MadeFrom o tokens := by
  split at run
  · exact madeFrom_of_themeBlocks words run
  · rw [← Except.ok.inj run]
    exact List.forall_mem_nil _

theorem madeFrom_of_pairBlocks {light dark : Mode} {bs : List Block}
    (run : pairBlocks o declared tokens light dark = .ok bs) :
    ∀ b ∈ bs, b.MadeFrom o tokens modes := by
  have first_word : Over isWordChar "light" := by decide
  have second_word : Over isWordChar "dark" := by decide
  have words : ∀ p ∈ [("light", light), ("dark", dark)], Over isWordChar p.1 :=
    List.forall_mem_cons.2 ⟨first_word, List.forall_mem_singleton.2 second_word⟩
  obtain ⟨schemes, chosen, first, second, rfl⟩ := pairBlocks_eq_ok run
  have schemes_in := madeFrom_of_some_themeBlocks words first
  have chosen_in := madeFrom_of_some_themeBlocks words second
  refine List.forall_mem_append.2 ⟨List.forall_mem_map.2 fun b mem => ?_, ?_⟩
  · obtain ⟨theme, inside⟩ := schemes_in b mem
    exact ⟨inside, List.forall_mem_singleton.2 theme, nofun⟩
  · split
    · refine List.forall_mem_singleton.2 ⟨fun d mem => ?_, ?_, nofun⟩
      · obtain ⟨b, mem, inside⟩ := List.mem_flatMap.1 mem
        exact (chosen_in b mem).declarations d inside
      · exact List.forall_mem_map.2 fun b mem => (chosen_in b mem).theme
    · exact List.forall_mem_nil _

theorem madeFrom_of_furtherBlocks {further : List Mode} {bs : List Block}
    (run : furtherBlocks o declared tokens further = .ok bs) :
    ∀ b ∈ bs, b.MadeFrom o tokens modes := by
  unfold furtherBlocks at run
  split at run
  · obtain ⟨themes, run, done⟩ := bind_eq_ok.1 run
    have words : ∀ p ∈ further.map fun m => (Text.slug m.name, m), Over isWordChar p.1 :=
      List.forall_mem_map.2 fun m _ => Text.over_slug m.name
    rw [← pure_eq_ok.1 done]
    refine List.forall_mem_map.2 fun b mem => ?_
    obtain ⟨theme, inside⟩ := madeFrom_of_themeBlocks words run b mem
    exact ⟨inside, List.forall_mem_singleton.2 theme, nofun⟩
  · rw [← Except.ok.inj run]
    exact List.forall_mem_nil _

/-! ## Interpolated entries -/

/-- An entry of a fluid section that is made from some tokens and modes, its later pieces included. -/
structure FluidEntry.MadeFrom (o : Options) (tokens : List Token) (modes : List Mode)
    (e : FluidEntry) : Prop where
  entry : e.entry.MadeFrom o tokens
  later : ∀ p ∈ e.later, p.MadeFrom modes

theorem madeFrom_of_interpolatedEntry {standard : Value Float} {e : Entry} (mem : t ∈ tokens)
    (plain : IsValueOf o tokens standard)
    (run : interpolatedEntry o modes t standard = .ok e) : e.MadeFrom o tokens := by
  unfold interpolatedEntry at run
  obtain ⟨r, value, run⟩ := bind_eq_ok.1 run
  split at run <;> rw [← pure_eq_ok.1 run] <;> refine ⟨⟨t, mem, rfl, rfl⟩, fun _ same => ?_⟩ <;>
    cases same
  · exact plain
  · exact .numeric ((Fluid.fluidValue?_measuredIn value).isNumeric t.over_unit)
  · exact .numeric ((Fluid.fluidValue?_measuredIn value).isNumeric t.over_unit)

theorem madeFrom_of_scalingEntry {standard : Value Float} {e : FluidEntry} (mem : t ∈ tokens)
    (plain : IsValueOf o tokens standard) (run : scalingEntry o modes t standard = .ok e) :
    e.MadeFrom o tokens modes := by
  unfold scalingEntry at run
  split at run
  · rw [← Except.ok.inj run]
    exact ⟨madeFrom_proportionEntry mem _, List.forall_mem_nil _⟩
  · obtain ⟨piecewise, pieces, run⟩ := bind_eq_ok.1 run
    split at run
    · rw [← pure_eq_ok.1 run]
      obtain ⟨first, pieces, -, entry⟩ := piecewiseEntryOf_eq_ok pieces
      obtain ⟨first_in, later_in⟩ := List.forall_mem_cons.1 (Fluid.pieces_madeFrom pieces)
      refine ⟨?_, later_in⟩
      rw [entry]
      refine ⟨⟨t, mem, rfl, rfl⟩, fun _ same => ?_⟩
      cases same
      exact .numeric first_in.value
    · obtain ⟨entry, whole, done⟩ := bind_eq_ok.1 run
      rw [← pure_eq_ok.1 done]
      exact ⟨madeFrom_of_interpolatedEntry mem plain whole, List.forall_mem_nil _⟩

theorem madeFrom_of_clampableEntryIn {en : Entrant} {e : FluidEntry} (mem : en.token ∈ tokens)
    (run : clampableEntryIn o modes modeId en = .ok (some e)) : e.MadeFrom o tokens modes := by
  obtain ⟨v, rendered, ⟨-, rfl⟩ | ⟨-, made⟩⟩ := clampableEntryIn_eq_ok run
  · refine ⟨⟨⟨en.token, mem, rfl, rfl⟩, fun _ same => ?_⟩, List.forall_mem_nil _⟩
    cases same
    exact .rendered mem rendered
  · exact madeFrom_of_scalingEntry mem (.rendered mem rendered) made

/-! ## Blocks of pieces -/

/-- A block of pieces is named after one of them. -/
theorem label_of_mem_pieceBlocks {ps : List LaterPiece} {b : String × MediaBlock}
    (mem : b ∈ pieceBlocks ps) : ∃ p ∈ ps, b.1 = p.label := by
  have step (p : LaterPiece) (blocks : List (String × MediaBlock)) :
      ∀ b ∈ addPiece p blocks, b.1 = p.label ∨ ∃ b' ∈ blocks, b.1 = b'.1 := by
    induction blocks with
    | nil => exact List.forall_mem_singleton.2 (.inl rfl)
    | cons b' rest ih =>
        rw [addPiece]
        split
        · refine List.forall_mem_cons.2 ⟨.inr ⟨b', List.mem_cons_self, rfl⟩, fun b mem => ?_⟩
          exact .inr ⟨b, List.mem_cons_of_mem _ mem, rfl⟩
        · refine List.forall_mem_cons.2 ⟨.inr ⟨b', List.mem_cons_self, rfl⟩, fun b mem => ?_⟩
          refine (ih b mem).imp_right ?_
          rintro ⟨b', mem, same⟩
          exact ⟨b', List.mem_cons_of_mem _ mem, same⟩
  induction ps using List.reverseRecOn generalizing b with
  | nil => cases mem
  | append_singleton ps p ih =>
      rw [pieceBlocks_concat] at mem
      rcases step p _ b mem with same | ⟨b', mem, same⟩
      · exact ⟨p, List.mem_append_right _ List.mem_cons_self, same⟩
      · obtain ⟨q, mem, named⟩ := ih mem
        exact ⟨q, List.mem_append_left _ mem, same.trans named⟩

/-- A piece that is added keeps its name. -/
theorem piece_of_mem_laterPieces {es : List FluidEntry} {p : LaterPiece} (mem : p ∈ laterPieces es) :
    ∃ e ∈ es, ∃ q ∈ e.later, p.label = q.label ∧ p.declaration = ⟨e.entry.property, q.value⟩ := by
  obtain ⟨e, grown, mem⟩ := List.mem_flatMap.1 mem
  obtain ⟨q, later, mem⟩ := List.mem_filterMap.1 mem
  obtain ⟨c, -, rfl⟩ := Option.map_eq_some_iff.1 mem
  exact ⟨e, grown, q, later, rfl, rfl⟩

theorem madeFrom_pieceBlocks {es : List FluidEntry} (written : ∀ e ∈ es, e.MadeFrom o tokens modes) :
    ∀ b ∈ pieceBlocks (laterPieces es), (Block.pieces b.1 b.2).MadeFrom o tokens modes := by
  intro b mem
  refine ⟨fun d inside => ?_, List.forall_mem_nil _, ?_⟩
  · obtain ⟨p, later, rfl⟩ := mem_pieceBlocks.1 ⟨b, mem, inside⟩
    obtain ⟨e, grown, q, later, -, declaration⟩ := piece_of_mem_laterPieces later
    obtain ⟨t, listed, -, property⟩ := (written e grown).entry.token
    rw [declaration]
    exact ⟨⟨t, listed, property⟩, .numeric ((written e grown).later q later).value⟩
  · rintro label block same
    obtain ⟨rfl, -⟩ := Block.pieces.inj same
    obtain ⟨p, later, named⟩ := label_of_mem_pieceBlocks mem
    obtain ⟨e, grown, q, later, label, -⟩ := piece_of_mem_laterPieces later
    rw [named, label]
    exact ((written e grown).later q later).label

/-! ## Drafts -/

theorem flatDraft_madeFrom {c : Collection} {d : Draft} (run : flatDraft o gate c tokens = .ok d) :
    d.MadeFrom o tokens modes := by
  rcases flatDraft_eq_ok run with ⟨-, rfl⟩ | ⟨m, entries, -, made, rfl⟩
  · exact Draft.madeFrom_empty
  · exact ⟨madeFrom_of_plainEntries admitted_sublist.subset made, List.forall_mem_nil _⟩

/-- A media block is made from the tokens that its declarations are made from. -/
theorem madeFrom_media {b : MediaBlock} (inside : ∀ d ∈ b.declarations, d.MadeFrom o tokens) :
    (Block.media b).MadeFrom o tokens modes :=
  ⟨inside, List.forall_mem_nil _, nofun⟩

theorem steppedDraft_madeFrom {modes' : List Mode} {d : Draft}
    (run : steppedDraft o gate modes' tokens = .ok d) : d.MadeFrom o tokens modes := by
  rcases steppedDraft_eq_ok run with ⟨-, rfl⟩ | ⟨standard, entries, media, -, made, blocks, rfl⟩
  · exact Draft.madeFrom_empty
  · refine ⟨fun e mem => ?_, List.forall_mem_map.2 fun b mem => ?_⟩
    · obtain ⟨t, passed, made⟩ := (mem_filterMapM made).1 mem
      exact madeFrom_of_steppedEntryIn (admitted_sublist.subset passed) made
    · exact madeFrom_media (madeFrom_of_mediaBlocks blocks b mem)

theorem themedDraft_madeFrom {c : Collection} {d : Draft}
    (run : themedDraft o gate c tokens = .ok d) : d.MadeFrom o tokens modes := by
  rcases themedDraft_eq_ok run with ⟨-, rfl⟩ |
    ⟨standard, entries, pair, further, -, made, first, second, rfl⟩
  · exact Draft.madeFrom_empty
  · refine ⟨madeFrom_of_plainEntries admitted_sublist.subset made,
      List.forall_mem_append.2 ⟨?_, madeFrom_of_furtherBlocks second⟩⟩
    split at first
    · exact madeFrom_of_pairBlocks first
    · rw [← Except.ok.inj first]
      exact List.forall_mem_nil _

theorem Css.Declaration.MadeFrom.mono {tokens' : List Token} {d : Declaration}
    (h : d.MadeFrom o tokens) (sub : tokens ⊆ tokens') : d.MadeFrom o tokens' := by
  obtain ⟨⟨t, mem, property⟩, value⟩ := h
  refine ⟨⟨t, sub mem, property⟩, ?_⟩
  cases value with
  | rendered mem run => exact .rendered (sub mem) run
  | numeric numbers => exact .numeric numbers

namespace FluidSteps

variable {widest standard : Mode} {entrants : List Entrant} {growing : List FluidEntry}
  {fixed : List Entry} {media : List MediaBlock} {fallback : List Block}
  (h : FluidSteps o gate modes tokens widest standard entrants growing fixed media fallback)

include h

theorem growing_madeFrom : ∀ e ∈ growing, e.MadeFrom o tokens modes := by
  intro e mem
  obtain ⟨en, entrant, made⟩ := (mem_filterMapM h.grow).1 mem
  have passed := (h.entrantOf_of_mem (mem_clampable.1 entrant).1).1
  exact madeFrom_of_clampableEntryIn (admitted_sublist.subset passed) made

theorem madeFrom {d : Draft} (entries : d.entries = growing.map (·.entry) ++ fixed)
    (blocks : d.blocks = media.map .media ++
      (pieceBlocks (laterPieces growing)).map (fun p => .pieces p.1 p.2) ++ fallback) :
    d.MadeFrom o tokens modes := by
  have inTokens : mediaDriven entrants ⊆ tokens := h.tokens_subset (List.filter_subset_self _)
  constructor
  · rw [entries]
    refine List.forall_mem_append.2 ⟨List.forall_mem_map.2 fun e mem => ?_, ?_⟩
    · exact (h.growing_madeFrom e mem).entry
    · exact madeFrom_of_plainEntries inTokens h.stay
  · rw [blocks]
    refine List.forall_mem_append.2 ⟨List.forall_mem_append.2
      ⟨List.forall_mem_map.2 fun b mem => ?_, List.forall_mem_map.2 ?_⟩, fun b mem => ?_⟩
    · refine madeFrom_media fun d inside => ?_
      exact (madeFrom_of_mediaBlocks h.step b mem d inside).mono inTokens
    · exact madeFrom_pieceBlocks h.growing_madeFrom
    · obtain ⟨guarded, steps, rfl⟩ := fallbackBlocks_eq_ok h.guard mem
      refine ⟨fun d inside => ?_, List.forall_mem_nil _, nofun⟩
      obtain ⟨b, mem, inside⟩ := List.mem_flatMap.1 inside
      refine (madeFrom_of_mediaBlocks steps b mem d inside).mono (h.tokens_subset ?_)
      exact List.Subset.trans (List.filter_subset_self _) (List.filter_subset_self _)

end FluidSteps

theorem fluidDraft_madeFrom {d : Draft} (run : fluidDraft o gate modes tokens = .ok d) :
    d.MadeFrom o tokens modes := by
  rcases fluidDraft_eq_ok run with ⟨-, rfl⟩ | ⟨_, _, _, _, _, _, _, -, -, steps, entries, blocks⟩
  · exact Draft.madeFrom_empty
  · exact steps.madeFrom entries blocks

/-- Every draft is made from its tokens and, if it is fluid, from the modes of its collection. -/
theorem draftOf_madeFrom {c : Collection} {d : Draft} (run : draftOf o gate c tokens = .ok d) :
    d.MadeFrom o tokens (if c.IsFluid o then Mode.widestFirst c.modes else []) := by
  by_cases fluid : c.IsFluid o
  · rw [draftOf_of_isFluid fluid] at run
    rw [if_pos fluid]
    exact fluidDraft_madeFrom run
  · rw [if_neg fluid]
    cases kind : c.kind with
    | breakpoint =>
        rw [draftOf_of_stepped kind fluid] at run
        exact steppedDraft_madeFrom run
    | theme =>
        rw [draftOf, kind] at run
        exact themedDraft_madeFrom run
    | single =>
        rw [draftOf, kind] at run
        exact flatDraft_madeFrom run

end TokenSheet
