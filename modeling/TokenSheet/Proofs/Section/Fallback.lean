import TokenSheet.Proofs.Section.Piecewise
import TokenSheet.Proofs.Section.StepFunction

/-!
What a browser without interpolation shows of a fluid section.

The guarded block is written last and repeats the values of interpolated tokens, but it has no value
for the default mode: each of its parts belongs to the condition of a transition. Where one of the
conditions holds, such a browser therefore shows what a section without interpolation shows. Where
none holds, the default block shows through the guard with its interpolation.
-/

namespace TokenSheet

open Css (Entry Block MediaBlock)

variable {o : Options} {gate : Gate} {tokens : List Token} {modes : List Mode} {t : Token}
  {w : Css.Window} {c : Collection} {s : Section}

/-! ## Conditions -/

namespace Mode

variable {width : Int} {desktopFirst : Bool}

/-- The conditions of the transitions belong to the modes next to the default end, and inwards. -/
theorem conditions_transitions (desktopFirst : Bool) (modes : List Mode) :
    (transitions desktopFirst modes).map (·.1) =
      if desktopFirst then modes.dropLast.map below else modes.reverse.tail.map upwards := by
  cases desktopFirst with
  | true =>
      rw [transitions, if_pos rfl, if_pos rfl, List.map_map, ← zip_tail_fst, List.map_map]
      rfl
  | false =>
      rw [transitions, if_neg Bool.false_ne_true, if_neg Bool.false_ne_true, List.map_map]
      rfl

/-- Where no mode takes over, no condition holds. -/
theorem unmet_of_takeover?_eq_none {ts : List (Css.Condition × Mode)}
    (none : takeover? width ts = none) : ∀ p ∈ ts, ¬ p.1.holds width := by
  intro p mem holds
  have kept : p ∈ ts.filter fun p => p.1.holds width := List.mem_filter.2 ⟨mem, decide_eq_true holds⟩
  rw [takeover?, Option.map_eq_none_iff, List.getLast?_eq_none_iff] at none
  rw [none] at kept
  cases kept

theorem mem_of_takeover? {ts : List (Css.Condition × Mode)} {m : Mode}
    (takes : takeover? width ts = some m) : m ∈ ts.map (·.2) := by
  obtain ⟨p, last, rfl⟩ := Option.map_eq_some_iff.1 takes
  exact List.mem_map_of_mem (List.mem_of_mem_filter (List.mem_of_getLast? last))

end Mode

namespace Fluid

/-- After the first one, pieces start under the conditions of inner modes. -/
theorem piecesFrom_conditions {condition : Mode → Css.Condition}
    {condition? : Option Css.Condition} {ps : List Piece}
    (run : piecesFrom condition t condition? modes = .ok ps) :
    ∀ p ∈ ps, p.condition? = condition? ∨
      ∃ m ∈ modes.tail.dropLast, p.condition? = some (condition m) := by
  induction modes generalizing condition? ps with
  | nil =>
      cases run
      exact List.forall_mem_nil _
  | cons first rest ih =>
      cases rest with
      | nil =>
          cases run
          exact List.forall_mem_nil _
      | cons last rest =>
          have inner {others : List Piece}
              (tail : piecesFrom condition t (some (condition last)) (last :: rest) = .ok others) :
              ∀ p ∈ others, ∃ m ∈ (last :: rest).dropLast, p.condition? = some (condition m) := by
            cases rest with
            | nil =>
                cases tail
                exact List.forall_mem_nil _
            | cons next rest =>
                intro p mem
                rw [List.dropLast_cons_of_ne_nil (List.cons_ne_nil next rest)]
                rcases ih tail p mem with start | ⟨m, inside, start⟩
                · exact ⟨last, List.mem_cons_self, start⟩
                · exact ⟨m, List.mem_cons_of_mem _ inside, start⟩
          obtain ⟨later, tail, ⟨v, -, rfl⟩ | ⟨-, rfl⟩⟩ := piecesFrom_cases run
          · exact List.forall_mem_cons.2 ⟨.inl rfl, fun p mem => .inr (inner tail p mem)⟩
          · exact fun p mem => .inr (inner tail p mem)

/-- The condition of a piece is that of a transition. -/
theorem condition_of_mem_pieces {desktopFirst : Bool} {ps : List Piece}
    (run : pieces desktopFirst t modes = .ok ps) {p : Piece} (mem : p ∈ ps) {a : Css.Condition}
    (condition : p.condition? = some a) :
    a ∈ (Mode.transitions desktopFirst modes).map (·.1) := by
  rw [Mode.conditions_transitions]
  cases desktopFirst with
  | true =>
      rw [pieces, if_pos rfl] at run
      rw [if_pos rfl]
      rcases piecesFrom_conditions run p mem with first | ⟨m, inside, start⟩
      · rw [first] at condition
        cases condition
      · rw [start] at condition
        rw [← List.tail_dropLast] at inside
        cases condition
        exact List.mem_map_of_mem (List.mem_of_mem_tail inside)
  | false =>
      rw [pieces, if_neg Bool.false_ne_true] at run
      rw [if_neg Bool.false_ne_true]
      rcases piecesFrom_conditions run p mem with first | ⟨m, inside, start⟩
      · rw [first] at condition
        cases condition
      · rw [start] at condition
        cases condition
        exact List.mem_map_of_mem (List.dropLast_subset _ inside)

end Fluid

/-! ## Pieces of other blocks -/

/-- The conditions of all pieces are among those of the transitions. -/
theorem FluidSteps.condition_of_mem_laterPieces {widest standard : Mode} {entrants : List Entrant}
    {growing : List FluidEntry} {fixed : List Entry} {media : List MediaBlock}
    {fallback : List Block}
    (h : FluidSteps o gate modes tokens widest standard entrants growing fixed media fallback)
    {p : LaterPiece} (mem : p ∈ laterPieces growing) :
    p.condition ∈ (Mode.transitions o.desktopFirst modes).map (·.1) := by
  obtain ⟨e, grown, q, later, condition, -⟩ := mem_laterPieces mem
  obtain ⟨en, -, made⟩ := (mem_filterMapM h.grow).1 grown
  rcases pieces_of_clampableEntryIn made with ⟨none, -⟩ | ⟨first, pieces, -⟩
  · rw [none] at later
    cases later
  · exact Fluid.condition_of_mem_pieces pieces (List.mem_cons_of_mem _ later) condition

/-- Where no condition of a transition holds, pieces in other blocks show nothing. -/
theorem FluidSteps.shown?_pieces_of_unmet {widest standard : Mode} {entrants : List Entrant}
    {growing : List FluidEntry} {fixed : List Entry} {media : List MediaBlock}
    {fallback : List Block}
    (h : FluidSteps o gate modes tokens widest standard entrants growing fixed media fallback)
    (unmet : ∀ p ∈ Mode.transitions o.desktopFirst modes, ¬ p.1.holds w.width)
    (property : String) :
    Css.shown? w property (((pieceBlocks (laterPieces growing)).map fun p =>
      Block.pieces p.1 p.2).flatMap Block.written) = none := by
  rw [pieceBlocks_written]
  refine Css.shown?_eq_none_of_unmet fun d written => ?_
  obtain ⟨condition, listed, written⟩ := List.mem_flatMap.1 written
  obtain ⟨p, later, rfl⟩ := List.mem_map.1 (List.mem_eraseDups.1 listed)
  obtain ⟨step, transition, same⟩ := List.mem_map.1 (h.condition_of_mem_laterPieces later)
  obtain ⟨x, -, rfl⟩ := List.mem_map.1 written
  rw [Css.Circumstance.met, ← same]
  exact decide_eq_false (unmet step transition)

/-- The entry of a clampable token that is no proportion declares its property only. -/
theorem declared_of_clampableEntryIn {modeId : String} {en : Entrant} {e : FluidEntry}
    (run : clampableEntryIn o modes modeId en = .ok (some e))
    (noProportion : en.token.columns? = none) :
    ∃ text, e.entry.declared = [(en.token.property, text)] := by
  obtain ⟨v, -, ⟨-, rfl⟩ | ⟨-, made⟩⟩ := clampableEntryIn_eq_ok run
  · exact ⟨v.text, rfl⟩
  · rw [scalingEntry, noProportion] at made
    obtain ⟨piecewise, pieces, made⟩ := bind_eq_ok.1 made
    cases piecewise with
    | some e' =>
        obtain rfl := pure_eq_ok.1 made
        obtain ⟨first, -, -, entry⟩ := piecewiseEntryOf_eq_ok pieces
        rw [entry]
        exact ⟨first.value.text, rfl⟩
    | none =>
        obtain ⟨entry, whole, done⟩ := bind_eq_ok.1 made
        rw [← pure_eq_ok.1 done]
        unfold interpolatedEntry at whole
        obtain ⟨r, -, whole⟩ := bind_eq_ok.1 whole
        split at whole <;> rw [← pure_eq_ok.1 whole] <;> exact ⟨_, rfl⟩

/-! ## The guarded block -/

/-- A literal is written wherever its declaration succeeds. -/
theorem Token.exists_rendered_of_literal {modeId : String} {l : Literal} {r : Option Css.Declaration}
    (value : t.valueIn modeId = some (.literal l)) (run : declaration? o modeId t = .ok r) :
    ∃ v, t.rendered o modeId = .ok (some v) := by
  have notOwn : t.isOwnReference (t.valueIn modeId) = false := by
    rw [value]
    rfl
  rw [declaration?, if_neg (by simp [notOwn])] at run
  obtain ⟨v?, rendered, -⟩ := bind_eq_ok.1 run
  obtain ⟨v, -, rfl⟩ := rendered_of_literal value rendered
  exact ⟨v, rendered⟩

/-- A token with literals is written in all modes that blocks are made for. -/
theorem writtenIn_of_mediaBlocks {declared : List String} {ts : List (Css.Condition × Mode)}
    {bs : List MediaBlock} (run : mediaBlocks o declared tokens ts = .ok bs) (mem : t ∈ tokens)
    (known : t.id ∈ declared) (literal : ∀ p ∈ ts, ∃ l, t.valueIn p.2.id = some (.literal l)) :
    t.WrittenIn o (ts.map (·.2)) := by
  obtain ⟨steps, -⟩ := mediaBlocks_written run
  refine List.forall_mem_map.2 fun p step => ?_
  obtain ⟨l, value⟩ := literal p step
  obtain ⟨r, made⟩ := (filterMapM_eq_ok.1 (steps p step)).1 t
    (List.mem_filter.2 ⟨mem, by simpa using known⟩)
  obtain ⟨v, rendered⟩ := Token.exists_rendered_of_literal value made
  refine ⟨?_, v.text, Token.renderedText_eq_ok.2 ⟨v, rendered, rfl⟩⟩
  rw [value]
  rfl

/-- In a browser without interpolation guarded blocks show a token in the mode that takes over. -/
theorem shown?_guardedBlocks {declared : List String} {ts : List (Css.Condition × Mode)}
    {bs : List MediaBlock} (run : mediaBlocks o declared tokens ts = .ok bs)
    (unaware : w.knowsClamp = false) (written : t.WrittenIn o (ts.map (·.2))) (mem : t ∈ tokens)
    (known : t.id ∈ declared)
    (alone : ∀ u ∈ tokens, u.id ∈ declared → u.property = t.property → u = t) :
    Css.shown? w t.property
        (bs.flatMap fun b => Css.writtenFor (.fallback b.condition) b.declarations) =
      (Mode.takeover? w.width ts).map (t.textIn o) := by
  obtain ⟨steps, all⟩ := blocks_written Css.MediaBlock.mk run
  have met (p : Css.Condition × Mode) :
      (Css.Circumstance.fallback p.1).met w = decide (p.1.holds w.width) := by
    rw [Css.Circumstance.met, unaware]
    rfl
  have shown : Css.shown? w t.property (ts.flatMap fun p =>
        Css.writtenFor (.fallback p.1) (stepDeclarations o declared tokens p.2)) =
      ((ts.filter fun p => (Css.Circumstance.fallback p.1).met w).getLast?).map fun p =>
        t.textIn o p.2 :=
    Css.shown?_flatMap fun p step =>
      written.stepDeclarations (steps p step) (List.mem_map_of_mem step) mem known alone
  rw [all (fun b => Css.writtenFor (.fallback b.condition) b.declarations) fun _ => rfl, shown]
  simp only [met, Mode.takeover?, Option.map_map]
  rfl

/-- The blocks at the end of a draft go before all else. -/
theorem shown?_draft {d : Draft} {before last : List Block} (blocks : d.blocks = before ++ last)
    (property : String) :
    Css.shown? w property (d.entries.flatMap Entry.written ++ d.blocks.flatMap Block.written) =
      (Css.shown? w property (last.flatMap Block.written)).or
        (Css.shown? w property
          (d.entries.flatMap Entry.written ++ before.flatMap Block.written)) := by
  rw [blocks, List.flatMap_append, ← List.append_assoc, Css.shown?_append]

namespace FluidSteps

variable {widest standard : Mode} {entrants : List Entrant} {growing : List FluidEntry}
  {fixed : List Entry} {media : List MediaBlock} {fallback : List Block}
  (h : FluidSteps o gate modes tokens widest standard entrants growing fixed media fallback)
  (own : Owner tokens (growing.map (·.entry) ++ fixed) t)
  (scales : t.isScaling o modes = .ok true) (noProportion : t.columns? = none)

include h own scales

/-- A token that scales is clampable. -/
theorem exists_scaling_entrant :
    ∃ en ∈ clampable entrants, EntrantOf o modes t en ∧ en.scaling = true := by
  obtain ⟨en, entrant, known⟩ := h.exists_entrant_of_owner own
  obtain ⟨clampable, scaling⟩ := known.of_isScaling scales
  exact ⟨en, mem_clampable.2 ⟨entrant, clampable⟩, known, scaling⟩

include noProportion

/-- In a browser without interpolation the fallback shows the token in the mode that takes over. -/
theorem shown?_fallback_of_unaware (asked : o.legacyFallbacks = true)
    (unaware : w.knowsClamp = false) (noViewport : o.wantsViewport t.property = false)
    (literal : ∀ m ∈ modes, ∃ l, t.valueIn m.id = some (.literal l)) :
    t.WrittenIn o ((Mode.transitions o.desktopFirst modes).map (·.2)) ∧
      Css.shown? w t.property (fallback.flatMap Block.written) =
        (Mode.takeover? w.width (Mode.transitions o.desktopFirst modes)).map (t.textIn o) := by
  obtain ⟨en, inside, known, scaling⟩ := h.exists_scaling_entrant own scales
  have declared := own.id_mem
  have needs : needsFallback o (declaredIds (growing.map (·.entry) ++ fixed)) en = true := by
    simp [needsFallback, known.token, scaling, noProportion, noViewport, declared]
  have guard := h.guard
  rw [fallbackBlocks, if_pos asked] at guard
  obtain ⟨guarded, blocks, done⟩ := bind_eq_ok.1 guard
  have repeated := List.mem_map.2 ⟨en, List.mem_filter.2 ⟨inside, needs⟩, known.token⟩
  have written := writtenIn_of_mediaBlocks blocks repeated declared
    fun p step => literal p.2 (Mode.mem_of_mem_transitions step)
  refine ⟨written, ?_⟩
  have all : fallback.flatMap Block.written = guarded.flatMap fun b =>
      Css.writtenFor (.fallback b.condition) b.declarations := by
    rw [← pure_eq_ok.1 done]
    cases guarded with
    | nil => rfl
    | cons b rest => exact List.flatMap_singleton ..
  rw [all]
  refine shown?_guardedBlocks blocks unaware written repeated declared fun u mem => ?_
  refine own.alone u (h.tokens_subset ?_ mem)
  exact List.Subset.trans (List.filter_subset_self _) (List.filter_subset_self _)

/-- Where no condition holds, the default block shows its entry of the token: no media block and no
piece of an interpolation applies. -/
theorem shown?_of_unmet (apart : NoCompanion (growing.map (·.entry) ++ fixed) t.property)
    (unmet : ∀ p ∈ Mode.transitions o.desktopFirst modes, ¬ p.1.holds w.width) :
    ∃ e ∈ growing.map (·.entry) ++ fixed, ∃ text, e.declared = [(t.property, text)] ∧
      Css.shown? w t.property ((growing.map (·.entry) ++ fixed).flatMap Entry.written ++
        (media.map Block.media ++ (pieceBlocks (laterPieces growing)).map fun p =>
          Block.pieces p.1 p.2).flatMap Block.written) = some text := by
  obtain ⟨e, listed, key⟩ := own.declared
  have property := (Prod.mk.inj key).2
  rcases List.mem_append.1 listed with grew | stayed
  · obtain ⟨e, mem, rfl⟩ := List.mem_map.1 grew
    obtain ⟨en, known, clampable, made⟩ := h.entrant_of_grown own mem property
    obtain ⟨only, others⟩ := h.only_grown own known clampable made
    have columns : en.token.columns? = none := known.token ▸ noProportion
    obtain ⟨text, declared⟩ := declared_of_clampableEntryIn made columns
    rw [known.token] at declared
    have first : Css.shown? w t.property ((growing.map (·.entry) ++ fixed).flatMap Entry.written) =
        some text := by
      refine shown?_entries own apart fun x inside same => ?_
      rcases List.mem_append.1 inside with grew | stayed
      · obtain ⟨e', mem, rfl⟩ := List.mem_map.1 grew
        rw [only e' mem same, declared]
      · exact absurd same (others x stayed)
    refine ⟨e.entry, listed, text, declared, ?_⟩
    rw [Css.shown?_append, List.flatMap_append, Css.shown?_append, h.shown?_pieces_of_unmet unmet,
      h.shown?_media_eq_none own known clampable, first]
    rfl
  · obtain ⟨en, known, stepped, -⟩ := h.entrant_of_stayed own stayed property
    have steps := known.stepped
    rw [Token.isStepped_of_isScaling scales, stepped] at steps
    cases steps

end FluidSteps

/-! ## Breakpoint collections -/

/-- A token of a fluid section that is repeated in its guarded block: a number with literals in
every mode, not all written the same. It stands neither for columns of the grid nor for the width of
the viewport, and no other token declares its property. -/
structure GuardedToken (o : Options) (gate : Gate) (c : Collection) (tokens : List Token)
    (s : Section) (t : Token) : Prop where
  run : sectionOf o gate c tokens = .ok s
  fluid : c.IsFluid o
  asked : o.legacyFallbacks = true
  scales : t.isScaling o (Mode.widestFirst c.modes) = .ok true
  literal : ∀ m ∈ c.modes, ∃ l, t.valueIn m.id = some (.literal l)
  noProportion : t.columns? = none
  noViewport : o.wantsViewport t.property = false
  own : Owner tokens s.entries t

/-- The conditions under which a section leaves its default mode. -/
def Collection.transitions (o : Options) (c : Collection) : List (Css.Condition × Mode) :=
  Mode.transitions o.desktopFirst (Mode.widestFirst c.modes)

/-- Without interpolation a section shows a token that has its property to itself in the mode of the
width. -/
theorem SteppedToken.shown? (h : SteppedToken o gate c tokens s t) (notFluid : ¬ c.IsFluid o)
    (apart : NoCompanion s.entries t.property) :
    s.shown? w t.property =
      (Mode.atWidth? (Mode.widestFirst c.modes) w.width).map (t.textIn o) := by
  obtain ⟨d, draft, rfl⟩ := exists_draft_of_sectionOf h.run
  rw [draftOf_of_stepped h.kind notFluid] at draft
  exact steppedDraft_shown? draft (Mode.widestFirst_descending c.modes)
    (fun m mem => h.written m (Mode.mem_widestFirst.1 mem)) h.own apart

/-- A browser without interpolation shows of a guarded token, where the section leaves its default
mode, the literal of the mode of the width, as every section without interpolation does. In the
default mode it shows the entry of the default block. -/
theorem guarded_token_follows_width (unaware : w.knowsClamp = false)
    (h : GuardedToken o gate c tokens s t) :
    ((∃ p ∈ c.transitions o, p.1.holds w.width) →
      s.FollowsWidth o c t w ∧
        ∀ gate' tokens' s', SteppedToken { o with outputMode := .fixed } gate' c tokens' s' t →
          NoCompanion s'.entries t.property → s'.shown? w t.property = s.shown? w t.property) ∧
    ((∀ p ∈ c.transitions o, ¬ p.1.holds w.width) → NoCompanion s.entries t.property →
      ∃ e ∈ s.entries, ∃ text, e.declared = [(t.property, text)] ∧
        s.shown? w t.property = some text) := by
  obtain ⟨run, fluid, asked, scales, literal, noProportion, noViewport, own⟩ := h
  obtain ⟨d, draft, rfl⟩ := exists_draft_of_sectionOf run
  rw [draftOf_of_isFluid fluid] at draft
  rcases fluidDraft_eq_ok draft with ⟨-, rfl⟩ |
    ⟨widest, standard, entrants, growing, fixed, media, fallback, -, default, steps, entries,
      blocks⟩
  · obtain ⟨e, mem, -⟩ := own.declared
    cases mem
  · have sorted := Mode.widestFirst_descending c.modes
    rw [entries] at own
    obtain ⟨written, guarded⟩ := steps.shown?_fallback_of_unaware own scales noProportion asked
      unaware noViewport fun m mem => literal m (Mode.mem_widestFirst.1 mem)
    change _ = (Mode.takeover? w.width (c.transitions o)).map (t.textIn o) at guarded
    have shows := shown?_draft (w := w) blocks t.property
    rw [guarded] at shows
    constructor
    · rintro ⟨p, step, holds⟩
      cases takeover : Mode.takeover? w.width (c.transitions o) with
      | none => exact absurd holds (Mode.unmet_of_takeover?_eq_none takeover p step)
      | some m =>
          have inside : m ∈ (c.transitions o).map (·.2) := Mode.mem_of_takeover? takeover
          have at_width : Mode.atWidth? (Mode.widestFirst c.modes) w.width = some m := by
            rw [← Mode.takeover?_or_default? sorted o.desktopFirst]
            exact congrArg (Option.or · _) takeover
          have shown : Section.shown? ⟨Text.upper c.name, d.entries, d.blocks, d.advice⟩ w
              t.property = some (t.textIn o m) := by
            rw [Section.shown?, Section.written, shows, takeover]
            rfl
          refine ⟨⟨m, t.textIn o m, at_width, written.renderedText inside, shown⟩, ?_⟩
          intro gate' tokens' s' stepped apart
          have notFluid : ¬ c.IsFluid { o with outputMode := .fixed } := by
            intro fluid
            cases fluid.2.1
          rw [stepped.shown? notFluid apart, at_width, shown]
          rfl
    · intro unmet apart
      rw [entries] at apart
      obtain ⟨e, listed, text, declared, shown⟩ :=
        steps.shown?_of_unmet own scales noProportion apart unmet
      refine ⟨e, entries ▸ listed, text, declared, ?_⟩
      have none : Mode.takeover? w.width (c.transitions o) = none := Mode.takeover?_eq_none unmet
      rw [Section.shown?, Section.written, shows, none, entries, shown]
      rfl

namespace ThreeModes

/-- Options under which values are repeated for browsers without interpolation. -/
def guardedOptions : Options := { legacyFallbacks := true }

/-- The section of the number with an interpolation from end to end and a guarded block. -/
def guarded : Section where
  title := "SPACE"
  entries := [⟨"v", "--gap", .plain (.clamp 16 (.interceptFirst 9.6 1.3333) 32 "px")⟩]
  blocks := [.fallback [⟨.maxWidth 1679, [⟨"--gap", .quantity 24 "px"⟩]⟩,
    ⟨.maxWidth 767, [⟨"--gap", .quantity 16 "px"⟩]⟩]]
  advice := ((gap.advice collection.modes).toOption).getD []

/-- A window of some width in a browser without interpolation. -/
def oldWindow (width : Int) : Css.Window := ⟨width, "light", none, false⟩

set_option maxRecDepth 2000 in
theorem guarded_run : sectionOf guardedOptions {} collection [gap] = .ok guarded := by
  rw [sectionOf, draftOf_of_isFluid (by decide), widestFirst_modes]
  rfl

theorem gap_guarded : GuardedToken guardedOptions {} collection [gap] guarded gap where
  run := guarded_run
  fluid := by decide
  asked := rfl
  scales := by
    rw [widestFirst_modes]
    rfl
  literal := by
    have wide : ∃ l, gap.valueIn "d" = some (.literal l) := ⟨_, rfl⟩
    have middle : ∃ l, gap.valueIn "t" = some (.literal l) := ⟨_, rfl⟩
    have narrow : ∃ l, gap.valueIn "m" = some (.literal l) := ⟨_, rfl⟩
    simpa [collection] using ⟨wide, middle, narrow⟩
  noProportion := by decide
  noViewport := rfl
  own := .of_only rfl

/-- Between the tablet and the desktop the number is shown as it is on the tablet. -/
theorem gap_follows_width_unaware :
    GuardedToken guardedOptions {} collection [gap] guarded gap ∧
      (∃ p ∈ collection.transitions guardedOptions, p.1.holds (oldWindow 1000).width) ∧
      guarded.FollowsWidth guardedOptions collection gap (oldWindow 1000) := by
  have leaves : ∃ p ∈ collection.transitions guardedOptions, p.1.holds (oldWindow 1000).width := by
    rw [Collection.transitions, widestFirst_modes]
    exact ⟨_, List.mem_cons_self, by decide⟩
  exact ⟨gap_guarded, leaves, ((guarded_token_follows_width rfl gap_guarded).1 leaves).1⟩

/-- On the desktop it is shown as an interpolation. -/
theorem guarded_token_may_not_follow_width :
    GuardedToken guardedOptions {} collection [gap] guarded gap ∧
      NoCompanion guarded.entries gap.property ∧
      guarded.shown? (oldWindow 1680) "--gap" =
        some "clamp(16px, calc(9.6px + 1.3333vw), 32px)" ∧
      gap.renderedText guardedOptions "d" = .ok (some "32px") ∧
      ¬ guarded.FollowsWidth guardedOptions collection gap (oldWindow 1680) := by
  have apart : NoCompanion guarded.entries gap.property :=
    List.forall_mem_singleton.2 fun _ form => by cases form
  have here : Mode.atWidth? (Mode.widestFirst collection.modes) (oldWindow 1680).width =
      some ⟨"d", "Desktop", some 1680⟩ := by
    rw [widestFirst_modes]
    rfl
  have shown : guarded.shown? (oldWindow 1680) "--gap" =
      some "clamp(16px, calc(9.6px + 1.3333vw), 32px)" := by decide +kernel
  have written : gap.renderedText guardedOptions "d" = .ok (some "32px") := rfl
  exact ⟨gap_guarded, apart, shown, written,
    TwoModes.not_followsWidth here written shown (by decide)⟩

end ThreeModes

end TokenSheet
