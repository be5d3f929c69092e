import TokenSheet.Proofs.Css.Widths
import TokenSheet.Proofs.Section.Drafts

/-!
The shape of fluid sections, and with it of the drafts of all collections.

A fluid section asks its tokens twice: the mode at the gate is the widest one, and the default block
may hold the values of the narrowest. A token that passed becomes an entrant and is either stepped
or clampable, so it still gives at most one entry. The later pieces of its interpolation go to
blocks of their own.
-/

namespace TokenSheet

open Css (Entry Block Declaration MediaBlock)

variable {o : Options} {gate : Gate} {tokens : List Token} {modes : List Mode} {t : Token}

/-! ## What options decide -/

section
variable {o' : Options} (same : o'.references = o.references)

include same

/-- How a value is written depends on what becomes of references, and on no other option. -/
theorem Token.rendered_congr (t : Token) : t.rendered o' = t.rendered o := by
  funext modeId
  unfold Token.rendered Token.render
  rw [same]

theorem Token.differsFrom_congr (t : Token) (text : Option String) :
    t.differsFrom o' text modes = t.differsFrom o text modes := by
  induction modes with
  | nil => rfl
  | cons m rest ih =>
      rw [Token.differsFrom, Token.differsFrom, ih, Token.renderedText, Token.renderedText,
        t.rendered_congr same]

theorem Token.varies_congr (t : Token) : t.varies o' modes = t.varies o modes := by
  unfold Token.varies Token.renderedText
  split
  · rfl
  · rfl
  · simp only [t.rendered_congr same, t.differsFrom_congr same]

theorem Token.isScaling_congr (t : Token) : t.isScaling o' modes = t.isScaling o modes := by
  rw [Token.isScaling, t.varies_congr same, Token.isScaling]

/-- So does the way in which a token is treated. -/
theorem Entrant.ofToken_congr : Entrant.ofToken o' modes = Entrant.ofToken o modes := by
  funext t
  unfold Entrant.ofToken Token.isStepped Token.isScaling
  rw [t.varies_congr same]

end

/-! ## Entrants -/

/-- What is known of an entrant. -/
structure EntrantOf (o : Options) (modes : List Mode) (t : Token) (e : Entrant) : Prop where
  token : e.token = t
  stepped : t.isStepped o modes = .ok e.stepped
  scaling : e.stepped = false → t.isScaling o modes = .ok e.scaling
  apart : e.stepped = true → e.scaling = false

theorem entrantOf_of_ofToken {e : Entrant} (run : Entrant.ofToken o modes t = .ok e) :
    EntrantOf o modes t e := by
  unfold Entrant.ofToken at run
  obtain ⟨stepped, first, run⟩ := bind_eq_ok.1 run
  cases stepped with
  | true =>
      rw [if_pos rfl] at run
      rw [← pure_eq_ok.1 run]
      refine ⟨rfl, first, ?_, fun _ => rfl⟩
      intro still
      cases still
  | false =>
      rw [if_neg Bool.false_ne_true] at run
      obtain ⟨scaling, second, run⟩ := bind_eq_ok.1 run
      cases scaling with
      | true =>
          rw [if_pos rfl] at run
          obtain ⟨advice, -, done⟩ := bind_eq_ok.1 run
          rw [← pure_eq_ok.1 done]
          refine ⟨rfl, first, fun _ => second, ?_⟩
          intro stepped
          cases stepped
      | false =>
          rw [if_neg Bool.false_ne_true] at run
          rw [← pure_eq_ok.1 run]
          exact ⟨rfl, first, fun _ => second, fun _ => rfl⟩

theorem mem_mediaDriven {es : List Entrant} :
    t ∈ mediaDriven es ↔ ∃ e ∈ es, e.stepped = true ∧ e.token = t := by
  simp only [mediaDriven, List.mem_map, List.mem_filter, and_assoc]

theorem mem_clampable {es : List Entrant} {e : Entrant} :
    e ∈ clampable es ↔ e ∈ es ∧ e.stepped = false := by
  simp only [clampable, List.mem_filter, Bool.not_eq_true']

theorem Token.hasReference_of_value {modeId : String} {v : TokenValue}
    (value : t.valueIn modeId = some v)
    (reference : v.isReference = true) : t.hasReference = true := by
  obtain ⟨front, back, split, -⟩ := List.lookup_eq_some_iff.1 value
  refine List.any_eq_true.2 ⟨(modeId, v), ?_, reference⟩
  rw [split]
  exact List.mem_append_right _ List.mem_cons_self

/-- The values of a token without references are literals. -/
theorem Token.exists_literal {modeId : String} {v : TokenValue} (noReference : t.hasReference = false)
    (value : t.valueIn modeId = some v) : ∃ l, v = .literal l := by
  cases v with
  | literal l => exact ⟨l, rfl⟩
  | reference target property? =>
      have refers := Token.hasReference_of_value value rfl
      rw [noReference] at refers
      cases refers

/-- A literal is written wherever it can be rendered. -/
theorem Token.rendered_of_literal {modeId : String} {l : Literal} {r : Option (Css.Value Float)}
    (value : t.valueIn modeId = some (.literal l)) (run : t.rendered o modeId = .ok r) :
    ∃ v, t.renderLiteral l = .ok v ∧ r = some v := by
  rw [Token.rendered, value] at run
  obtain ⟨v, made, done⟩ := bind_eq_ok.1 run
  exact ⟨v, made, (pure_eq_ok.1 done).symm⟩

/-- Scaling tokens are numbers that refer to nothing. -/
theorem Token.number_of_isScaling (scaling : t.isScaling o modes = .ok true) :
    t.kind = .float ∧ t.hasReference = false := by
  unfold Token.isScaling at scaling
  split at scaling
  · rename_i number
    exact number
  · cases scaling

/-- A token that scales is not stepped. -/
theorem Token.isStepped_of_isScaling (scales : t.isScaling o modes = .ok true) :
    t.isStepped o modes = .ok false := by
  obtain ⟨float, noReference⟩ := Token.number_of_isScaling scales
  have refers : t.refersIn modes = false := by
    rw [Token.refersIn, List.any_eq_false]
    intro m _ reference
    cases value : t.valueIn m.id with
    | none =>
        rw [value] at reference
        cases reference
    | some v =>
        rw [value] at reference
        obtain ⟨l, rfl⟩ := Token.exists_literal noReference value
        cases reference
  rw [Token.isScaling, if_pos ⟨float, noReference⟩] at scales
  rw [Token.isStepped, scales, ok_bind, refers, float]
  rfl

/-- A token that scales is clampable. -/
theorem EntrantOf.of_isScaling {e : Entrant} (known : EntrantOf o modes t e)
    (scales : t.isScaling o modes = .ok true) : e.stepped = false ∧ e.scaling = true := by
  have stepped := known.stepped
  rw [Token.isStepped_of_isScaling scales] at stepped
  have clampable : e.stepped = false := (Except.ok.inj stepped).symm
  have scaling := known.scaling clampable
  rw [scales] at scaling
  exact ⟨clampable, (Except.ok.inj scaling).symm⟩

theorem Token.target?_of_scaling {modeId : String} {v : Css.Value Float}
    (scaling : t.isScaling o modes = .ok true) (run : t.rendered o modeId = .ok (some v)) :
    v.target? = none := by
  cases target : v.target? with
  | none => rfl
  | some p =>
      rw [Css.Value.eq_reference_of_target? target, Token.rendered_eq_reference] at run
      obtain ⟨-, -, _, value⟩ := run
      obtain ⟨l, literal⟩ := Token.exists_literal (Token.number_of_isScaling scaling).2 value
      cases literal

/-! ## Entries of clampable tokens -/

/-- What is known of the entry of a clampable token in the default mode. -/
structure FluidEntryFor (o : Options) (modeId : String) (t : Token) (e : FluidEntry) : Prop where
  entry : EntryFor o modeId t e.entry
  later : ∀ p ∈ e.later, p.value.target? = none

theorem fluidEntryFor_of_piecewiseEntryOf {modeId : String} {e : FluidEntry}
    (run : piecewiseEntryOf o modes t = .ok (some e)) : FluidEntryFor o modeId t e := by
  unfold piecewiseEntryOf at run
  split at run
  · obtain ⟨ps, pieces, run⟩ := bind_eq_ok.1 run
    have interpolated := Fluid.pieces_target? pieces
    split at run
    · cases run
    · rename_i first later
      obtain ⟨first_target, later_target⟩ := List.forall_mem_cons.1 interpolated
      split at run
      · rw [← Option.some.inj (pure_eq_ok.1 run)]
        exact ⟨entryFor_of_target?_none rfl rfl first_target, later_target⟩
      · cases run
  · cases run

theorem entryFor_of_interpolatedEntry {modeId : String} {standard : Css.Value Float} {e : Entry}
    (run : interpolatedEntry o modes t standard = .ok e) (plain : standard.target? = none) :
    EntryFor o modeId t e := by
  unfold interpolatedEntry at run
  obtain ⟨r, value, run⟩ := bind_eq_ok.1 run
  split at run
  · rw [← pure_eq_ok.1 run]
    exact entryFor_of_target?_none rfl rfl plain
  · rw [← pure_eq_ok.1 run]
    exact entryFor_of_target?_none rfl rfl (Fluid.fluidValue?_target? value)
  · rw [← pure_eq_ok.1 run]
    exact entryFor_of_target?_none rfl rfl (Fluid.fluidValue?_target? value)

theorem fluidEntryFor_of_scalingEntry {modeId : String} {standard : Css.Value Float}
    {e : FluidEntry}
    (run : scalingEntry o modes t standard = .ok e) (plain : standard.target? = none) :
    FluidEntryFor o modeId t e := by
  unfold scalingEntry at run
  split at run
  · rw [← Except.ok.inj run]
    exact ⟨entryFor_proportion _, List.forall_mem_nil _⟩
  · obtain ⟨piecewise, pieces, run⟩ := bind_eq_ok.1 run
    split at run
    · rw [← pure_eq_ok.1 run]
      exact fluidEntryFor_of_piecewiseEntryOf pieces
    · obtain ⟨entry, whole, done⟩ := bind_eq_ok.1 run
      rw [← pure_eq_ok.1 done]
      exact ⟨entryFor_of_interpolatedEntry whole plain, List.forall_mem_nil _⟩

/-- A clampable token is written in the default mode: as it is, or interpolated if it scales. -/
theorem clampableEntryIn_eq_ok {modeId : String} {en : Entrant} {e : FluidEntry}
    (run : clampableEntryIn o modes modeId en = .ok (some e)) :
    ∃ v, en.token.rendered o modeId = .ok (some v) ∧
      (en.scaling = false ∧ e = ⟨⟨en.token.id, en.token.property, .plain v⟩, []⟩ ∨
        en.scaling = true ∧ scalingEntry o modes en.token v = .ok e) := by
  unfold clampableEntryIn at run
  obtain ⟨value, rendered, run⟩ := bind_eq_ok.1 run
  split at run
  · cases run
  · rename_i v
    refine ⟨v, rendered, ?_⟩
    cases scaling : en.scaling with
    | true =>
        rw [if_pos scaling] at run
        obtain ⟨e', made, done⟩ := bind_eq_ok.1 run
        rw [← Option.some.inj (pure_eq_ok.1 done)]
        exact .inr ⟨rfl, made⟩
    | false =>
        rw [if_neg (by rw [scaling]; exact Bool.false_ne_true)] at run
        exact .inl ⟨rfl, (Option.some.inj (pure_eq_ok.1 run)).symm⟩

theorem fluidEntryFor_of_clampableEntryIn {modeId : String} {en : Entrant} {e : FluidEntry}
    (known : EntrantOf o modes t en) (run : clampableEntryIn o modes modeId en = .ok (some e)) :
    FluidEntryFor o modeId t e := by
  obtain ⟨v, rendered, ⟨-, rfl⟩ | ⟨scaling, made⟩⟩ := clampableEntryIn_eq_ok run
  · rw [known.token] at rendered ⊢
    exact ⟨entryFor_plain rendered, List.forall_mem_nil _⟩
  · rw [known.token] at rendered made
    have grows : t.isScaling o modes = .ok true := by
      cases stepped : en.stepped with
      | false => rw [known.scaling stepped, scaling]
      | true =>
          rw [known.apart stepped] at scaling
          cases scaling
    exact fluidEntryFor_of_scalingEntry made (Token.target?_of_scaling grows rendered)

/-! ## Blocks of pieces -/

theorem mem_addPiece {p : LaterPiece} {blocks : List (String × MediaBlock)} {d : Declaration} :
    (∃ b ∈ addPiece p blocks, d ∈ b.2.declarations) ↔
      d = p.declaration ∨ ∃ b ∈ blocks, d ∈ b.2.declarations := by
  induction blocks with
  | nil => simp [addPiece]
  | cons b rest ih =>
      obtain ⟨label, b⟩ := b
      rw [addPiece]
      split
      · simp only [List.exists_mem_cons_iff, List.mem_append, List.mem_singleton]
        rw [or_assoc, or_left_comm]
      · rw [List.exists_mem_cons_iff, List.exists_mem_cons_iff, ih, or_left_comm]

/-- The blocks of pieces hold the declarations of the pieces and nothing else. -/
theorem mem_pieceBlocks {ps : List LaterPiece} {d : Declaration} :
    (∃ b ∈ pieceBlocks ps, d ∈ b.2.declarations) ↔ ∃ p ∈ ps, p.declaration = d := by
  have grow : ∀ blocks : List (String × MediaBlock),
      (∃ b ∈ ps.foldl (fun blocks p => addPiece p blocks) blocks, d ∈ b.2.declarations) ↔
        (∃ b ∈ blocks, d ∈ b.2.declarations) ∨ ∃ p ∈ ps, p.declaration = d := by
    induction ps with
    | nil => intro blocks; simp
    | cons p rest ih =>
        intro blocks
        rw [List.foldl_cons, ih, mem_addPiece, List.exists_mem_cons_iff, eq_comm, or_right_comm,
          or_comm, or_left_comm]
  have all := grow []
  simpa [pieceBlocks] using all

theorem mem_laterPieces {es : List FluidEntry} {p : LaterPiece} (h : p ∈ laterPieces es) :
    ∃ e ∈ es, ∃ q ∈ e.later, q.condition? = some p.condition ∧
      p.declaration = ⟨e.entry.property, q.value⟩ := by
  obtain ⟨e, mem, h⟩ := List.mem_flatMap.1 h
  obtain ⟨q, later, h⟩ := List.mem_filterMap.1 h
  obtain ⟨c, condition, rfl⟩ := Option.map_eq_some_iff.1 h
  exact ⟨e, mem, q, later, condition, rfl⟩

/-! ## The section -/

/-- The fallback is one guarded block of media blocks. -/
theorem fallbackBlocks_eq_ok {declared : List String} {es : List Entrant} {bs : List Block}
    (run : fallbackBlocks o modes declared es = .ok bs) {b : Block} (mem : b ∈ bs) :
    ∃ guarded, mediaBlocks o declared ((es.filter (needsFallback o declared)).map (·.token))
      (Mode.transitions o.desktopFirst modes) = .ok guarded ∧ b = .fallback guarded := by
  unfold fallbackBlocks at run
  split at run
  · obtain ⟨guarded, steps, done⟩ := bind_eq_ok.1 run
    rw [← pure_eq_ok.1 done] at mem
    split at mem
    · cases mem
    · exact ⟨guarded, steps, List.mem_singleton.1 mem⟩
  · rw [← pure_eq_ok.1 run] at mem
    cases mem

/-- The steps of a fluid section. -/
structure FluidSteps (o : Options) (gate : Gate) (modes : List Mode) (tokens : List Token)
    (widest standard : Mode) (entrants : List Entrant) (growing : List FluidEntry)
    (fixed : List Entry) (media : List MediaBlock) (fallback : List Block) : Prop where
  enter : (admitted widest.id gate tokens).mapM (Entrant.ofToken o modes) = .ok entrants
  grow : (clampable entrants).filterMapM (clampableEntryIn o modes standard.id) = .ok growing
  stay : (mediaDriven entrants).filterMapM (plainEntryIn o standard.id) = .ok fixed
  step : mediaBlocks o (declaredIds (growing.map (·.entry) ++ fixed)) (mediaDriven entrants)
    (Mode.transitions o.desktopFirst modes) = .ok media
  guard : fallbackBlocks o modes (declaredIds (growing.map (·.entry) ++ fixed))
    (clampable entrants) = .ok fallback

/-- A fluid section consists of its steps. -/
theorem fluidDraft_iff_steps {widest standard : Mode} {d : Draft} (head : modes.head? = some widest)
    (default : Mode.default? o.desktopFirst modes = some standard) :
    fluidDraft o gate modes tokens = .ok d ↔ ∃ entrants growing fixed media fallback,
      FluidSteps o gate modes tokens widest standard entrants growing fixed media fallback ∧
        d = { entries := growing.map (·.entry) ++ fixed
              blocks := media.map .media ++
                (pieceBlocks (laterPieces growing)).map (fun p => .pieces p.1 p.2) ++ fallback
              advice := entrants.flatMap (·.advice) } := by
  unfold fluidDraft
  rw [head, default]
  constructor
  · intro run
    obtain ⟨entrants, enter, run⟩ := bind_eq_ok.1 run
    obtain ⟨growing, grow, run⟩ := bind_eq_ok.1 run
    obtain ⟨fixed, stay, run⟩ := bind_eq_ok.1 run
    obtain ⟨media, step, run⟩ := bind_eq_ok.1 run
    obtain ⟨fallback, guard, done⟩ := bind_eq_ok.1 run
    exact ⟨entrants, growing, fixed, media, fallback, ⟨enter, grow, stay, step, guard⟩,
      (pure_eq_ok.1 done).symm⟩
  · rintro ⟨entrants, growing, fixed, media, fallback, steps, rfl⟩
    dsimp only
    rw [steps.enter, ok_bind, steps.grow, ok_bind, steps.stay, ok_bind, steps.step, ok_bind,
      steps.guard]
    rfl

theorem fluidDraft_eq_ok {d : Draft} (run : fluidDraft o gate modes tokens = .ok d) :
    modes = [] ∧ d = {} ∨
      ∃ widest standard entrants growing fixed media fallback, modes.head? = some widest ∧
        Mode.default? o.desktopFirst modes = some standard ∧
        FluidSteps o gate modes tokens widest standard entrants growing fixed media fallback ∧
        d.entries = growing.map (·.entry) ++ fixed ∧
        d.blocks = media.map .media ++
          (pieceBlocks (laterPieces growing)).map (fun p => .pieces p.1 p.2) ++ fallback := by
  cases modes with
  | nil => exact .inl ⟨rfl, (Except.ok.inj run).symm⟩
  | cons m rest =>
      obtain ⟨standard, default⟩ := Mode.default?_isSome o.desktopFirst (List.cons_ne_nil m rest)
      obtain ⟨entrants, growing, fixed, media, fallback, steps, rfl⟩ :=
        (fluidDraft_iff_steps (List.head?_cons ..) default).1 run
      exact .inr ⟨m, standard, entrants, growing, fixed, media, fallback, rfl, default, steps, rfl,
        rfl⟩

namespace FluidSteps

variable {widest standard : Mode} {entrants : List Entrant} {growing : List FluidEntry}
  {fixed : List Entry} {media : List MediaBlock} {fallback : List Block}
  (h : FluidSteps o gate modes tokens widest standard entrants growing fixed media fallback)

include h

/-- The entrants are the tokens that passed. -/
theorem tokens_eq : entrants.map (·.token) = admitted widest.id gate tokens := by
  rw [mapM_map_eq h.enter fun _ _ run => (entrantOf_of_ofToken run).token, List.map_id']

/-- Every token that passed is an entrant. -/
theorem exists_entrant (mem : t ∈ admitted widest.id gate tokens) :
    ∃ e ∈ entrants, EntrantOf o modes t e := by
  obtain ⟨e, mem, run⟩ := exists_of_mapM h.enter mem
  exact ⟨e, mem, entrantOf_of_ofToken run⟩

/-- Every entrant is a token that passed. -/
theorem entrantOf_of_mem {e : Entrant} (mem : e ∈ entrants) :
    e.token ∈ admitted widest.id gate tokens ∧ EntrantOf o modes e.token e := by
  obtain ⟨t, passed, run⟩ := mem_mapM h.enter mem
  have known := entrantOf_of_ofToken run
  rw [known.token]
  exact ⟨passed, known⟩

theorem tokens_subset {es : List Entrant} (sub : es ⊆ entrants) :
    es.map (·.token) ⊆ tokens := by
  intro t mem
  obtain ⟨en, entrant, rfl⟩ := List.mem_map.1 mem
  exact admitted_sublist.subset (h.entrantOf_of_mem (sub entrant)).1

/-- Stepped and clampable tokens together are the tokens that passed, in another order. -/
theorem keys :
    ((growing.map (·.entry) ++ fixed).map Entry.key).Subperm
      ((admitted widest.id gate tokens).map Token.key) := by
  have first : (growing.map fun e => e.entry.key).Sublist
      ((clampable entrants).map fun e => e.token.key) := by
    refine filterMapM_map_sublist h.grow fun en mem e made => ?_
    have entry := (fluidEntryFor_of_clampableEntryIn
      (h.entrantOf_of_mem (mem_clampable.1 mem).1).2 made).entry
    rw [Entry.key, Token.key, entry.id, entry.property]
  have second : (fixed.map Entry.key).Sublist ((mediaDriven entrants).map Token.key) := by
    refine filterMapM_map_sublist h.stay fun t _ e made => ?_
    obtain ⟨v, -, rfl⟩ := plainEntryIn_eq_ok.1 made
    rfl
  have parts : ((clampable entrants).map (fun e => e.token.key) ++
      (mediaDriven entrants).map Token.key).Perm (entrants.map fun e => e.token.key) := by
    rw [mediaDriven, List.map_map, clampable]
    refine List.Perm.trans ?_ ((List.filter_append_perm (·.stepped) entrants).map _)
    rw [List.map_append]
    exact List.perm_append_comm
  rw [List.map_append, List.map_map, ← h.tokens_eq, List.map_map]
  exact (first.append second).subperm.trans parts.subperm

theorem entries :
    ∀ e ∈ growing.map (·.entry) ++ fixed,
      ∃ t ∈ admitted widest.id gate tokens, EntryFor o standard.id t e := by
  intro e mem
  rcases List.mem_append.1 mem with mem | mem
  · obtain ⟨fe, grown, rfl⟩ := List.mem_map.1 mem
    obtain ⟨en, entrant, made⟩ := (mem_filterMapM h.grow).1 grown
    obtain ⟨passed, known⟩ := h.entrantOf_of_mem (mem_clampable.1 entrant).1
    exact ⟨en.token, passed, (fluidEntryFor_of_clampableEntryIn known made).entry⟩
  · obtain ⟨t, driven, made⟩ := (mem_filterMapM h.stay).1 mem
    obtain ⟨en, entrant, -, rfl⟩ := mem_mediaDriven.1 driven
    exact ⟨en.token, (h.entrantOf_of_mem entrant).1, entryFor_of_plainEntryIn made⟩

theorem pieces_repeat {b : String × MediaBlock} (mem : b ∈ pieceBlocks (laterPieces growing)) :
    ∀ d ∈ b.2.declarations, Repeats o tokens (growing.map (·.entry) ++ fixed) d := by
  intro d inside
  obtain ⟨p, later, rfl⟩ := mem_pieceBlocks.1 ⟨b, mem, inside⟩
  obtain ⟨fe, mem, q, later, -, same⟩ := mem_laterPieces later
  obtain ⟨en, entrant, made⟩ := (mem_filterMapM h.grow).1 mem
  have known := (h.entrantOf_of_mem (mem_clampable.1 entrant).1).2
  have interpolated := (fluidEntryFor_of_clampableEntryIn known made).later q later
  rw [same]
  exact .piece (List.mem_append_left _ (List.mem_map_of_mem mem)) rfl interpolated

theorem shape {d : Draft} (entries : d.entries = growing.map (·.entry) ++ fixed)
    (blocks : d.blocks = media.map .media ++
      (pieceBlocks (laterPieces growing)).map (fun p => .pieces p.1 p.2) ++ fallback) :
    Shape o widest standard gate tokens d where
  keys := entries ▸ h.keys
  entries := entries ▸ h.entries
  blocks := by
    have declared : declaredIds (growing.map (·.entry) ++ fixed) ⊆ declaredIds d.entries := by
      rw [entries]
      exact List.Subset.refl _
    rw [blocks]
    refine List.forall_mem_append.2 ⟨List.forall_mem_append.2 ⟨?_, ?_⟩, ?_⟩
    · refine List.forall_mem_map.2 fun b mem x inside => ?_
      have inTokens : mediaDriven entrants ⊆ tokens := h.tokens_subset (List.filter_subset_self _)
      exact (Repeats.of_media h.step declared b mem x inside).mono inTokens
    · refine List.forall_mem_map.2 fun b mem x inside => ?_
      rw [entries]
      exact h.pieces_repeat mem x inside
    · intro b mem x inside
      obtain ⟨guarded, steps, rfl⟩ := fallbackBlocks_eq_ok h.guard mem
      obtain ⟨b, mem, inside⟩ := List.mem_flatMap.1 inside
      refine (Repeats.of_media steps declared b mem x inside).mono (h.tokens_subset ?_)
      exact List.Subset.trans (List.filter_subset_self _) (List.filter_subset_self _)

end FluidSteps

theorem fluidDraft_shape {d : Draft} (run : fluidDraft o gate modes tokens = .ok d) :
    modes = [] ∧ d = {} ∨
      ∃ widest standard, modes.head? = some widest ∧
        Mode.default? o.desktopFirst modes = some standard ∧
        Shape o widest standard gate tokens d := by
  rcases fluidDraft_eq_ok run with empty |
    ⟨widest, standard, _, _, _, _, _, head, default, steps, entries, blocks⟩
  · exact .inl empty
  · exact .inr ⟨widest, standard, head, default, steps.shape entries blocks⟩

/-! ## All collections -/

/-- Whether a collection is interpolated. -/
def Collection.IsFluid (o : Options) (c : Collection) : Prop :=
  c.kind = .breakpoint ∧ o.outputMode = .fluid ∧ 2 ≤ c.modes.length

instance (o : Options) (c : Collection) : Decidable (c.IsFluid o) :=
  inferInstanceAs (Decidable (_ ∧ _ ∧ _))

/-- The mode of the default block of a collection. -/
def Collection.standardMode? (o : Options) (c : Collection) : Option Mode :=
  match c.kind with
  | .breakpoint => Mode.default? o.desktopFirst (Mode.widestFirst c.modes)
  | .theme => (c.modeNamed? "light").or c.firstMode?
  | .single => c.firstMode?

/-- The mode whose values decide which tokens enter the section of a collection. -/
def Collection.gateMode? (o : Options) (c : Collection) : Option Mode :=
  if c.IsFluid o then (Mode.widestFirst c.modes).head? else c.standardMode? o

theorem Collection.gateMode?_of_isFluid {c : Collection} (fluid : c.IsFluid o) :
    c.gateMode? o = (Mode.widestFirst c.modes).head? := if_pos fluid

theorem Collection.gateMode?_of_not_isFluid {c : Collection} (notFluid : ¬ c.IsFluid o) :
    c.gateMode? o = c.standardMode? o := if_neg notFluid

theorem Collection.standardMode?_of_breakpoint {c : Collection} (kind : c.kind = .breakpoint) :
    c.standardMode? o = Mode.default? o.desktopFirst (Mode.widestFirst c.modes) := by
  rw [standardMode?, kind]

theorem Collection.standardMode?_of_theme {c : Collection} (kind : c.kind = .theme) :
    c.standardMode? o = (c.modeNamed? "light").or c.firstMode? := by
  rw [standardMode?, kind]

theorem Collection.mem_of_modeNamed? {c : Collection} {word : String} {m : Mode}
    (named : c.modeNamed? word = some m) : m ∈ c.modes :=
  List.mem_of_find?_eq_some named

theorem Collection.mem_of_standardMode? {c : Collection} {m : Mode}
    (standard : c.standardMode? o = some m) : m ∈ c.modes := by
  unfold standardMode? at standard
  split at standard
  · exact Mode.mem_widestFirst.1 (Mode.mem_of_default? standard)
  · rcases Option.or_eq_some_iff.1 standard with light | ⟨-, first⟩
    · exact mem_of_modeNamed? light
    · exact List.mem_of_head? first
  · exact List.mem_of_head? standard

theorem draftOf_of_isFluid {c : Collection} (fluid : c.IsFluid o) :
    draftOf o gate c tokens = fluidDraft o gate (Mode.widestFirst c.modes) tokens := by
  obtain ⟨kind, mode, two⟩ := fluid
  rw [← (Mode.widestFirst_perm c.modes).length_eq] at two
  simp only [draftOf, kind]
  rw [if_pos ⟨mode, two⟩]

/-- A fluid section has a mode at its gate and a mode for its default block. -/
theorem Collection.IsFluid.exists_ends {c : Collection} (fluid : c.IsFluid o) :
    ∃ widest standard, (Mode.widestFirst c.modes).head? = some widest ∧
      Mode.default? o.desktopFirst (Mode.widestFirst c.modes) = some standard := by
  have two := fluid.2.2
  rw [← (Mode.widestFirst_perm c.modes).length_eq] at two
  have nonempty : Mode.widestFirst c.modes ≠ [] := List.ne_nil_of_length_pos (by omega)
  obtain ⟨standard, default⟩ := Mode.default?_isSome o.desktopFirst nonempty
  exact ⟨_, standard, List.head?_eq_some_head nonempty, default⟩

theorem draftOf_of_stepped {c : Collection} (kind : c.kind = .breakpoint)
    (notFluid : ¬ c.IsFluid o) :
    draftOf o gate c tokens = steppedDraft o gate (Mode.widestFirst c.modes) tokens := by
  simp only [draftOf, kind]
  refine if_neg fun fluid => notFluid ⟨kind, fluid.1, ?_⟩
  rw [← (Mode.widestFirst_perm c.modes).length_eq]
  exact fluid.2

/-- Every draft is empty or has the shape for its two modes. -/
theorem draftOf_shape {c : Collection} {d : Draft} (run : draftOf o gate c tokens = .ok d) :
    d = {} ∨ ∃ gateMode standard, c.gateMode? o = some gateMode ∧
      c.standardMode? o = some standard ∧ Shape o gateMode standard gate tokens d := by
  by_cases fluid : c.IsFluid o
  · rw [draftOf_of_isFluid fluid] at run
    rw [Collection.gateMode?_of_isFluid fluid, Collection.standardMode?_of_breakpoint fluid.1]
    rcases fluidDraft_shape run with ⟨-, empty⟩ | shape
    · exact .inl empty
    · exact .inr shape
  · have oneMode {mode? : Option Mode} (standard : c.standardMode? o = mode?)
        (shape : mode? = none ∧ d = {} ∨ ∃ m, mode? = some m ∧ Shape o m m gate tokens d) :
        d = {} ∨ ∃ gateMode standard, c.gateMode? o = some gateMode ∧
          c.standardMode? o = some standard ∧ Shape o gateMode standard gate tokens d := by
      rw [Collection.gateMode?_of_not_isFluid fluid, standard]
      rcases shape with ⟨-, empty⟩ | ⟨m, mode, shape⟩
      · exact .inl empty
      · exact .inr ⟨m, m, mode, mode, shape⟩
    cases kind : c.kind with
    | breakpoint =>
        rw [draftOf_of_stepped kind fluid] at run
        exact oneMode (Collection.standardMode?_of_breakpoint kind) (steppedDraft_shape run)
    | theme =>
        rw [draftOf, kind] at run
        exact oneMode (by rw [Collection.standardMode?, kind]) (themedDraft_shape run)
    | single =>
        rw [draftOf, kind] at run
        exact oneMode (by rw [Collection.standardMode?, kind]) (flatDraft_shape run)

/-- A section holds what its draft holds. -/
theorem exists_draft_of_sectionOf {c : Collection} {s : Section}
    (run : sectionOf o gate c tokens = .ok s) :
    ∃ d, draftOf o gate c tokens = .ok d ∧
      s = ⟨Text.upper c.name, d.entries, d.blocks, d.advice⟩ := by
  obtain ⟨d, draft, done⟩ := bind_eq_ok.1 run
  exact ⟨d, draft, (pure_eq_ok.1 done).symm⟩

/-! ## Collections of numbers -/

/-- A collection for spaces with some widths. -/
def Collection.spaces (modes : List Mode) (tokenIds : List String) : Collection where
  id := "c"
  name := "Space - 2. Aliases"
  domain := "space"
  layerName := "2. Aliases"
  layer := .aliases
  modes := modes
  kind := .breakpoint
  tokenIds := tokenIds

/-- A number of a collection with its values in some of the modes. -/
def Collection.number (c : Collection) (id name property : String) (values : List (String × Float)) :
    Token where
  id := id
  name := name
  description := ""
  collectionId := c.id
  collectionName := c.name
  domain := c.domain
  layer := c.layer
  kind := .float
  values := values.map fun v => (v.1, .literal (.number v.2))
  property := property

end TokenSheet
