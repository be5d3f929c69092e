import TokenSheet.Proofs.Section.StepFunction

/-!
Proportions of the grid, in both outputs.

Without interpolation a proportion keeps its form whatever its values are. A fluid section asks first
whether the number scales, and only then for its columns: a proportion that has the same value in
every mode is written there with that value (`proportion_form`). In both cases the token has one
entry and no further block holds a declaration of it (`Token.OnlyWrittenAs`).
-/

namespace TokenSheet

open Css (Entry EntryForm Block Declaration MediaBlock)

variable {o : Options} {gate : Gate} {tokens : List Token} {modes : List Mode} {t : Token}
  {modeId : String} {n : Nat} {c : Collection} {s : Section}

/-- What entries and blocks hold of a token is its entry in a form; all else belongs to other
tokens. -/
structure Token.OnlyWrittenAs (form : EntryForm) (tokens : List Token) (entries : List Entry)
    (blocks : List Block) (t : Token) : Prop where
  listed : ⟨t.id, t.property, form⟩ ∈ entries
  entries : ∀ e ∈ entries, e = ⟨t.id, t.property, form⟩ ∨ ∃ u ∈ tokens, u ≠ t ∧ u.key = e.key
  blocks : ∀ b ∈ blocks, ∀ x ∈ b.declarations, ∃ u ∈ tokens, u ≠ t ∧ u.property = x.property

/-- Whether entries declare a token, which no other token of the section can be taken for. -/
structure Token.DeclaredBy (tokens : List Token) (entries : List Entry) (t : Token) : Prop where
  entry : ∃ e ∈ entries, e.key = t.key
  alone : ∀ u ∈ tokens, u.key = t.key → u = t

/-- A token that is declared has passed the gate. -/
theorem Token.DeclaredBy.passed {gateMode standard : Mode} {entries : List Entry}
    (h : t.DeclaredBy tokens entries)
    (origins : ∀ e ∈ entries, ∃ u ∈ admitted gateMode.id gate tokens, EntryFor o standard.id u e) :
    t ∈ admitted gateMode.id gate tokens := by
  obtain ⟨e, mem, same⟩ := h.entry
  obtain ⟨u, passed, entry⟩ := origins e mem
  have token := h.alone u (admitted_sublist.subset passed) (entry.key.trans same)
  exact token ▸ passed

/-! ## Without interpolation -/

/-- A stepped section writes a proportion as such and repeats it nowhere. -/
theorem steppedDraft_onlyWrittenAs {d : Draft} (run : steppedDraft o gate modes tokens = .ok d)
    (columns : t.columns? = some n) (declared : t.DeclaredBy tokens d.entries) :
    t.OnlyWrittenAs (.proportion n) tokens d.entries d.blocks := by
  rcases steppedDraft_eq_ok run with ⟨-, rfl⟩ | ⟨standard, entries, media, -, made, blocks, rfl⟩
  · obtain ⟨e, mem, -⟩ := declared.entry
    cases mem
  · have origins : ∀ e ∈ entries,
        ∃ u ∈ admitted standard.id gate tokens, EntryFor o standard.id u e := by
      intro e mem
      obtain ⟨u, passed, step⟩ := (mem_filterMapM made).1 mem
      exact ⟨u, passed, entryFor_of_steppedEntryIn step⟩
    have passed := declared.passed origins
    have own : steppedEntryIn o standard.id t = .ok (some (proportionEntry t n)) := by
      rw [steppedEntryIn, columns]
    refine ⟨(mem_filterMapM made).2 ⟨t, passed, own⟩, fun e mem => ?_, ?_⟩
    · obtain ⟨u, passed, step⟩ := (mem_filterMapM made).1 mem
      by_cases token : u = t
      · rw [token, own] at step
        exact .inl (Option.some.inj (Except.ok.inj step)).symm
      · exact .inr ⟨u, admitted_sublist.subset passed, token,
          (entryFor_of_steppedEntryIn step).key⟩
    · -- The id of a proportion is taken out of the declared ids before blocks are made.
      refine List.forall_mem_map.2 fun b mem x inside => ?_
      obtain ⟨u, mem, known, same⟩ := exists_of_mem_mediaBlocks blocks mem inside
      refine ⟨u, mem, ?_, same.symm⟩
      rintro rfl
      have proportion : u.id ∈ ((admitted standard.id gate tokens).filter
          (·.columns?.isSome)).map (·.id) :=
        List.mem_map_of_mem (List.mem_filter.2 ⟨passed, by rw [columns]; rfl⟩)
      simp [proportion] at known

/-! ## With interpolation -/

/-- A number that refers to nothing in any mode is not stepped. -/
theorem Token.stepped_eq_false {stepped : Bool} (run : t.isStepped o modes = .ok stepped)
    (float : t.kind = .float) (inside : t.refersIn modes = false) : stepped = false := by
  obtain ⟨varies, -, done⟩ := bind_eq_ok.1 run
  rw [← pure_eq_ok.1 done, float, inside]
  exact Bool.and_false varies

theorem Token.refersIn_eq_false (literal : ∀ m ∈ modes, ∃ l, t.valueIn m.id = some (.literal l)) :
    t.refersIn modes = false := by
  rw [refersIn, List.any_eq_false]
  intro m mem refers
  obtain ⟨l, value⟩ := literal m mem
  rw [value] at refers
  cases refers

/-- A clampable proportion keeps its form if it scales, and has no pieces in either case. -/
theorem clampableEntryIn_of_columns {en : Entrant} {e : FluidEntry}
    (columns : en.token.columns? = some n)
    (run : clampableEntryIn o modes modeId en = .ok (some e)) :
    ∃ v, en.token.rendered o modeId = .ok (some v) ∧
      e = ⟨⟨en.token.id, en.token.property, if en.scaling then .proportion n else .plain v⟩, []⟩ := by
  obtain ⟨v, rendered, ⟨scaling, rfl⟩ | ⟨scaling, made⟩⟩ := clampableEntryIn_eq_ok run
  · refine ⟨v, rendered, ?_⟩
    rw [scaling, if_neg Bool.false_ne_true]
  · refine ⟨v, rendered, ?_⟩
    rw [scalingEntry, columns] at made
    rw [scaling, if_pos rfl]
    exact (Except.ok.inj made).symm

namespace FluidSteps

variable {widest standard : Mode} {entrants : List Entrant} {growing : List FluidEntry}
  {fixed : List Entry} {media : List MediaBlock} {fallback : List Block}
  (h : FluidSteps o gate modes tokens widest standard entrants growing fixed media fallback)

include h

/-- An entrant of a token that is not stepped is clampable, and scales if the token does. -/
theorem entrant_of_token (still : t.isStepped o modes = .ok false) {en : Entrant}
    (entrant : en ∈ entrants) (token : en.token = t) :
    en.stepped = false ∧ t.isScaling o modes = .ok en.scaling := by
  have known := (h.entrantOf_of_mem entrant).2
  rw [token] at known
  have stepped : en.stepped = false := Except.ok.inj (known.stepped.symm.trans still)
  exact ⟨stepped, known.scaling stepped⟩

/-- A declared token that is not stepped has a grown entry. -/
theorem exists_grown (still : t.isStepped o modes = .ok false)
    (declared : t.DeclaredBy tokens (growing.map (·.entry) ++ fixed)) :
    ∃ en ∈ entrants, en.token = t ∧ ∃ e ∈ growing,
      clampableEntryIn o modes standard.id en = .ok (some e) := by
  obtain ⟨e, mem, same⟩ := declared.entry
  rcases List.mem_append.1 mem with grew | stayed
  · obtain ⟨e, grown, rfl⟩ := List.mem_map.1 grew
    obtain ⟨en, entrant, made⟩ := (mem_filterMapM h.grow).1 grown
    have entrant := (mem_clampable.1 entrant).1
    obtain ⟨passed, known⟩ := h.entrantOf_of_mem entrant
    have key := (fluidEntryFor_of_clampableEntryIn known made).entry.key
    exact ⟨en, entrant, declared.alone en.token (admitted_sublist.subset passed) (key.trans same),
      e, grown, made⟩
  · obtain ⟨u, driven, made⟩ := (mem_filterMapM h.stay).1 stayed
    obtain ⟨en, entrant, stepped, rfl⟩ := mem_mediaDriven.1 driven
    have passed := (h.entrantOf_of_mem entrant).1
    have token := declared.alone en.token (admitted_sublist.subset passed)
      ((entryFor_of_plainEntryIn made).key.trans same)
    rw [(h.entrant_of_token still entrant token).1] at stepped
    cases stepped

/-- Media blocks are written for other tokens than one that is not stepped. -/
theorem ne_of_mediaDriven (still : t.isStepped o modes = .ok false) {u : Token}
    (driven : u ∈ mediaDriven entrants) : u ∈ tokens ∧ u ≠ t := by
  obtain ⟨en, entrant, stepped, rfl⟩ := mem_mediaDriven.1 driven
  refine ⟨admitted_sublist.subset (h.entrantOf_of_mem entrant).1, fun token => ?_⟩
  rw [(h.entrant_of_token still entrant token).1] at stepped
  cases stepped

/-- A grown entry is that of the proportion or belongs to another token. -/
theorem grown_of_columns (still : t.isStepped o modes = .ok false) (columns : t.columns? = some n)
    {scales : Bool} (scaling : t.isScaling o modes = .ok scales) {v : Css.Value Float}
    (rendered : t.rendered o standard.id = .ok (some v)) {e : FluidEntry} (grown : e ∈ growing) :
    e = ⟨⟨t.id, t.property, if scales then .proportion n else .plain v⟩, []⟩ ∨
      ∃ u ∈ tokens, u ≠ t ∧ u.key = e.entry.key := by
  obtain ⟨en, entrant, made⟩ := (mem_filterMapM h.grow).1 grown
  have entrant := (mem_clampable.1 entrant).1
  by_cases token : en.token = t
  · have here := (h.entrant_of_token still entrant token).2
    obtain ⟨v', rendered', rfl⟩ := clampableEntryIn_of_columns (token ▸ columns) made
    rw [token] at rendered' ⊢
    rw [Except.ok.inj (here.symm.trans scaling),
      Option.some.inj (Except.ok.inj (rendered'.symm.trans rendered))]
    exact .inl rfl
  · obtain ⟨passed, known⟩ := h.entrantOf_of_mem entrant
    exact .inr ⟨en.token, admitted_sublist.subset passed, token,
      (fluidEntryFor_of_clampableEntryIn known made).entry.key⟩

/-- No guarded block is written for a proportion. -/
theorem ne_of_fallback (columns : t.columns? = some n) {b : Block} (mem : b ∈ fallback)
    {x : Declaration} (inside : x ∈ b.declarations) :
    ∃ u ∈ tokens, u ≠ t ∧ u.property = x.property := by
  obtain ⟨guarded, steps, rfl⟩ := fallbackBlocks_eq_ok h.guard mem
  obtain ⟨b, mem, inside⟩ := List.mem_flatMap.1 inside
  obtain ⟨u, mem, -, same⟩ := exists_of_mem_mediaBlocks steps mem inside
  obtain ⟨en, kept, rfl⟩ := List.mem_map.1 mem
  obtain ⟨clampable, needs⟩ := List.mem_filter.1 kept
  have passed := (h.entrantOf_of_mem (mem_clampable.1 clampable).1).1
  refine ⟨en.token, admitted_sublist.subset passed, fun token => ?_, same.symm⟩
  rw [needsFallback, token, columns] at needs
  simp at needs

/-- A fluid section writes a proportion that is not stepped as such if it scales, and as its value
in the default mode otherwise. -/
theorem onlyWrittenAs (still : t.isStepped o modes = .ok false) (columns : t.columns? = some n)
    (declared : t.DeclaredBy tokens (growing.map (·.entry) ++ fixed)) :
    ∃ scales v, t.isScaling o modes = .ok scales ∧ t.rendered o standard.id = .ok (some v) ∧
      t.OnlyWrittenAs (if scales then .proportion n else .plain v) tokens
        (growing.map (·.entry) ++ fixed) (media.map .media ++
          (pieceBlocks (laterPieces growing)).map (fun p => .pieces p.1 p.2) ++ fallback) := by
  obtain ⟨en, entrant, rfl, e, grown, made⟩ := h.exists_grown still declared
  obtain ⟨v, rendered, rfl⟩ := clampableEntryIn_of_columns columns made
  have scaling := (h.entrant_of_token still entrant rfl).2
  refine ⟨en.scaling, v, scaling, rendered, ?_, fun x mem => ?_, ?_⟩
  · exact List.mem_append_left _ (List.mem_map_of_mem grown)
  · rcases List.mem_append.1 mem with grew | stayed
    · obtain ⟨e, grown, rfl⟩ := List.mem_map.1 grew
      rcases h.grown_of_columns still columns scaling rendered grown with rfl | other
      · exact .inl rfl
      · exact .inr other
    · obtain ⟨u, driven, made⟩ := (mem_filterMapM h.stay).1 stayed
      obtain ⟨mem, other⟩ := h.ne_of_mediaDriven still driven
      exact .inr ⟨u, mem, other, (entryFor_of_plainEntryIn made).key⟩
  · refine List.forall_mem_append.2 ⟨List.forall_mem_append.2 ⟨?_, ?_⟩, ?_⟩
    · refine List.forall_mem_map.2 fun b mem x inside => ?_
      obtain ⟨u, driven, -, same⟩ := exists_of_mem_mediaBlocks h.step mem inside
      obtain ⟨mem, other⟩ := h.ne_of_mediaDriven still driven
      exact ⟨u, mem, other, same.symm⟩
    · -- A proportion has no later pieces, so the ones that are there belong to other tokens.
      refine List.forall_mem_map.2 fun b mem x inside => ?_
      obtain ⟨p, later, rfl⟩ := mem_pieceBlocks.1 ⟨b, mem, inside⟩
      obtain ⟨e, grown, q, later, -, same⟩ := mem_laterPieces later
      rcases h.grown_of_columns still columns scaling rendered grown with rfl | ⟨u, mem, other, key⟩
      · cases later
      · rw [same]
        exact ⟨u, mem, other, (Prod.mk.inj key).2⟩
    · exact fun b mem x inside => h.ne_of_fallback columns mem inside

end FluidSteps

/-! ## Both outputs -/

/-- A number with the name of a proportion and a literal in every mode is written as a proportion,
and in no further block, wherever the section is not interpolated or the number scales. In a fluid
section a number that does not scale is written as its value in the default mode. -/
theorem proportion_form (run : sectionOf o gate c tokens = .ok s) (kind : c.kind = .breakpoint)
    (float : t.kind = .float) (literal : ∀ m ∈ c.modes, ∃ l, t.valueIn m.id = some (.literal l))
    (columns : t.columns? = some n) (declared : t.DeclaredBy tokens s.entries) :
    (¬ c.IsFluid o ∨ t.isScaling o (Mode.widestFirst c.modes) = .ok true) ∧
        t.OnlyWrittenAs (.proportion n) tokens s.entries s.blocks ∨
      (c.IsFluid o ∧ t.isScaling o (Mode.widestFirst c.modes) = .ok false) ∧
        ∃ standard v, c.standardMode? o = some standard ∧
          t.rendered o standard.id = .ok (some v) ∧
          t.OnlyWrittenAs (.plain v) tokens s.entries s.blocks := by
  obtain ⟨d, draft, rfl⟩ := exists_draft_of_sectionOf run
  by_cases fluid : c.IsFluid o
  · rw [draftOf_of_isFluid fluid] at draft
    rcases fluidDraft_eq_ok draft with ⟨-, rfl⟩ |
      ⟨widest, standard, entrants, growing, fixed, media, fallback, head, default, steps, entries,
        blocks⟩
    · obtain ⟨e, mem, -⟩ := declared.entry
      cases mem
    · have refers : t.refersIn (Mode.widestFirst c.modes) = false :=
        Token.refersIn_eq_false fun m mem => literal m (Mode.mem_widestFirst.1 mem)
      rw [entries] at declared
      obtain ⟨u, entrant, known⟩ := steps.exists_entrant (declared.passed steps.entries)
      have still : t.isStepped o (Mode.widestFirst c.modes) = .ok false := by
        rw [known.stepped, Token.stepped_eq_false known.stepped float refers]
      obtain ⟨scales, v, scaling, rendered, written⟩ := steps.onlyWrittenAs still columns declared
      dsimp only
      rw [entries, blocks]
      cases scales with
      | true => exact .inl ⟨.inr scaling, written⟩
      | false =>
          have mode : c.standardMode? o = some standard := by
            rw [Collection.standardMode?_of_breakpoint kind, default]
          exact .inr ⟨⟨fluid, scaling⟩, standard, v, mode, rendered, written⟩
  · rw [draftOf_of_stepped kind fluid] at draft
    exact .inl ⟨.inl fluid, steppedDraft_onlyWrittenAs draft columns declared⟩

namespace TwoModes

/-- A proportion with a value in each mode. -/
def numericHalf (wide narrow : Float) : Token :=
  token "v" "proportion-half" .float "--proportion-half"
    [("d", .literal (.number wide)), ("m", .literal (.number narrow))]

/-- A section with a single entry for it. -/
def halfSectionIn (form : EntryForm) (advice : List Advice) : Section where
  title := "PROPORTION"
  entries := [⟨"v", "--proportion-half", form⟩]
  blocks := []
  advice := advice

theorem numericHalf_literal (wide narrow : Float) :
    ∀ m ∈ collection.modes, ∃ l, (numericHalf wide narrow).valueIn m.id = some (.literal l) :=
  List.forall_mem_cons.2 ⟨⟨_, rfl⟩, List.forall_mem_singleton.2 ⟨_, rfl⟩⟩

theorem numericHalf_columns (wide narrow : Float) : (numericHalf wide narrow).columns? = some 6 :=
  (by decide : Fluid.proportionColumns? "proportion-half" = some 6)

theorem numericHalf_declaredBy (wide narrow : Float) (form : EntryForm) (advice : List Advice) :
    (numericHalf wide narrow).DeclaredBy [numericHalf wide narrow]
      (halfSectionIn form advice).entries where
  entry := ⟨_, List.mem_singleton_self _, rfl⟩
  alone _ mem _ := List.mem_singleton.1 mem

/-- Its section in fluid output if the values differ. -/
def growingSection : Section :=
  halfSectionIn (.proportion 6) [.proportion "--proportion-half" "proportion-half" 6]

/-- Its section in fluid output if the values are the same. -/
def stillSection : Section :=
  halfSectionIn (.plain (.quantity 50 "px")) []

/-- Its section in fixed output. -/
def fixedSection : Section :=
  halfSectionIn (.proportion 6) []

theorem growing_run : sectionOf {} {} collection [numericHalf 60 50] = .ok growingSection := by
  rw [sectionOf, draftOf_of_isFluid (by decide), widestFirst_modes]
  rfl

/-- A number that scales keeps the form of a proportion. -/
theorem growing_half_form :
    sectionOf {} {} collection [numericHalf 60 50] = .ok growingSection ∧
      (numericHalf 60 50).OnlyWrittenAs (.proportion 6) [numericHalf 60 50]
        growingSection.entries growingSection.blocks := by
  have scales : (numericHalf 60 50).isScaling {} (Mode.widestFirst collection.modes) = .ok true := by
    rw [widestFirst_modes]
    rfl
  refine ⟨growing_run, ?_⟩
  rcases proportion_form growing_run rfl rfl (numericHalf_literal 60 50) (numericHalf_columns 60 50)
    (numericHalf_declaredBy 60 50 _ _) with ⟨-, written⟩ | ⟨⟨-, still⟩, -⟩
  · exact written
  · cases scales.symm.trans still

/-- A number with the same value in all modes is declared in both outputs, but only fixed output
writes it as a proportion. -/
theorem fluid_output_may_drop_proportion :
    (numericHalf 50 50).kind = .float ∧ (numericHalf 50 50).columns? = some 6 ∧
      (∀ m ∈ collection.modes, ∃ l, (numericHalf 50 50).valueIn m.id = some (.literal l)) ∧
      sectionOf { outputMode := .fluid } {} collection [numericHalf 50 50] = .ok stillSection ∧
      (numericHalf 50 50).DeclaredBy [numericHalf 50 50] stillSection.entries ∧
      ¬ (numericHalf 50 50).OnlyWrittenAs (.proportion 6) [numericHalf 50 50]
        stillSection.entries stillSection.blocks ∧
      sectionOf { outputMode := .fixed } {} collection [numericHalf 50 50] = .ok fixedSection ∧
      (numericHalf 50 50).OnlyWrittenAs (.proportion 6) [numericHalf 50 50]
        fixedSection.entries fixedSection.blocks := by
  refine ⟨rfl, numericHalf_columns 50 50, numericHalf_literal 50 50, ?_,
    numericHalf_declaredBy 50 50 _ _, fun written => ?_, ?_, ?_⟩
  · rw [sectionOf, draftOf_of_isFluid (by decide), widestFirst_modes]
    rfl
  · have form := (Entry.mk.inj (List.mem_singleton.1 written.listed)).2.2
    cases form
  · rw [sectionOf, draftOf_of_stepped rfl (by decide), widestFirst_modes]
    rfl
  · exact ⟨List.mem_singleton_self _, List.forall_mem_singleton.2 (.inl rfl),
      List.forall_mem_nil _⟩

end TwoModes

end TokenSheet
