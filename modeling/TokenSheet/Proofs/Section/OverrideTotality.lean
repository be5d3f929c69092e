import TokenSheet.Proofs.Returns
import TokenSheet.Proofs.Section.Overrides

/-!
Sections that are written under more overrides.

One more property relative to the viewport never ends the writing of a section: the number that the
property is limited by was rounded before, when the values of the token were compared. One more
property interpolated piece by piece ends it only where a piece of that property itself cannot be
computed.
-/

namespace TokenSheet

open Css (Block)

variable {o o' : Options} {gate : Gate} {tokens : List Token} {modes : List Mode} {t : Token}
  {modeId n : String} {c : Collection}

/-- Whether a token that is written in a section over some modes under options is written there
under others. -/
def Options.Carries (o o' : Options) (modes : List Mode) (t : Token) : Prop :=
  ∀ modeId en r, EntrantOf o modes t en → clampableEntryIn o modes modeId en = .ok r →
    Returns (clampableEntryIn o' modes modeId en)

/-- Properties that are already written relative to the viewport stay so. -/
def Options.KeepsViewport (o o' : Options) : Prop :=
  ∀ p, o.wantsViewport p = true → o'.wantsViewport p = true

/-- No other token is repeated in the guarded block than before. -/
theorem guardedTokens_subset (keeps : o.KeepsViewport o') (declared : List String)
    (es : List Entrant) : guardedTokens o' declared es ⊆ guardedTokens o declared es := by
  refine List.map_subset _ fun en mem => ?_
  obtain ⟨listed, needs⟩ := List.mem_filter.1 mem
  refine List.mem_filter.2 ⟨listed, ?_⟩
  simp only [needsFallback, Bool.and_eq_true, Bool.not_eq_true'] at needs ⊢
  refine ⟨needs.1, ?_⟩
  cases wants : o.wantsViewport en.token.property with
  | false => rfl
  | true =>
      rw [keeps _ wants] at needs
      cases needs.2

theorem fallbackBlocks_returns_of_alikeBut (h : o.AlikeBut n o') (keeps : o.KeepsViewport o')
    {declared : List String} {es : List Entrant} {bs : List Block}
    (run : fallbackBlocks o modes declared es = .ok bs) :
    Returns (fallbackBlocks o' modes declared es) := by
  unfold fallbackBlocks
  refine Returns.ite (fun asked => ?_) fun _ => returns_pure []
  rw [h.legacyFallbacks] at asked
  obtain ⟨steps, -⟩ := fallbackBlocks_written asked run
  rw [h.desktopFirst, h.mediaBlocks]
  refine Returns.map (Returns.filterMapM fun p mem => Returns.map ?_ _) _
  refine Returns.filterMapM fun t inside => ?_
  obtain ⟨guarded, known⟩ := List.mem_filter.1 inside
  exact (filterMapM_eq_ok.1 (steps p mem)).1 t
    (List.mem_filter.2 ⟨guardedTokens_subset keeps declared es guarded, known⟩)

/-- A fluid section is written under more overrides if the tokens of the property are. -/
theorem fluidDraft_returns_of_alikeBut (h : o.AlikeBut n o') (keeps : o.KeepsViewport o')
    (carries : ∀ t ∈ tokens, t.property = n → o.Carries o' modes t) {d : Draft}
    (run : fluidDraft o gate modes tokens = .ok d) : Returns (fluidDraft o' gate modes tokens) := by
  cases modes with
  | nil => exact returns_ok _
  | cons widest rest =>
      obtain ⟨standard, default⟩ := Mode.default?_isSome o.desktopFirst (List.cons_ne_nil widest rest)
      have default' := default
      rw [← h.desktopFirst] at default'
      obtain ⟨entrants, growing, fixed, media, fallback, steps, -⟩ :=
        (fluidDraft_iff_steps (List.head?_cons ..) default).1 run
      have grows : Returns ((clampable entrants).filterMapM
          (clampableEntryIn o' (widest :: rest) standard.id)) := by
        refine Returns.filterMapM fun en mem => ?_
        obtain ⟨r, made⟩ := (filterMapM_eq_ok.1 steps.grow).1 en mem
        obtain ⟨passed, known⟩ := steps.entrantOf_of_mem (mem_clampable.1 mem).1
        by_cases own : en.token.property = n
        · exact carries en.token (admitted_sublist.subset passed) own standard.id en r known made
        · rw [h.clampableEntryIn own]
          exact ⟨r, made⟩
      obtain ⟨growing', grow'⟩ := grows
      have declared := declaredIds_alikeBut fixed
        (grown_alikeBut h (fun en mem => (steps.entrantOf_of_mem mem).2) steps.grow grow')
      obtain ⟨fallback', guard'⟩ := fallbackBlocks_returns_of_alikeBut h keeps steps.guard
      rw [← declared] at guard'
      have steps' : FluidSteps o' gate (widest :: rest) tokens widest standard entrants growing'
          fixed media fallback' := by
        refine ⟨?_, grow', ?_, ?_, guard'⟩
        · rw [h.ofToken, steps.enter]
        · rw [h.plainEntryIn, steps.stay]
        · rw [h.mediaBlocks, h.desktopFirst, declared, steps.step]
      exact ⟨_, (fluidDraft_iff_steps (List.head?_cons ..) default').2
        ⟨entrants, growing', fixed, media, fallback', steps', rfl⟩⟩

/-- A section is written under more overrides if, where it is interpolated, the tokens of the
property are. -/
theorem sectionOf_returns_of_alikeBut (h : o.AlikeBut n o') (keeps : o.KeepsViewport o')
    (carries : c.IsFluid o → ∀ t ∈ tokens, t.property = n →
      o.Carries o' (Mode.widestFirst c.modes) t) {s : Section}
    (run : sectionOf o gate c tokens = .ok s) : Returns (sectionOf o' gate c tokens) := by
  obtain ⟨d, draft, -⟩ := exists_draft_of_sectionOf run
  refine Returns.map ?_ _
  by_cases fluid : c.IsFluid o
  · rw [draftOf_of_isFluid fluid] at draft
    rw [draftOf_of_isFluid (h.isFluid.2 fluid)]
    exact fluidDraft_returns_of_alikeBut h keeps (carries fluid) draft
  · rw [h.draftOf fluid]
    exact ⟨d, draft⟩

/-! ## One more property relative to the viewport -/

theorem Options.keepsViewport_withViewport (o : Options) (n : String) :
    o.KeepsViewport (o.withViewport n) := by
  intro p wants
  simp only [wantsViewport, withViewport, List.contains_append, Bool.or_eq_true] at wants ⊢
  exact .inl wants

/-- The number of a scaling token in the widest mode was rounded when its values were compared. -/
theorem Token.roundTo_returns_of_isScaling {wide : Fluid.Sample Float}
    (scales : t.isScaling o modes = .ok true)
    (sample : modes.head?.bind (Fluid.sampleIn t) = some wide) :
    Returns (Scalar.roundTo wide.value 2) := by
  unfold isScaling at scales
  split at scales
  · rename_i number
    obtain ⟨float, -⟩ := number
    match modes, scales with
    | [], scales => cases sample
    | [_], scales => cases scales
    | first :: next :: rest, scales =>
        obtain ⟨text, run, -⟩ := bind_eq_ok.1 scales
        obtain ⟨v?, rendered, -⟩ := bind_eq_ok.1 run
        obtain ⟨x, number, rfl⟩ := Option.map_eq_some_iff.1 sample
        unfold numberIn at number
        split at number
        · rename_i l value
          rw [Token.rendered, value] at rendered
          obtain ⟨v, literal, -⟩ := bind_eq_ok.1 rendered
          cases l with
          | text s => cases number
          | number y =>
              cases number
              simp only [renderLiteral, float] at literal
              obtain ⟨r, round, -⟩ := bind_eq_ok.1 literal
              exact ⟨r, round⟩
          | flag b =>
              cases number
              simp only [renderLiteral, float] at literal
              obtain ⟨r, round, -⟩ := bind_eq_ok.1 literal
              exact ⟨r, round⟩
        · cases number
  · cases scales

/-- What a clampable token gives is found step by step. -/
theorem clampableEntryIn_returns {en : Entrant}
    (rendered : Returns (en.token.rendered o modeId))
    (scaling : en.scaling = true → en.token.columns? = none → ∀ v,
      en.token.rendered o modeId = .ok (some v) →
        Returns (piecewiseEntryOf o modes en.token) ∧
          (piecewiseEntryOf o modes en.token = .ok none →
            Returns (interpolatedEntry o modes en.token v))) :
    Returns (clampableEntryIn o modes modeId en) := by
  unfold clampableEntryIn
  refine rendered.bind fun v? found => ?_
  cases v? with
  | none => exact returns_pure none
  | some v =>
      refine Returns.ite (fun scales => Returns.map ?_ _) fun _ => returns_pure _
      unfold scalingEntry
      cases columns : en.token.columns? with
      | some count => exact returns_ok _
      | none =>
          obtain ⟨pieces, whole⟩ := scaling scales columns v found
          refine pieces.bind fun e? piecewise => ?_
          cases e? with
          | some e => exact returns_pure e
          | none => exact (whole piecewise).map _

theorem interpolatedEntry_returns (value : Returns (Fluid.fluidValue? o t modes))
    (standard : Css.Value Float) : Returns (interpolatedEntry o modes t standard) := by
  unfold interpolatedEntry
  refine value.bind fun r _ => ?_
  rcases r with _ | ⟨form, v⟩
  · exact returns_pure _
  · cases form <;> exact returns_pure _

/-- A token is written relative to the viewport wherever it was written before. -/
theorem Options.carries_withViewport (own : t.property = n) :
    o.Carries (o.withViewport n) modes t := by
  intro modeId en r known run
  have alike := o.withViewport_alikeBut n
  have wants : (o.withViewport n).wantsViewport t.property = true := by
    simp [wantsViewport, withViewport, own]
  obtain ⟨v?, rendered, -⟩ := bind_eq_ok.1 run
  rw [← known.token] at wants
  refine clampableEntryIn_returns ?_ fun scales _ v _ => ⟨?_, fun _ => ?_⟩
  · rw [alike.rendered]
    exact ⟨v?, rendered⟩
  · unfold piecewiseEntryOf
    rw [wants, if_neg (by simp)]
    exact returns_pure none
  · have scaling : en.token.isScaling o modes = .ok true := by
      rw [known.token, known.scaling (Bool.eq_false_iff.2 fun stepped => ?_), scales]
      rw [known.apart stepped] at scales
      cases scales
    have value : Returns (Fluid.fluidValue? (o.withViewport n) en.token modes) := by
      unfold Fluid.fluidValue?
      cases wide : modes.head?.bind (Fluid.sampleIn en.token) with
      | none => exact returns_ok none
      | some p =>
          cases modes.getLast?.bind (Fluid.sampleIn en.token) with
          | none => exact returns_ok none
          | some q =>
              dsimp only
              rw [Fluid.endToEnd, if_pos wants]
              have rounded := Token.roundTo_returns_of_isScaling scaling wide
              exact ((rounded.map _).map _).map _
    exact interpolatedEntry_returns value v

/-! ## One more property interpolated piece by piece -/

theorem Options.keepsViewport_withPieces (o : Options) (n : String) :
    o.KeepsViewport (o.withPieces n) := fun _ wants => wants

/-- A token is interpolated piece by piece wherever it was written before, if its pieces can be
computed. -/
theorem Options.carries_withPieces (pieces : Returns (Fluid.pieces o.desktopFirst t modes)) :
    o.Carries (o.withPieces n) modes t := by
  intro modeId en r known run
  have alike := o.withPieces_alikeBut n
  obtain ⟨v?, rendered, -⟩ := bind_eq_ok.1 run
  refine clampableEntryIn_returns ⟨v?, by rw [alike.rendered, rendered]⟩
    fun scales columns v written => ⟨?_, fun none => ?_⟩
  · unfold piecewiseEntryOf
    refine Returns.ite (fun _ => ?_) fun _ => returns_pure none
    rw [alike.desktopFirst, known.token]
    refine pieces.bind fun ps _ => ?_
    cases ps with
    | nil => exact returns_pure none
    | cons first later => exact Returns.ite (fun _ => returns_pure _) fun _ => returns_pure none
  · -- Where no piece is there now, none was there before, so the whole interpolation was computed.
    have without : piecewiseEntryOf o modes en.token = .ok Option.none := by
      cases wants : o.wantsPieces en.token.property with
      | false =>
          unfold piecewiseEntryOf
          rw [wants]
          rfl
      | true =>
          have same : (o.withPieces n).wantsPieces en.token.property = true := by
            simp only [wantsPieces, withPieces, List.contains_append, Bool.or_eq_true] at wants ⊢
            exact .inl wants
          unfold piecewiseEntryOf at none ⊢
          rw [same, alike.desktopFirst] at none
          rw [wants]
          exact none
    rw [alike.rendered] at written
    obtain ⟨e, rfl⟩ := exists_of_clampableEntryIn ⟨v, written⟩ run
    obtain ⟨v', written', ⟨still, -⟩ | ⟨-, made⟩⟩ := clampableEntryIn_eq_ok run
    · rw [scales] at still
      cases still
    · obtain rfl := Option.some.inj (Except.ok.inj (written.symm.trans written'))
      rw [scalingEntry, columns] at made
      dsimp only at made
      rw [without, ok_bind] at made
      obtain ⟨entry, whole, -⟩ := bind_eq_ok.1 made
      exact ⟨entry, whole⟩

end TokenSheet
