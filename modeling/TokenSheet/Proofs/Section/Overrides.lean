import TokenSheet.Proofs.Css.Besides
import TokenSheet.Proofs.Section.Declared
import TokenSheet.Proofs.Section.Fallback
import TokenSheet.Proofs.Section.Proportions

/-!
Overrides do not reach further than the property that they name.

Two options that differ in the overrides of one property treat all other tokens alike, so their runs
over one collection can be compared step by step. The tokens of the property keep their entries,
which may be written in another way, and change what they add to shared blocks: pieces, and the
guarded block. Apart from the property each block holds the same declarations in the same order
(`Section.AlikeBut`).
-/

namespace TokenSheet

open Css (Entry Block Declaration MediaBlock Written Circumstance)

variable {o o' : Options} {gate : Gate} {tokens : List Token} {modes : List Mode} {t : Token}
  {modeId n : String} {c : Collection}

/-! ## Options -/

/-- Options that differ at most in the overrides of one property. -/
structure Options.AlikeBut (n : String) (o o' : Options) : Prop where
  rest : o' = { o with viewportRelative := o'.viewportRelative, piecewise := o'.piecewise }
  viewport : ∀ p, p ≠ n → o'.wantsViewport p = o.wantsViewport p
  pieces : ∀ p, p ≠ n → o'.wantsPieces p = o.wantsPieces p

/-- The options with one more property written relative to the viewport. -/
def Options.withViewport (o : Options) (n : String) : Options :=
  { o with viewportRelative := o.viewportRelative ++ [n] }

/-- The options with one more property interpolated piece by piece. -/
def Options.withPieces (o : Options) (n : String) : Options :=
  { o with piecewise := o.piecewise ++ [n] }

theorem Options.withViewport_alikeBut (o : Options) (n : String) :
    o.AlikeBut n (o.withViewport n) where
  rest := rfl
  viewport p other := by simp [wantsViewport, withViewport, other]
  pieces _ _ := rfl

theorem Options.withPieces_alikeBut (o : Options) (n : String) : o.AlikeBut n (o.withPieces n) where
  rest := rfl
  viewport _ _ := rfl
  pieces p other := by simp [wantsPieces, withPieces, other]

namespace Options.AlikeBut

section
variable (h : o.AlikeBut n o')

include h

/-! ### What does not read the overrides -/

theorem desktopFirst : o'.desktopFirst = o.desktopFirst := by
  rw [h.rest]
  rfl

theorem legacyFallbacks : o'.legacyFallbacks = o.legacyFallbacks := by
  rw [h.rest]

theorem references : o'.references = o.references := by
  rw [h.rest]

theorem rendered (t : Token) : t.rendered o' = t.rendered o :=
  t.rendered_congr h.references

theorem varies (t : Token) : t.varies o' modes = t.varies o modes :=
  t.varies_congr h.references

theorem ofToken : Entrant.ofToken o' modes = Entrant.ofToken o modes :=
  Entrant.ofToken_congr h.references

theorem entrantOf {en : Entrant} (known : EntrantOf o modes t en) : EntrantOf o' modes t en where
  token := known.token
  stepped := by rw [← known.stepped, Token.isStepped, h.varies, Token.isStepped]
  scaling still := by rw [← known.scaling still, Token.isScaling, h.varies, Token.isScaling]
  apart := known.apart

theorem plainEntryIn : plainEntryIn o' modeId = TokenSheet.plainEntryIn o modeId := by
  rw [h.rest]
  rfl

theorem modeDeclarations : modeDeclarations o' = TokenSheet.modeDeclarations o := by
  rw [h.rest]
  rfl

theorem mediaBlocks : mediaBlocks o' = TokenSheet.mediaBlocks o := by
  rw [h.rest]
  rfl

theorem isFluid : c.IsFluid o' ↔ c.IsFluid o := by
  rw [h.rest]
  rfl

/-- Only fluid sections read the overrides. -/
theorem draftOf (notFluid : ¬ c.IsFluid o) :
    draftOf o' gate c tokens = TokenSheet.draftOf o gate c tokens := by
  have notFluid' : ¬ c.IsFluid o' := fun fluid => notFluid (h.isFluid.1 fluid)
  cases kind : c.kind with
  | breakpoint =>
      rw [draftOf_of_stepped kind notFluid, draftOf_of_stepped kind notFluid', h.rest]
      rfl
  | theme =>
      rw [TokenSheet.draftOf, TokenSheet.draftOf, kind, h.rest]
      rfl
  | single =>
      rw [TokenSheet.draftOf, TokenSheet.draftOf, kind, h.rest]
      rfl

/-! ### Tokens of other properties -/

theorem fluidValue? (other : t.property ≠ n) :
    Fluid.fluidValue? o' t modes = Fluid.fluidValue? o t modes := by
  unfold Fluid.fluidValue? Fluid.endToEnd
  rw [h.viewport t.property other]

theorem piecewiseEntryOf (other : t.property ≠ n) :
    piecewiseEntryOf o' modes t = TokenSheet.piecewiseEntryOf o modes t := by
  unfold TokenSheet.piecewiseEntryOf
  rw [h.viewport t.property other, h.pieces t.property other, h.desktopFirst]

theorem clampableEntryIn {en : Entrant} (other : en.token.property ≠ n) :
    clampableEntryIn o' modes modeId en = TokenSheet.clampableEntryIn o modes modeId en := by
  unfold TokenSheet.clampableEntryIn scalingEntry interpolatedEntry
  rw [h.rendered, h.piecewiseEntryOf other, h.fluidValue? other]

theorem needsFallback {declared : List String} {en : Entrant} (other : en.token.property ≠ n) :
    needsFallback o' declared en = TokenSheet.needsFallback o declared en := by
  unfold TokenSheet.needsFallback
  rw [h.viewport en.token.property other]

end

end Options.AlikeBut

/-! ## Entries -/

/-- An entry that declares a property and nothing else. -/
def Css.Entry.OnlyDeclares (n : String) (e : Entry) : Prop :=
  ∃ text, e.declared = [(n, text)]

/-- Entries of one token that differ at most in what they declare for one property. -/
def Css.Entry.AlikeBut (n : String) (e e' : Entry) : Prop :=
  e' = e ∨ e'.key = e.key ∧ e.OnlyDeclares n ∧ e'.OnlyDeclares n

theorem Css.Entry.AlikeBut.key {e e' : Entry} (h : e.AlikeBut n e') : e'.key = e.key := by
  rcases h with rfl | ⟨same, -, -⟩
  · rfl
  · exact same

theorem Css.Entry.OnlyDeclares.property {e : Entry} (h : e.OnlyDeclares n) : e.property = n := by
  obtain ⟨text, only⟩ := h
  obtain ⟨id, property, form⟩ := e
  cases form with
  | proportion columns => cases only
  | plain v => exact (Prod.mk.inj (List.cons.inj only).1).1
  | piecewise count v => exact (Prod.mk.inj (List.cons.inj only).1).1
  | viewport v => exact (Prod.mk.inj (List.cons.inj only).1).1

/-- Fluid entries that differ at most in what they declare for one property, in the default block
and in the blocks of pieces. -/
structure FluidEntry.AlikeBut (n : String) (e e' : FluidEntry) : Prop where
  entry : e.entry.AlikeBut n e'.entry
  later : e'.laterPieces.filter (·.declaration.property != n) =
    e.laterPieces.filter (·.declaration.property != n)

theorem FluidEntry.AlikeBut.refl (n : String) (e : FluidEntry) : e.AlikeBut n e :=
  ⟨.inl rfl, rfl⟩

/-- All pieces of an entry declare its property. -/
theorem FluidEntry.laterPieces_filter {e : FluidEntry} (property : e.entry.property = n) :
    e.laterPieces.filter (·.declaration.property != n) = [] := by
  refine List.filter_eq_nil_iff.2 fun p mem => ?_
  obtain ⟨q, -, made⟩ := List.mem_filterMap.1 mem
  obtain ⟨condition, -, rfl⟩ := Option.map_eq_some_iff.1 made
  simp [property]

/-- A token that is written under both options has entries that are alike. -/
theorem clampableEntryIn_alikeBut (h : o.AlikeBut n o') {en : Entrant}
    (known : EntrantOf o modes en.token en) (known' : EntrantOf o' modes en.token en)
    {r r' : Option FluidEntry} (run : clampableEntryIn o modes modeId en = .ok r)
    (run' : clampableEntryIn o' modes modeId en = .ok r') :
    Option.Rel (FluidEntry.AlikeBut n) r r' := by
  by_cases own : en.token.property = n
  · cases r with
    | none =>
        cases r' with
        | none => exact .none
        | some e' =>
            obtain ⟨v, rendered, -⟩ := clampableEntryIn_eq_ok run'
            rw [h.rendered] at rendered
            obtain ⟨e, found⟩ := exists_of_clampableEntryIn ⟨v, rendered⟩ run
            cases found
    | some e =>
        obtain ⟨v, rendered, -⟩ := clampableEntryIn_eq_ok run
        obtain ⟨e', rfl⟩ := exists_of_clampableEntryIn
          ⟨v, by rw [h.rendered]; exact rendered⟩ run'
        refine .some ?_
        cases columns : en.token.columns? with
        | some count =>
            -- A proportion has one form, whatever the overrides are.
            obtain ⟨v, rendered, rfl⟩ := clampableEntryIn_of_columns columns run
            obtain ⟨v', rendered', rfl⟩ := clampableEntryIn_of_columns columns run'
            rw [h.rendered] at rendered'
            rw [Option.some.inj (Except.ok.inj (rendered'.symm.trans rendered))]
            exact .refl n _
        | none =>
            have entry := (fluidEntryFor_of_clampableEntryIn known run).entry
            have entry' := (fluidEntryFor_of_clampableEntryIn known' run').entry
            have only := own ▸ declared_of_clampableEntryIn run columns
            have only' := own ▸ declared_of_clampableEntryIn run' columns
            refine ⟨.inr ⟨entry'.key.symm.trans entry.key, only, only'⟩, ?_⟩
            rw [FluidEntry.laterPieces_filter (entry.property.trans own),
              FluidEntry.laterPieces_filter (entry'.property.trans own)]
  · rw [h.clampableEntryIn own, run] at run'
    rw [← Except.ok.inj run']
    cases r with
    | none => exact .none
    | some e => exact .some (.refl n e)

/-! ## Blocks -/

section
variable {k : Circumstance}

theorem Css.besides_entries {es es' : List Entry} (h : List.Forall₂ (Entry.AlikeBut n) es es') :
    besides n k (es'.flatMap Entry.written) = besides n k (es.flatMap Entry.written) := by
  have own {e : Entry} (only : e.OnlyDeclares n) : besides n k e.written = [] := by
    obtain ⟨text, only⟩ := only
    rw [Entry.written, only]
    exact besides_eq_nil (List.forall_mem_singleton.2 (.inl rfl))
  rw [besides_flatMap, besides_flatMap]
  refine flatMap_eq_of_forall₂ h fun e e' alike => ?_
  rcases alike with rfl | ⟨-, only, only'⟩
  · rfl
  · rw [own only, own only']

/-- What is written for a piece. -/
def LaterPiece.written (p : LaterPiece) : Written :=
  ⟨.media p.condition, p.declaration.property, p.declaration.value.text⟩

theorem laterPieces_filter (es : List FluidEntry) :
    (laterPieces es).filter (·.declaration.property != n) =
      es.flatMap fun e => e.laterPieces.filter (·.declaration.property != n) :=
  List.filter_flatMap

/-- Under given circumstances the blocks of pieces write what the pieces write one by one. -/
theorem Css.besides_pieceBlocks (ps : List LaterPiece) :
    besides n k (((pieceBlocks ps).map fun b => Block.pieces b.1 b.2).flatMap Block.written) =
      besides n k (ps.map LaterPiece.written) := by
  have block (c : Css.Condition) :
      writtenFor (.media c) ((ps.filter fun p => p.condition = c).map (·.declaration)) =
        (ps.filter fun p => p.condition = c).map LaterPiece.written := by
    unfold writtenFor
    rw [List.map_map]
    refine List.map_congr_left fun p mem => ?_
    obtain ⟨-, here⟩ := List.mem_filter.1 mem
    rw [LaterPiece.written, of_decide_eq_true here]
    rfl
  simp only [pieceBlocks_written, block]
  rw [besides_flatMap]
  by_cases used : ∃ p ∈ ps, Circumstance.media p.condition = k
  · -- Of all conditions the one of the circumstances is the only one that counts.
    obtain ⟨p, mem, rfl⟩ := used
    have listed : p.condition ∈ (ps.map (·.condition)).eraseDups :=
      List.mem_eraseDups.2 (List.mem_map_of_mem mem)
    rw [flatMap_of_only (eraseDups_nodup _) listed fun c _ other => ?_]
    · unfold besides
      rw [List.filter_map, List.filter_map, List.filter_filter]
      congr 1
      refine List.filter_congr fun q _ => ?_
      simp only [Function.comp_apply, LaterPiece.written, Circumstance.media.injEq]
      cases decide (q.condition = p.condition) <;> simp
    · refine besides_eq_nil fun d mem => .inr fun same => other ?_
      obtain ⟨q, inside, rfl⟩ := List.mem_map.1 mem
      obtain ⟨-, here⟩ := List.mem_filter.1 inside
      rw [← of_decide_eq_true here]
      exact Circumstance.media.inj same
  · have unused {d : Written} (mem : d ∈ ps.map LaterPiece.written) : d.circumstance ≠ k := by
      obtain ⟨p, inside, rfl⟩ := List.mem_map.1 mem
      exact fun same => used ⟨p, inside, same⟩
    rw [besides_eq_nil fun d mem => .inr (unused mem)]
    refine List.flatMap_eq_nil_iff.2 fun c _ => besides_eq_nil fun d mem => .inr (unused ?_)
    exact List.map_subset _ (List.filter_subset_self _) mem

/-- Pieces that are the same but for one property are written alike. -/
theorem Css.besides_pieces_congr {ps ps' : List LaterPiece}
    (same : ps'.filter (·.declaration.property != n) = ps.filter (·.declaration.property != n)) :
    besides n k (ps'.map LaterPiece.written) = besides n k (ps.map LaterPiece.written) := by
  rw [← besides_filter (ps'.map LaterPiece.written), ← besides_filter (ps.map LaterPiece.written),
    List.filter_map, List.filter_map]
  exact congrArg (fun qs => besides n k (qs.map LaterPiece.written)) same

/-- Declarations of other properties in a mode are those of other tokens. -/
theorem stepDeclarations_filter {declared : List String} {m : Mode}
    (made : modeDeclarations o declared tokens m = .ok (stepDeclarations o declared tokens m)) :
    (stepDeclarations o declared tokens m).filter (·.property != n) =
      stepDeclarations o declared (tokens.filter (·.property != n)) m := by
  have others : modeDeclarations o declared (tokens.filter (·.property != n)) m =
      .ok ((stepDeclarations o declared tokens m).filter (·.property != n)) := by
    unfold modeDeclarations at made ⊢
    rw [List.filter_comm]
    refine filterMapM_filter made fun t _ d writes => ?_
    obtain ⟨-, v, -, rfl⟩ := declaration?_eq_ok.1 writes
    rfl
  conv_rhs => rw [stepDeclarations, others]
  rfl

/-- The tokens of entrants whose values are repeated in the guarded block. -/
def guardedTokens (o : Options) (declared : List String) (es : List Entrant) : List Token :=
  (es.filter (needsFallback o declared)).map (·.token)

/-- The guarded block writes what each mode declares. -/
theorem fallbackBlocks_written {declared : List String} {es : List Entrant} {bs : List Block}
    (asked : o.legacyFallbacks = true) (run : fallbackBlocks o modes declared es = .ok bs) :
    (∀ p ∈ Mode.transitions o.desktopFirst modes,
      modeDeclarations o declared (guardedTokens o declared es) p.2 =
        .ok (stepDeclarations o declared (guardedTokens o declared es) p.2)) ∧
      bs.flatMap Block.written = (Mode.transitions o.desktopFirst modes).flatMap fun p =>
        Css.writtenFor (.fallback p.1)
          (stepDeclarations o declared (guardedTokens o declared es) p.2) := by
  rw [fallbackBlocks, if_pos asked] at run
  obtain ⟨guarded, blocks, done⟩ := bind_eq_ok.1 run
  obtain ⟨steps, written⟩ := blocks_written Css.MediaBlock.mk blocks
  refine ⟨steps, ?_⟩
  have all : bs.flatMap Block.written = guarded.flatMap fun b =>
      Css.writtenFor (.fallback b.condition) b.declarations := by
    rw [← pure_eq_ok.1 done]
    cases guarded with
    | nil => rfl
    | cons b rest => exact List.flatMap_singleton ..
  rw [all]
  exact written _ fun _ => rfl

/-- Under options that are alike the guarded block repeats the same tokens of other properties. -/
theorem Options.AlikeBut.guardedTokens (h : o.AlikeBut n o') (declared : List String)
    (es : List Entrant) :
    (guardedTokens o' declared es).filter (·.property != n) =
      (TokenSheet.guardedTokens o declared es).filter (·.property != n) := by
  unfold TokenSheet.guardedTokens
  rw [List.filter_map, List.filter_map, List.filter_filter, List.filter_filter]
  congr 1
  refine List.filter_congr fun en _ => ?_
  by_cases own : en.token.property = n
  · simp [own]
  · rw [h.needsFallback own]

/-- The guarded blocks that two options make for the same entrants are alike. -/
theorem fallbackBlocks_alikeBut (h : o.AlikeBut n o') {declared : List String} {es : List Entrant}
    {bs bs' : List Block} (run : fallbackBlocks o modes declared es = .ok bs)
    (run' : fallbackBlocks o' modes declared es = .ok bs') :
    Css.besides n k (bs'.flatMap Block.written) = Css.besides n k (bs.flatMap Block.written) := by
  have same := h.legacyFallbacks
  cases asked : o.legacyFallbacks with
  | false =>
      rw [asked] at same
      rw [fallbackBlocks, asked] at run
      rw [fallbackBlocks, same] at run'
      rw [← Except.ok.inj run, ← Except.ok.inj run']
  | true =>
      obtain ⟨steps, written⟩ := fallbackBlocks_written asked run
      obtain ⟨steps', written'⟩ := fallbackBlocks_written (same.trans asked) run'
      rw [written, written', h.desktopFirst, Css.besides_flatMap, Css.besides_flatMap]
      rw [h.desktopFirst] at steps'
      refine List.flatMap_congr fun p mem => ?_
      rw [← Css.besides_writtenFor, stepDeclarations_filter (steps' p mem), h.guardedTokens,
        ← Css.besides_writtenFor (k := k) _ (stepDeclarations o _ _ _),
        stepDeclarations_filter (steps p mem), stepDeclarations, stepDeclarations,
        h.modeDeclarations]

end

/-! ## Fluid sections -/

/-- Drafts that differ at most in what they declare for one property. -/
structure Draft.AlikeBut (n : String) (d d' : Draft) : Prop where
  entries : List.Forall₂ (Entry.AlikeBut n) d.entries d'.entries
  blocks : ∀ k, Css.besides n k (d'.blocks.flatMap Block.written) =
    Css.besides n k (d.blocks.flatMap Block.written)
  advice : d'.advice = d.advice

theorem Draft.AlikeBut.refl (n : String) (d : Draft) : d.AlikeBut n d :=
  ⟨List.forall₂_same.2 fun _ _ => .inl rfl, fun _ => rfl, rfl⟩

/-- Entries that are alike declare the same tokens. -/
theorem declaredIds_alikeBut {growing growing' : List FluidEntry} (fixed : List Entry)
    (grown : List.Forall₂ (FluidEntry.AlikeBut n) growing growing') :
    declaredIds (growing'.map (·.entry) ++ fixed) =
      declaredIds (growing.map (·.entry) ++ fixed) := by
  simp only [declaredIds, List.map_append, List.map_map]
  congr 1
  exact map_eq_of_forall₂ grown fun e e' alike => (Prod.mk.inj alike.entry.key).1

/-- What clampable entrants give under two options is alike. -/
theorem grown_alikeBut (h : o.AlikeBut n o') {entrants : List Entrant}
    (known : ∀ en ∈ entrants, EntrantOf o modes en.token en) {growing growing' : List FluidEntry}
    (grow : (clampable entrants).filterMapM (clampableEntryIn o modes modeId) = .ok growing)
    (grow' : (clampable entrants).filterMapM (clampableEntryIn o' modes modeId) = .ok growing') :
    List.Forall₂ (FluidEntry.AlikeBut n) growing growing' := by
  refine forall₂_of_filterMapM grow grow' fun en mem r r' run run' => ?_
  have known := known en (mem_clampable.1 mem).1
  exact clampableEntryIn_alikeBut h known (h.entrantOf known) run run'

/-- The fluid sections that two options make of one collection are alike. -/
theorem fluidDraft_alikeBut (h : o.AlikeBut n o') {d d' : Draft}
    (run : fluidDraft o gate modes tokens = .ok d)
    (run' : fluidDraft o' gate modes tokens = .ok d') : d.AlikeBut n d' := by
  cases modes with
  | nil =>
      cases run
      cases run'
      exact .refl n _
  | cons widest rest =>
      obtain ⟨standard, default⟩ := Mode.default?_isSome o.desktopFirst (List.cons_ne_nil widest rest)
      have default' := default
      rw [← h.desktopFirst] at default'
      obtain ⟨entrants, growing, fixed, media, fallback, steps, rfl⟩ :=
        (fluidDraft_iff_steps (List.head?_cons ..) default).1 run
      obtain ⟨entrants', growing', fixed', media', fallback', steps', rfl⟩ :=
        (fluidDraft_iff_steps (List.head?_cons ..) default').1 run'
      -- The overrides are read first when the clampable entrants are written.
      obtain rfl : entrants' = entrants := by
        have enter' := steps'.enter
        rw [h.ofToken, steps.enter] at enter'
        exact (Except.ok.inj enter').symm
      obtain rfl : fixed' = fixed := by
        have stay' := steps'.stay
        rw [h.plainEntryIn, steps.stay] at stay'
        exact (Except.ok.inj stay').symm
      have grown := grown_alikeBut h (fun en mem => (steps.entrantOf_of_mem mem).2) steps.grow
        steps'.grow
      have declared := declaredIds_alikeBut fixed' grown
      obtain rfl : media' = media := by
        have step' := steps'.step
        rw [h.mediaBlocks, h.desktopFirst, declared, steps.step] at step'
        exact (Except.ok.inj step').symm
      refine ⟨?_, fun k => ?_, rfl⟩
      · refine List.rel_append ?_ (List.forall₂_same.2 fun _ _ => .inl rfl)
        exact List.forall₂_map_left_iff.2 (List.forall₂_map_right_iff.2
          (grown.imp fun _ _ alike => alike.entry))
      · have pieces : (laterPieces growing').filter (·.declaration.property != n) =
            (laterPieces growing).filter (·.declaration.property != n) := by
          rw [laterPieces_filter, laterPieces_filter]
          exact flatMap_eq_of_forall₂ grown fun _ _ alike => alike.later
        have guard' := steps'.guard
        rw [declared] at guard'
        dsimp only
        simp only [List.flatMap_append, Css.besides_append]
        rw [Css.besides_pieceBlocks, Css.besides_pieceBlocks, Css.besides_pieces_congr pieces,
          fallbackBlocks_alikeBut h steps.guard guard']

/-! ## All sections -/

/-- Sections that differ at most in what they declare for one property: each token has its entry in
both, apart from the property the same declarations stand in the same order under all circumstances,
and the advice is the same. -/
structure Section.AlikeBut (n : String) (s s' : Section) : Prop where
  title : s'.title = s.title
  entries : List.Forall₂ (Entry.AlikeBut n) s.entries s'.entries
  written : ∀ k, Css.besides n k s'.written = Css.besides n k s.written
  advice : s'.advice = s.advice

theorem Section.AlikeBut.properties {s s' : Section} (h : s.AlikeBut n s') :
    s'.properties = s.properties :=
  map_eq_of_forall₂ h.entries fun _ _ alike => (Prod.mk.inj alike.key).2

/-- The sections that two options make of one collection are alike. -/
theorem sectionOf_alikeBut (h : o.AlikeBut n o') {s s' : Section}
    (run : sectionOf o gate c tokens = .ok s) (run' : sectionOf o' gate c tokens = .ok s') :
    s.AlikeBut n s' := by
  obtain ⟨d, draft, rfl⟩ := exists_draft_of_sectionOf run
  obtain ⟨d', draft', rfl⟩ := exists_draft_of_sectionOf run'
  have alike : d.AlikeBut n d' := by
    by_cases fluid : c.IsFluid o
    · rw [draftOf_of_isFluid fluid] at draft
      rw [draftOf_of_isFluid (h.isFluid.2 fluid)] at draft'
      exact fluidDraft_alikeBut h draft draft'
    · rw [h.draftOf fluid, draft] at draft'
      rw [Except.ok.inj draft']
      exact .refl n d'
  refine ⟨rfl, alike.entries, fun k => ?_, alike.advice⟩
  rw [Section.written, Section.written, Css.besides_append, Css.besides_append,
    Css.besides_entries alike.entries, alike.blocks k]

end TokenSheet
