import TokenSheet.Proofs.Css.Widths
import TokenSheet.Proofs.Lists
import TokenSheet.Proofs.Lockstep
import TokenSheet.Stylesheet.Emission

/-!
Tokens with their values in another order.

A section asks a token for its value in a mode, and whether any of its values is a reference. Tokens
that answer alike and agree on all else (`Token.Alike`) are therefore admitted, rendered, stepped
and interpolated alike, and lists of them make the same drafts. Only advice on tokens that stray
from a line holds the token itself.
-/

namespace TokenSheet

/-- Tokens that differ at most in the order of their values. -/
structure Token.Alike (t t' : Token) : Prop where
  rest : t' = { t with values := t'.values }
  valueIn : t'.valueIn = t.valueIn
  hasReference : t'.hasReference = t.hasReference

variable {o : Options} {t t' : Token} {ts ts' : List Token} {modes : List Mode}

namespace Token

section
variable (h : t.Alike t')

include h

namespace Alike

/-! ## What does not read the values -/

theorem id : t'.id = t.id := by
  rw [h.rest]

theorem property : t'.property = t.property := by
  rw [h.rest]

theorem name : t'.name = t.name := by
  rw [h.rest]

theorem kind : t'.kind = t.kind := by
  rw [h.rest]

theorem columns? : t'.columns? = t.columns? := by
  rw [Token.columns?, h.name, Token.columns?]

theorem viewportHint? : t'.viewportHint? = t.viewportHint? := by
  rw [h.rest]
  rfl

theorem unit : t'.unit = t.unit := by
  rw [Token.unit, h.name, h.property, Token.unit]

theorem isOwnReference : t'.isOwnReference = t.isOwnReference := by
  rw [h.rest]
  rfl

theorem isSkipped : t'.isSkipped = t.isSkipped := by
  rw [h.rest]
  rfl

theorem render : t'.render o = t.render o := by
  rw [h.rest]
  rfl

/-! ## What reads the values of single modes -/

theorem rendered : t'.rendered o = t.rendered o := by
  funext m
  rw [Token.rendered, h.valueIn, h.render, Token.rendered]

theorem renderedText : t'.renderedText o = t.renderedText o := by
  funext m
  rw [Token.renderedText, h.rendered, Token.renderedText]

theorem differsFrom (text : Option String) :
    t'.differsFrom o text modes = t.differsFrom o text modes := by
  induction modes with
  | nil => rfl
  | cons m rest ih =>
      rw [Token.differsFrom, h.valueIn, h.renderedText, ih, Token.differsFrom]

theorem varies : t'.varies o modes = t.varies o modes := by
  match modes with
  | [] => rfl
  | [_] => rfl
  | first :: next :: rest => simp only [Token.varies, h.renderedText, h.differsFrom]

theorem refersIn : t'.refersIn modes = t.refersIn modes := by
  rw [Token.refersIn, h.valueIn, Token.refersIn]

theorem isStepped : t'.isStepped o modes = t.isStepped o modes := by
  rw [Token.isStepped, h.varies, h.kind, h.refersIn, Token.isStepped]

theorem isScaling : t'.isScaling o modes = t.isScaling o modes := by
  rw [Token.isScaling, h.varies, h.kind, h.hasReference, Token.isScaling]

theorem numberIn : t'.numberIn = t.numberIn := by
  funext m
  rw [Token.numberIn, h.valueIn, Token.numberIn]

/-! ## Interpolations -/

theorem sampleIn : Fluid.sampleIn t' = Fluid.sampleIn t := by
  funext m
  rw [Fluid.sampleIn, h.numberIn, Fluid.sampleIn]

theorem fluidValue? : Fluid.fluidValue? o t' modes = Fluid.fluidValue? o t modes := by
  simp only [Fluid.fluidValue?, Fluid.endToEnd, h.sampleIn, h.property, h.unit]

theorem piecesFrom (condition : Mode → Css.Condition) (condition? : Option Css.Condition) :
    Fluid.piecesFrom condition t' condition? modes =
      Fluid.piecesFrom condition t condition? modes := by
  induction modes generalizing condition? with
  | nil => rfl
  | cons first rest ih =>
      cases rest with
      | nil => rfl
      | cons last rest => simp only [Fluid.piecesFrom, h.sampleIn, h.unit, ih]

theorem pieces (desktopFirst : Bool) :
    Fluid.pieces desktopFirst t' modes = Fluid.pieces desktopFirst t modes := by
  simp only [Fluid.pieces, h.piecesFrom]

theorem profileOf? : Fluid.profileOf? t' modes = Fluid.profileOf? t modes := by
  simp only [Fluid.profileOf?, h.kind, h.numberIn]

/-! ## Entries and declarations -/

theorem plainEntryIn (modeId : String) :
    TokenSheet.plainEntryIn o modeId t' = TokenSheet.plainEntryIn o modeId t := by
  simp only [TokenSheet.plainEntryIn, h.rendered, h.id, h.property]

theorem declaration? (modeId : String) :
    TokenSheet.declaration? o modeId t' = TokenSheet.declaration? o modeId t := by
  simp only [TokenSheet.declaration?, h.isOwnReference, h.valueIn, h.rendered, h.property]

theorem proportionEntry : TokenSheet.proportionEntry t' = TokenSheet.proportionEntry t := by
  funext columns
  rw [TokenSheet.proportionEntry, h.id, h.property, TokenSheet.proportionEntry]

theorem steppedEntryIn (modeId : String) :
    TokenSheet.steppedEntryIn o modeId t' = TokenSheet.steppedEntryIn o modeId t := by
  simp only [TokenSheet.steppedEntryIn, h.columns?, h.proportionEntry, h.plainEntryIn]

theorem scalingEntry (standard : Css.Value Float) :
    TokenSheet.scalingEntry o modes t' standard = TokenSheet.scalingEntry o modes t standard := by
  simp only [TokenSheet.scalingEntry, piecewiseEntryOf, interpolatedEntry, h.columns?,
    h.proportionEntry, h.property, h.id, h.pieces, h.fluidValue?]

end Alike

end

end Token

/-! ## Lists of tokens -/

section
variable (alike : List.Forall₂ Token.Alike ts ts')

include alike

theorem admitted_alike (modeId : String) (gate : Gate) :
    List.Forall₂ Token.Alike (admitted modeId gate ts) (admitted modeId gate ts') := by
  induction alike generalizing gate with
  | nil => exact .nil
  | @cons t t' ts ts' first _ ih =>
      rw [admitted, admitted, first.valueIn, first.isSkipped, first.property]
      cases t.valueIn modeId with
      | none => exact ih gate
      | some v =>
          by_cases skipped : t.isSkipped (some v) gate.taken gate.reserved
          · simp only [skipped, if_true]
            exact ih gate
          · simp only [skipped]
            exact .cons first (ih _)

theorem modeDeclarations_alike (declared : List String) (m : Mode) :
    modeDeclarations o declared ts' m = modeDeclarations o declared ts m := by
  refine filterMapM_congr (forall₂_filter alike fun t t' h => ?_) fun t t' h => h.declaration? m.id
  rw [h.id]

theorem mediaBlocks_alike (declared : List String) (transitions : List (Css.Condition × Mode)) :
    mediaBlocks o declared ts' transitions = mediaBlocks o declared ts transitions := by
  simp only [mediaBlocks, modeDeclarations_alike alike]

theorem plainEntries_alike (modeId : String) :
    ts'.filterMapM (plainEntryIn o modeId) = ts.filterMapM (plainEntryIn o modeId) :=
  filterMapM_congr alike fun _ _ h => h.plainEntryIn modeId

theorem admittedEntries_alike (modeId : String) (gate : Gate) :
    (admitted modeId gate ts').filterMapM (plainEntryIn o modeId) =
      (admitted modeId gate ts).filterMapM (plainEntryIn o modeId) :=
  plainEntries_alike (admitted_alike alike modeId gate) modeId

theorem flatDraft_alike (gate : Gate) (c : Collection) :
    flatDraft o gate c ts' = flatDraft o gate c ts := by
  simp only [flatDraft, admittedEntries_alike alike]

theorem themedDraft_alike (gate : Gate) (c : Collection) :
    themedDraft o gate c ts' = themedDraft o gate c ts := by
  simp only [themedDraft, admittedEntries_alike alike, pairBlocks, furtherBlocks, themeBlocks,
    themeBlock?, modeDeclarations_alike alike]

theorem steppedDraft_alike (gate : Gate) (modes : List Mode) :
    steppedDraft o gate modes ts' = steppedDraft o gate modes ts := by
  have entries (m : Mode) := filterMapM_congr (admitted_alike alike m.id gate) fun _ _ h =>
    h.steppedEntryIn (o := o) m.id
  have proportions (m : Mode) : ((admitted m.id gate ts').filter (·.columns?.isSome)).map (·.id) =
      ((admitted m.id gate ts).filter (·.columns?.isSome)).map (·.id) :=
    map_eq_of_forall₂ (forall₂_filter (admitted_alike alike m.id gate) fun _ _ h => by
      rw [h.columns?]) fun _ _ h => h.id
  simp only [steppedDraft, entries, proportions, mediaBlocks_alike alike]

end

/-! ## Advice -/

/-- Pieces of advice that say the same, perhaps about tokens with their values in another order. -/
inductive Advice.Alike : Advice → Advice → Prop
  | refl (a : Advice) : Advice.Alike a a
  | nonLinear {t t' : Token} (h : t.Alike t') (p : Fluid.Profile Float) :
      Advice.Alike (.nonLinear t p) (.nonLinear t' p)

/-- Drafts that are the same but for tokens held by their advice. -/
structure Draft.Alike (d d' : Draft) : Prop where
  entries : d'.entries = d.entries
  blocks : d'.blocks = d.blocks
  advice : List.Forall₂ Advice.Alike d.advice d'.advice

theorem Advice.forall₂_refl (as : List Advice) : List.Forall₂ Advice.Alike as as :=
  List.forall₂_same.2 fun a _ => .refl a

theorem Draft.Alike.refl (d : Draft) : d.Alike d := ⟨rfl, rfl, Advice.forall₂_refl d.advice⟩

theorem Token.Alike.advice (h : t.Alike t') :
    Lockstep (List.Forall₂ Advice.Alike) (t.advice modes) (t'.advice modes) := by
  unfold Token.advice
  rw [h.viewportHint?, h.columns?, h.property, h.name, h.profileOf?]
  have onLine (profile? : Option (Fluid.Profile Float)) : List.Forall₂ Advice.Alike
      (profile?.map (Advice.nonLinear t)).toList (profile?.map (Advice.nonLinear t')).toList := by
    cases profile? with
    | none => exact .nil
    | some p => exact .cons (.nonLinear h p) .nil
  dsimp only
  split
  · exact .bind_same fun profile? => .ok (List.rel_append (Advice.forall₂_refl _) (onLine profile?))
  · exact .ok (List.rel_append (Advice.forall₂_refl _) (onLine none))

/-! ## Fluid sections -/

/-- Entrants that are treated alike. -/
structure Entrant.Alike (e e' : Entrant) : Prop where
  token : e.token.Alike e'.token
  stepped : e'.stepped = e.stepped
  scaling : e'.scaling = e.scaling
  advice : List.Forall₂ Advice.Alike e.advice e'.advice

theorem Token.Alike.entrant (h : t.Alike t') :
    Lockstep Entrant.Alike (Entrant.ofToken o modes t) (Entrant.ofToken o modes t') := by
  unfold Entrant.ofToken
  rw [h.isStepped, h.isScaling]
  refine .bind_same fun stepped => ?_
  split
  · exact .ok ⟨h, rfl, rfl, .nil⟩
  · refine .bind_same fun scaling => ?_
    split
    · exact h.advice.map fun _ _ advice => ⟨h, rfl, rfl, advice⟩
    · exact .ok ⟨h, rfl, rfl, .nil⟩

theorem Entrant.Alike.entry {e e' : Entrant} (h : e.Alike e') (standardId : String) :
    clampableEntryIn o modes standardId e' = clampableEntryIn o modes standardId e := by
  simp only [clampableEntryIn, h.token.rendered, h.scaling, h.token.scalingEntry, h.token.id,
    h.token.property]

section
variable {es es' : List Entrant} (alike : List.Forall₂ Entrant.Alike es es')

include alike

theorem clampable_alike : List.Forall₂ Entrant.Alike (clampable es) (clampable es') :=
  forall₂_filter alike fun e e' h => by rw [h.stepped]

theorem mediaDriven_alike : List.Forall₂ Token.Alike (mediaDriven es) (mediaDriven es') :=
  List.rel_map (fun _ _ h => h.token) (forall₂_filter alike fun e e' h => by rw [h.stepped])

theorem fallbackBlocks_alike (declared : List String) :
    fallbackBlocks o modes declared es' = fallbackBlocks o modes declared es := by
  have tokens : List.Forall₂ Token.Alike ((es.filter (needsFallback o declared)).map (·.token))
      ((es'.filter (needsFallback o declared)).map (·.token)) := by
    refine List.rel_map (fun _ _ h => h.token) (forall₂_filter alike fun e e' h => ?_)
    rw [needsFallback, h.token.id, h.scaling, h.token.columns?, h.token.property, needsFallback]
  simp only [fallbackBlocks, mediaBlocks_alike tokens]

end

theorem fluidDraft_alike (alike : List.Forall₂ Token.Alike ts ts') (gate : Gate) :
    Lockstep Draft.Alike (fluidDraft o gate modes ts) (fluidDraft o gate modes ts') := by
  unfold fluidDraft
  cases modes.head? with
  | none => exact .ok (.refl _)
  | some widest =>
      cases Mode.default? o.desktopFirst modes with
      | none => exact .ok (.refl _)
      | some standard =>
          refine (Lockstep.mapM (admitted_alike alike widest.id gate) fun _ _ h => h.entrant).bind
            fun es es' entrants => ?_
          have growing : (clampable es').filterMapM (clampableEntryIn o modes standard.id) =
              (clampable es).filterMapM (clampableEntryIn o modes standard.id) :=
            filterMapM_congr (clampable_alike entrants) fun _ _ h => h.entry standard.id
          have stepped := mediaDriven_alike entrants
          rw [growing, plainEntries_alike stepped]
          simp only [mediaBlocks_alike stepped, fallbackBlocks_alike (clampable_alike entrants)]
          -- both runs now take the same steps, and only the advice is left to compare
          refine .bind_same fun growing => .bind_same fun fixed => .bind_same fun media =>
            .bind_same fun fallback => .ok ⟨rfl, rfl, ?_⟩
          exact List.rel_flatMap entrants fun _ _ h => h.advice

/-! ## Sections -/

/-- Collections that are written alike: they vary over the same, and over the same modes in the
order of writing. -/
inductive Collection.Alike : Collection → Collection → Prop
  | refl (c : Collection) : Collection.Alike c c
  | breakpoint {c : Collection} {modes : List Mode} (kind : c.kind = .breakpoint)
      (perm : c.modes.Perm modes) (distinct : (c.modes.map (·.px)).Nodup) :
      Collection.Alike c { c with modes }

namespace Collection.Alike

variable {c c' : Collection} (h : c.Alike c')

include h

theorem modes_perm : c.modes.Perm c'.modes := by
  cases h with
  | refl => exact .refl _
  | breakpoint _ perm _ => exact perm

theorem rest : c' = { c with modes := c'.modes } := by
  cases h <;> rfl

theorem id : c'.id = c.id := by
  rw [h.rest]

theorem name : c'.name = c.name := by
  rw [h.rest]

theorem layer : c'.layer = c.layer := by
  rw [h.rest]

theorem domain : c'.domain = c.domain := by
  rw [h.rest]

theorem tokenIds : c'.tokenIds = c.tokenIds := by
  rw [h.rest]

end Collection.Alike

theorem draftOf_alike {c c' : Collection} (h : c.Alike c')
    (alike : List.Forall₂ Token.Alike ts ts') (gate : Gate) :
    Lockstep Draft.Alike (draftOf o gate c ts) (draftOf o gate c' ts') := by
  have overWidths (modes : List Mode) : Lockstep Draft.Alike
      (if o.outputMode = .fluid ∧ 2 ≤ modes.length then fluidDraft o gate modes ts
        else steppedDraft o gate modes ts)
      (if o.outputMode = .fluid ∧ 2 ≤ modes.length then fluidDraft o gate modes ts'
        else steppedDraft o gate modes ts') := by
    split
    · exact fluidDraft_alike alike gate
    · rw [steppedDraft_alike alike]
      exact .refl _ fun d _ => .refl d
  unfold draftOf
  cases h with
  | refl =>
      cases c.kind with
      | breakpoint => exact overWidths _
      | theme =>
          dsimp only
          rw [themedDraft_alike alike]
          exact .refl _ fun d _ => .refl d
      | single =>
          dsimp only
          rw [flatDraft_alike alike]
          exact .refl _ fun d _ => .refl d
  | breakpoint kind perm distinct =>
      rw [kind]
      dsimp only
      rw [Mode.widestFirst_perm_eq perm distinct]
      exact overWidths _

/-- Sections that are the same but for tokens held by their advice. -/
structure Section.Alike (s s' : Section) : Prop where
  title : s'.title = s.title
  entries : s'.entries = s.entries
  blocks : s'.blocks = s.blocks
  advice : List.Forall₂ Advice.Alike s.advice s'.advice

theorem sectionOf_alike {c c' : Collection} (h : c.Alike c')
    (alike : List.Forall₂ Token.Alike ts ts') (gate : Gate) :
    Lockstep Section.Alike (sectionOf o gate c ts) (sectionOf o gate c' ts') := by
  unfold sectionOf
  rw [h.name]
  exact (draftOf_alike h alike gate).map fun d d' draft =>
    ⟨rfl, draft.entries, draft.blocks, draft.advice⟩

end TokenSheet
