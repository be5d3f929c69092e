import TokenSheet.Proofs.Returns
import TokenSheet.Proofs.Section.FluidDraft

/-!
What ids and fallbacks add to a section.

Ids are read when lines are written and nowhere else: each entry gets one line in front of what it
declares (`Section.lines_eq`). Fallbacks are the last step of a fluid section. They put one guarded block
behind all others and leave the rest as it is, names included (`Section.GrowsTo`). The step repeats values
that are not read otherwise, so it may fail where the section without it is written; it does not if these
values can be written.
-/

namespace TokenSheet

open Css (Entry Block MediaBlock)

variable {o : Options} {gate : Gate} {tokens : List Token} {modes : List Mode} {t : Token}
  {c : Collection} {s s' : Section}

/-! ## Ids -/

namespace Options

/-- The options with ids switched on or off. -/
def withIds (o : Options) (on : Bool) : Options := { o with ids := on }

/-- The options with fallbacks switched on or off. -/
def withFallbacks (o : Options) (on : Bool) : Options := { o with legacyFallbacks := on }

end Options

/-- A section does not read whether ids are written. -/
theorem sectionOf_withIds (on : Bool) : sectionOf (o.withIds on) = sectionOf o := by
  have fluid : fluidDraft (o.withIds on) = fluidDraft o := by
    funext gate modes tokens
    unfold fluidDraft
    rw [Entrant.ofToken_congr (show (o.withIds on).references = o.references from rfl)]
    rfl
  funext gate c tokens
  unfold sectionOf draftOf
  rw [fluid]
  rfl

namespace Css.Entry

/-- The lines of an entry in front of its id: what explains it, unless it is a proportion. -/
def leading (gridColumns : Nat) (e : Entry) : List String :=
  match e.form with
  | .proportion _ => []
  | _ => ((e.parts gridColumns).1.map comment).toList

/-- The lines of an entry behind its id: what it declares, and for a proportion what explains it. -/
def trailing (gridColumns : Nat) (e : Entry) : List String :=
  match e.form with
  | .proportion _ => ((e.parts gridColumns).1.map comment).toList ++ (e.parts gridColumns).2
  | _ => (e.parts gridColumns).2

/-- The id is one line, in front of what an entry declares. -/
theorem lines_eq (gridColumns : Nat) (ids : Bool) (e : Entry) :
    e.lines gridColumns ids =
      e.leading gridColumns ++ (if ids then [comment e.id] else []) ++ e.trailing gridColumns := by
  obtain ⟨id, property, form⟩ := e
  cases form <;> cases ids <;> rfl

end Css.Entry

namespace Section

/-- The lines of a section in front of its entries. -/
def opening (s : Section) : List String :=
  banner '-' [s.title] ++ [Css.rootSelector ++ " \x7b"]

/-- The lines of a section behind its entries. -/
def closing (s : Section) : List String :=
  "\x7d" :: s.blocks.flatMap Block.lines ++ [""]

/-- With ids each entry of a section has one more line. -/
theorem lines_eq (ids : Bool) (s : Section) :
    s.lines ids =
      if s.entries.isEmpty then []
      else s.opening ++
        (s.entries.flatMap fun x => (x.leading Fluid.gridColumns ++
          (if ids then [Css.comment x.id] else []) ++ x.trailing Fluid.gridColumns).map Css.inner) ++
        s.closing := by
  rw [lines]
  split
  · rfl
  · simp only [← Entry.lines_eq]
    simp only [Css.braced, opening, closing, List.map_flatMap, List.append_assoc, List.cons_append,
      List.nil_append]

end Section

/-! ## Fallbacks -/

/-- Lines that differ by one group in front of a blank line at the end: a blank line, a comment and a
guarded block. -/
def Css.GuardAdded (lines lines' : List String) : Prop :=
  ∃ front bs, bs ≠ [] ∧ lines = front ++ [""] ∧
    lines' = front ++ ("" :: comment "Fallback for older browsers" ::
      braced withoutClamp (bs.flatMap MediaBlock.lines)) ++ [""]

/-- What fallbacks add to the section of a collection: nothing or, to a fluid one, a guarded block behind
all others. -/
def Section.GrowsTo (o : Options) (c : Collection) (s s' : Section) : Prop :=
  s' = s ∨ c.IsFluid o ∧ ∃ bs, bs ≠ [] ∧ s' = { s with blocks := s.blocks ++ [.fallback bs] }

namespace Section.GrowsTo

variable (h : s.GrowsTo o c s')

include h

theorem entries : s'.entries = s.entries := by
  rcases h with rfl | ⟨-, bs, -, rfl⟩ <;> rfl

theorem advice : s'.advice = s.advice := by
  rcases h with rfl | ⟨-, bs, -, rfl⟩ <;> rfl

theorem properties : s'.properties = s.properties := by
  rw [Section.properties, h.entries, Section.properties]

/-- The lines of a guarded block come in front of the blank line at the end, and all others stay. -/
theorem lines (ids : Bool) :
    s'.lines ids = s.lines ids ∨ c.IsFluid o ∧ Css.GuardAdded (s.lines ids) (s'.lines ids) := by
  rcases h with rfl | ⟨fluid, bs, nonempty, rfl⟩
  · exact .inl rfl
  · by_cases empty : s.entries.isEmpty = true
    · left
      rw [Section.lines, Section.lines, if_pos empty, if_pos empty]
    · right
      refine ⟨fluid, Section.banner '-' [s.title] ++ Css.braced Css.rootSelector
        (s.entries.flatMap (Entry.lines Fluid.gridColumns ids)) ++ s.blocks.flatMap Block.lines,
        bs, nonempty, ?_, ?_⟩
      · rw [Section.lines, if_neg empty]
      · rw [Section.lines, if_neg empty, List.flatMap_append, List.flatMap_singleton,
          ← List.append_assoc]
        rfl

end Section.GrowsTo

/-- A token whose values are repeated by fallbacks, if it is declared: a number that is written as an
interpolation. -/
structure Token.IsRepeated (o : Options) (modes : List Mode) (t : Token) : Prop where
  scales : t.isScaling o modes = .ok true
  noProportion : t.columns? = none
  noViewport : o.wantsViewport t.property = false

/-- There is at most one guarded block, and it is not empty. -/
theorem fallbackBlocks_cases {declared : List String} {es : List Entrant} {bs : List Block}
    (run : fallbackBlocks o modes declared es = .ok bs) :
    bs = [] ∨ ∃ guarded, guarded ≠ [] ∧ bs = [.fallback guarded] := by
  unfold fallbackBlocks at run
  split at run
  · obtain ⟨guarded, -, done⟩ := bind_eq_ok.1 run
    rw [← pure_eq_ok.1 done]
    cases guarded with
    | nil => exact .inl rfl
    | cons b rest => exact .inr ⟨b :: rest, List.cons_ne_nil b rest, rfl⟩
  · exact .inl (pure_eq_ok.1 run).symm

namespace FluidSteps

variable {widest standard : Mode} {entrants : List Entrant} {growing : List FluidEntry}
  {fixed : List Entry} {media : List MediaBlock} {fallback fallback' : List Block}

/-- Only the last step of a fluid section reads whether fallbacks are written. -/
theorem withFallbacks {on on' : Bool}
    (h : FluidSteps (o.withFallbacks on) gate modes tokens widest standard entrants growing fixed
      media fallback)
    (guard : fallbackBlocks (o.withFallbacks on') modes
      (declaredIds (growing.map (·.entry) ++ fixed)) (clampable entrants) = .ok fallback') :
    FluidSteps (o.withFallbacks on') gate modes tokens widest standard entrants growing fixed media
      fallback' where
  enter := by
    rw [Entrant.ofToken_congr (show (o.withFallbacks on').references =
      (o.withFallbacks on).references from rfl)]
    exact h.enter
  grow := h.grow
  stay := h.stay
  step := h.step
  guard := guard

/-- The last step is made if the values that it repeats can be written. -/
theorem fallbackBlocks_returns {on on' : Bool}
    (h : FluidSteps (o.withFallbacks on) gate modes tokens widest standard entrants growing fixed
      media fallback)
    (renders : ∀ t ∈ tokens, t.IsRepeated o modes → ∀ m ∈ modes, Returns (t.rendered o m.id))
    (declared : List String) :
    Returns (fallbackBlocks (o.withFallbacks on') modes declared (clampable entrants)) := by
  unfold fallbackBlocks
  refine Returns.ite (fun _ => ?_) fun _ => returns_pure []
  refine Returns.map (Returns.filterMapM fun p step => Returns.map ?_ _) _
  refine Returns.filterMapM fun t inside => ?_
  obtain ⟨repeated, -⟩ := List.mem_filter.1 inside
  obtain ⟨en, needs, rfl⟩ := List.mem_map.1 repeated
  obtain ⟨grows, needs⟩ := List.mem_filter.1 needs
  obtain ⟨entrant, clampable⟩ := mem_clampable.1 grows
  obtain ⟨passed, known⟩ := h.entrantOf_of_mem entrant
  simp only [needsFallback, Bool.and_eq_true, Bool.not_eq_true', Option.isNone_iff_eq_none] at needs
  obtain ⟨⟨⟨-, scaling⟩, noProportion⟩, noViewport⟩ := needs
  have scales := known.scaling clampable
  rw [Token.isScaling_congr (show (o.withFallbacks on).references = o.references from rfl),
    scaling] at scales
  unfold declaration?
  refine Returns.ite (fun _ => returns_ok none) fun _ => Returns.map ?_ _
  exact renders en.token (admitted_sublist.subset passed) ⟨scales, noProportion, noViewport⟩ p.2
    (Mode.mem_of_mem_transitions step)

end FluidSteps

/-- Sections without interpolation do not read whether fallbacks are written. -/
theorem draftOf_withFallbacks_of_not_isFluid (notFluid : ¬ c.IsFluid o) (on : Bool) :
    draftOf (o.withFallbacks on) gate c tokens = draftOf o gate c tokens := by
  cases kind : c.kind with
  | breakpoint =>
      rw [draftOf_of_stepped kind notFluid]
      exact draftOf_of_stepped kind notFluid
  | theme =>
      rw [draftOf, draftOf, kind]
      rfl
  | single =>
      rw [draftOf, draftOf, kind]
      rfl

/-- With fallbacks a section is the one without them, and perhaps a guarded block. -/
theorem sectionOf_of_withFallbacks (run : sectionOf (o.withFallbacks true) gate c tokens = .ok s') :
    ∃ s, sectionOf (o.withFallbacks false) gate c tokens = .ok s ∧ s.GrowsTo o c s' := by
  obtain ⟨d', draft, rfl⟩ := exists_draft_of_sectionOf run
  by_cases fluid : c.IsFluid o
  · obtain ⟨widest, standard, head, default⟩ := fluid.exists_ends
    have fluidWith (on : Bool) : c.IsFluid (o.withFallbacks on) := fluid
    rw [draftOf_of_isFluid (fluidWith true)] at draft
    obtain ⟨entrants, growing, fixed, media, fallback, steps, rfl⟩ :=
      (fluidDraft_iff_steps (o := o.withFallbacks true) head default).1 draft
    have without := (fluidDraft_iff_steps (o := o.withFallbacks false) head default).2
      ⟨entrants, growing, fixed, media, [], steps.withFallbacks rfl, rfl⟩
    rw [sectionOf, draftOf_of_isFluid (fluidWith false), without]
    refine ⟨_, rfl, ?_⟩
    rcases fallbackBlocks_cases steps.guard with rfl | ⟨bs, nonempty, rfl⟩
    · exact .inl rfl
    · refine .inr ⟨fluid, bs, nonempty, ?_⟩
      simp
  · rw [draftOf_withFallbacks_of_not_isFluid fluid] at draft
    rw [sectionOf, draftOf_withFallbacks_of_not_isFluid fluid, draft]
    exact ⟨_, rfl, .inl rfl⟩

/-- A section that is written without fallbacks is written with them if the values that they repeat can
be written. -/
theorem sectionOf_withFallbacks_returns
    (renders : c.IsFluid o → ∀ t ∈ tokens, t.IsRepeated o (Mode.widestFirst c.modes) →
      ∀ m ∈ c.modes, Returns (t.rendered o m.id))
    (run : sectionOf (o.withFallbacks false) gate c tokens = .ok s) :
    Returns (sectionOf (o.withFallbacks true) gate c tokens) := by
  obtain ⟨d, draft, rfl⟩ := exists_draft_of_sectionOf run
  refine Returns.map ?_ _
  by_cases fluid : c.IsFluid o
  · obtain ⟨widest, standard, head, default⟩ := fluid.exists_ends
    have fluidWith (on : Bool) : c.IsFluid (o.withFallbacks on) := fluid
    rw [draftOf_of_isFluid (fluidWith false)] at draft
    obtain ⟨entrants, growing, fixed, media, fallback, steps, rfl⟩ :=
      (fluidDraft_iff_steps (o := o.withFallbacks false) head default).1 draft
    obtain ⟨fallback', guard⟩ := steps.fallbackBlocks_returns
      (fun t mem repeated m listed => renders fluid t mem repeated m (Mode.mem_widestFirst.1 listed))
      (declaredIds (growing.map (·.entry) ++ fixed))
    rw [draftOf_of_isFluid (fluidWith true)]
    exact ⟨_, (fluidDraft_iff_steps (o := o.withFallbacks true) head default).2
      ⟨entrants, growing, fixed, media, fallback', steps.withFallbacks guard, rfl⟩⟩
  · rw [draftOf_withFallbacks_of_not_isFluid fluid] at draft ⊢
    exact ⟨d, draft⟩

end TokenSheet
