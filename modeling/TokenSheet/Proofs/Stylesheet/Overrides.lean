import TokenSheet.Proofs.Section.OverrideTotality
import TokenSheet.Proofs.Stylesheet.Run

/-!
Overrides are local in the whole stylesheet.

Sections are written one after the other, each behind the names that the sections before it declare.
Options that differ in the overrides of one property declare the same names in every section, so the
gates stay the same and the comparison of sections carries over to whole runs. One more property
relative to the viewport leaves a stylesheet where there was one. One more property interpolated
piece by piece leaves one unless a piece of the property is too large to be computed, in which case
no section at all is written (`TabletDip.override_may_end_emission`).
-/

namespace TokenSheet

open Css (Entry Block)

variable {o o' : Options} {reserved taken : List String} {cat : Catalog} {cs : List Collection}
  {ss ss' : List Section} {n : String} {e e' : Emission}

/-! ## Successions of sections -/

/-- The sections that two options make of the same collections are alike, pair by pair. -/
theorem Succession.alikeBut (h : o.AlikeBut n o') (run : Succession o reserved cat taken cs ss)
    (run' : Succession o' reserved cat taken cs ss') :
    List.Forall₂ (Section.AlikeBut n) ss ss' := by
  induction run generalizing ss' with
  | nil =>
      cases run'
      exact .nil
  | cons first others ih =>
      cases run' with
      | cons first' others' =>
          have here := sectionOf_alikeBut h first first'
          rw [here.properties] at others'
          exact .cons here (ih others')

theorem properties_eq_of_alikeBut (h : List.Forall₂ (Section.AlikeBut n) ss ss') :
    ss'.flatMap Section.properties = ss.flatMap Section.properties :=
  flatMap_eq_of_forall₂ h fun _ _ alike => alike.properties

/-- Whether the tokens of a property are written in collections under other options, where they are
interpolated. -/
def Options.CarriesAll (o o' : Options) (n : String) (cat : Catalog) (cs : List Collection) : Prop :=
  ∀ c ∈ cs, c.IsFluid o → ∀ t ∈ cat.tokensIn c.id, t.property = n →
    o.Carries o' (Mode.widestFirst c.modes) t

/-- Under more overrides there is a succession wherever there was one. -/
theorem Succession.exists_of_alikeBut (h : o.AlikeBut n o') (keeps : o.KeepsViewport o')
    (carries : o.CarriesAll o' n cat cs) (run : Succession o reserved cat taken cs ss) :
    ∃ ss', Succession o' reserved cat taken cs ss' := by
  induction run with
  | nil => exact ⟨[], .nil⟩
  | cons first others ih =>
      obtain ⟨here, there⟩ := List.forall_mem_cons.1 carries
      obtain ⟨s', first'⟩ := sectionOf_returns_of_alikeBut h keeps here first
      obtain ⟨ss', others'⟩ := ih there
      rw [← (sectionOf_alikeBut h first first').properties] at others'
      exact ⟨s' :: ss', .cons first' others'⟩

/-! ## Stylesheets -/

/-- All declarations of an emission in the order in which they are written. -/
def Emission.written (e : Emission) : List Css.Written :=
  e.sections.flatMap Section.written

/-- Emissions that differ at most in what they declare for one property: they declare the same names
in the same order, give the same advice, and apart from the property write the same declarations in
the same order under all circumstances. -/
structure Emission.AlikeBut (n : String) (e e' : Emission) : Prop where
  properties : e'.properties = e.properties
  advice : e'.advice = e.advice
  written : ∀ k, Css.besides n k e'.written = Css.besides n k e.written

theorem Emission.alikeBut_of_sections
    (h : List.Forall₂ (Section.AlikeBut n) e.sections e'.sections) : e.AlikeBut n e' where
  properties := properties_eq_of_alikeBut h
  advice := flatMap_eq_of_forall₂ h fun _ _ alike => alike.advice
  written k := by
    rw [Emission.written, Emission.written, Css.besides_flatMap, Css.besides_flatMap]
    exact flatMap_eq_of_forall₂ h fun _ _ alike => alike.written k

/-- The emissions that two options make of one catalog are alike. -/
theorem Emission.ofCatalog_alikeBut (h : o.AlikeBut n o') (run : Emission.ofCatalog o cat = .ok e)
    (run' : Emission.ofCatalog o' cat = .ok e') : e.AlikeBut n e' := by
  obtain ⟨names, pre, all⟩ := ofCatalog_eq_ok.1 run
  obtain ⟨names', pre', all'⟩ := ofCatalog_eq_ok.1 run'
  obtain ⟨ss, alone, rfl⟩ := foundationProperties_eq_ok.1 pre
  obtain ⟨ss', alone', rfl⟩ := foundationProperties_eq_ok.1 pre'
  rw [properties_eq_of_alikeBut (alone.alikeBut h alone')] at all'
  exact Emission.alikeBut_of_sections (all.alikeBut h all')

/-- Under more overrides there is an emission wherever there was one. -/
theorem Emission.ofCatalog_returns_of_alikeBut (h : o.AlikeBut n o') (keeps : o.KeepsViewport o')
    (carries : o.CarriesAll o' n cat cat.rendered) (run : Emission.ofCatalog o cat = .ok e) :
    ∃ e', Emission.ofCatalog o' cat = .ok e' := by
  obtain ⟨names, pre, all⟩ := ofCatalog_eq_ok.1 run
  obtain ⟨ss, alone, rfl⟩ := foundationProperties_eq_ok.1 pre
  obtain ⟨ss', alone'⟩ := alone.exists_of_alikeBut h keeps
    fun c mem => carries c (List.mem_of_mem_filter mem)
  obtain ⟨all', sections⟩ := all.exists_of_alikeBut h keeps carries
  rw [← properties_eq_of_alikeBut (alone.alikeBut h alone')] at sections
  exact ⟨⟨all'⟩, ofCatalog_eq_ok.2 ⟨_, foundationProperties_eq_ok.2 ⟨ss', alone', rfl⟩, sections⟩⟩

/-- Overrides are local. With one more property relative to the viewport a stylesheet differs at most
in the declarations of that property. So does one with one more property interpolated piece by piece,
and there is one if the pieces of that property can be computed. -/
theorem overrides_are_local (n : String) (run : Emission.ofCatalog o cat = .ok e) :
    (∃ e', Emission.ofCatalog (o.withViewport n) cat = .ok e' ∧ e.AlikeBut n e') ∧
      (∀ e', Emission.ofCatalog (o.withPieces n) cat = .ok e' → e.AlikeBut n e') ∧
      ((∀ c ∈ cat.rendered, c.IsFluid o → ∀ t ∈ cat.tokensIn c.id, t.property = n →
          ∃ ps, Fluid.pieces o.desktopFirst t (Mode.widestFirst c.modes) = .ok ps) →
        ∃ e', Emission.ofCatalog (o.withPieces n) cat = .ok e') := by
  refine ⟨?_, fun e' run' => ?_, fun pieces => ?_⟩
  · obtain ⟨e', run'⟩ := Emission.ofCatalog_returns_of_alikeBut (o.withViewport_alikeBut n)
      (o.keepsViewport_withViewport n) (fun c _ _ t _ own => Options.carries_withViewport own) run
    exact ⟨e', run', Emission.ofCatalog_alikeBut (o.withViewport_alikeBut n) run run'⟩
  · exact Emission.ofCatalog_alikeBut (o.withPieces_alikeBut n) run run'
  · exact Emission.ofCatalog_returns_of_alikeBut (o.withPieces_alikeBut n)
      (o.keepsViewport_withPieces n)
      (fun c mem fluid t inside own => Options.carries_withPieces (pieces c mem fluid t inside own))
      run

namespace TabletDip

/-- The only collection of a design, with a mode between the widest and the narrowest one. -/
def collection : Collection where
  id := "c"
  name := "Space - 2. Aliases"
  domain := "space"
  layerName := "2. Aliases"
  layer := .aliases
  modes := [⟨"d", "Desktop", some 1680⟩, ⟨"t", "Tablet", some 840⟩, ⟨"m", "Mobile", some 480⟩]
  kind := .breakpoint
  tokenIds := ["v", "u"]

/-- A number of the collection. -/
def number (id name property : String) (wide middle narrow : Float) : Token where
  id := id
  name := name
  description := ""
  collectionId := collection.id
  collectionName := collection.name
  domain := collection.domain
  layer := collection.layer
  kind := .float
  values := [("d", .literal (.number wide)), ("t", .literal (.number middle)),
    ("m", .literal (.number narrow))]
  property := property

/-- A number that is smallest in the middle mode, and one that scales evenly. -/
def catalog : Catalog where
  collections := [collection]
  tokens := [number "v" "gap" "--space-gap" 32 12 16, number "u" "inset" "--space-inset" 32 24 16]

/-- The section of the two without overrides. -/
def interpolated : Section where
  title := "SPACE - 2. ALIASES"
  entries :=
    [⟨"v", "--space-gap", .plain (.clamp 16 (.interceptFirst 9.6 1.3333) 32 "px")⟩,
      ⟨"u", "--space-inset", .plain (.clamp 16 (.interceptFirst 9.6 1.3333) 32 "px")⟩]
  blocks := []
  advice := catalog.tokens.flatMap fun t => ((t.advice collection.modes).toOption).getD []

theorem widestFirst_modes : Mode.widestFirst collection.modes = collection.modes :=
  Mode.widestFirst_of_descending (by simp [Mode.Descending, collection, Mode.px])

set_option maxRecDepth 4000 in
theorem run_without_overrides : Emission.ofCatalog {} catalog = .ok ⟨[interpolated]⟩ := by
  refine ofCatalog_of_only rfl (by decide) rfl ?_
  rw [sectionOf, draftOf_of_isFluid (by decide), widestFirst_modes]
  rfl

set_option maxRecDepth 4000 in
theorem gap_pieces : ∃ ps, Fluid.pieces true (number "v" "gap" "--space-gap" 32 12 16)
    collection.modes = .ok ps :=
  ⟨_, rfl⟩

/-- Either override of the first number leaves a stylesheet that differs in its declarations only. -/
theorem gap_overrides_are_local :
    Emission.ofCatalog {} catalog = .ok ⟨[interpolated]⟩ ∧
      (∃ e', Emission.ofCatalog (Options.withViewport {} "--space-gap") catalog = .ok e' ∧
        Emission.AlikeBut "--space-gap" ⟨[interpolated]⟩ e') ∧
      ∃ e', Emission.ofCatalog (Options.withPieces {} "--space-gap") catalog = .ok e' ∧
        Emission.AlikeBut "--space-gap" ⟨[interpolated]⟩ e' := by
  obtain ⟨viewport, alike, pieces⟩ := overrides_are_local "--space-gap" run_without_overrides
  obtain ⟨e', run'⟩ := pieces fun c rendered _ t inside own => by
    obtain rfl := List.mem_singleton.1 (Catalog.mem_rendered.1 rendered).1
    rw [widestFirst_modes]
    rcases List.mem_cons.1 (List.mem_filter.1 inside).1 with rfl | later
    · exact gap_pieces
    · rw [List.mem_singleton.1 later] at own
      exact absurd own (by decide)
  exact ⟨run_without_overrides, viewport, e', run', alike e' run'⟩

/-- A double whose change over neighbouring modes cannot be rounded. -/
def steep : Float :=
  .ofBits 0x7F76C8E5CA239029

/-- A number that falls to nothing in the middle mode. -/
def dip : Token :=
  number "v" "gap" "--space-gap" steep 0 steep

/-- The catalog with that number in place of the two. -/
def dipCatalog : Catalog where
  collections := [collection]
  tokens := [dip]

/-- Without overrides only the two ends are read, which have the same value. -/
theorem dip_section_returns : Returns (sectionOf {} {} collection [dip]) := by
  rw [sectionOf, draftOf_of_isFluid (by decide), widestFirst_modes]
  exact returns_of_error? (by decide +kernel)

theorem dip_section_fails :
    sectionOf (Options.withPieces {} "--space-gap") {} collection [dip] = .error .infinite := by
  rw [sectionOf, draftOf_of_isFluid (by decide), widestFirst_modes]
  exact eq_error_of_error? (by decide +kernel)

/-- Where a piece is too large to be computed, one more property interpolated piece by piece ends the
writing of the whole stylesheet. -/
theorem override_may_end_emission :
    (∃ e, Emission.ofCatalog {} dipCatalog = .ok e) ∧
      Emission.ofCatalog (Options.withPieces {} "--space-gap") dipCatalog = .error .infinite := by
  constructor
  · obtain ⟨s, run⟩ := dip_section_returns
    exact ⟨⟨[s]⟩, ofCatalog_of_only rfl (by decide) rfl run⟩
  · exact ofCatalog_eq_error_of_only rfl (by decide) rfl dip_section_fails

end TabletDip

end TokenSheet
