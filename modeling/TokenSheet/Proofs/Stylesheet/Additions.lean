import TokenSheet.Generation.Report
import TokenSheet.Proofs.Lists
import TokenSheet.Proofs.Section.Additions
import TokenSheet.Proofs.Stylesheet.Run
import TokenSheet.Stylesheet.Header

/-!
What ids and fallbacks add to a stylesheet.

Sections steer the sections after them by their names only, and neither ids nor fallbacks change a name.
So what holds of one section holds along the whole succession, and of the run over the foundations before
it (`ids_and_fallbacks_are_added`): ids add a line to each entry of a default block, fallbacks add a group
of lines in front of the last line of fluid sections, and nothing else changes. A stylesheet without
fallbacks may have no counterpart with them, where a value that only they repeat cannot be written.
-/

namespace TokenSheet

open Css (MediaBlock)

variable {o : Options} {reserved taken : List String} {cat : Catalog} {cs : List Collection}
  {ss ss' : List Section} {e e' : Emission}

/-- The lines of a stylesheet, composite text styles apart. -/
def Emission.stylesheet (o : Options) (date : Option String) (e : Emission) : List String :=
  headerLines o date ++ e.lines o.ids

/-! ## Ids -/

/-- What is emitted does not depend on whether ids are written. -/
theorem ofCatalog_withIds (on : Bool) :
    Emission.ofCatalog (o.withIds on) cat = Emission.ofCatalog o cat := by
  unfold Emission.ofCatalog foundationProperties emitAll Emission.add
  rw [sectionOf_withIds]

/-! ## Fallbacks -/

/-- Sections that grow, each by its own guarded block. -/
def SectionsGrow (o : Options) (cs : List Collection) (ss ss' : List Section) : Prop :=
  List.Forall₂ (fun p s' => p.2.GrowsTo o p.1 s') (cs.zip ss) ss'

namespace Succession

/-- A succession with fallbacks has one without them that grows to it. -/
theorem of_withFallbacks (h : Succession (o.withFallbacks true) reserved cat taken cs ss') :
    ∃ ss, Succession (o.withFallbacks false) reserved cat taken cs ss ∧ SectionsGrow o cs ss ss' := by
  induction h with
  | nil => exact ⟨[], .nil, .nil⟩
  | cons first others ih =>
      obtain ⟨s, without, grows⟩ := sectionOf_of_withFallbacks first
      obtain ⟨ss, rest, grow⟩ := ih
      rw [grows.properties] at rest
      exact ⟨s :: ss, .cons without rest, .cons grows grow⟩

/-- A succession without fallbacks grows to one with them if the values that they repeat can be
written. -/
theorem exists_withFallbacks
    (renders : ∀ c ∈ cs, c.IsFluid o → ∀ t ∈ cat.tokensIn c.id,
      t.IsRepeated o (Mode.widestFirst c.modes) → ∀ m ∈ c.modes, Returns (t.rendered o m.id))
    (h : Succession (o.withFallbacks false) reserved cat taken cs ss) :
    ∃ ss', Succession (o.withFallbacks true) reserved cat taken cs ss' ∧ SectionsGrow o cs ss ss' := by
  induction h with
  | nil => exact ⟨[], .nil, .nil⟩
  | cons first others ih =>
      obtain ⟨here, there⟩ := List.forall_mem_cons.1 renders
      obtain ⟨s', grown⟩ := sectionOf_withFallbacks_returns here first
      obtain ⟨s, without, grows⟩ := sectionOf_of_withFallbacks grown
      obtain rfl := Except.ok.inj (without.symm.trans first)
      obtain ⟨ss', rest, grow⟩ := ih there
      rw [← grows.properties] at rest
      exact ⟨s' :: ss', .cons grown rest, .cons grows grow⟩

end Succession

/-- What growing sections keep. -/
theorem SectionsGrow.flatMap_eq {β : Type} {f : Section → List β} (h : SectionsGrow o cs ss ss')
    (length : ss.length = cs.length)
    (kept : ∀ c s s', Section.GrowsTo o c s s' → f s' = f s) : ss'.flatMap f = ss.flatMap f := by
  have same := flatMap_eq_of_forall₂ (f := fun p => f p.2) h fun p s' => kept p.1 p.2 s'
  rw [same, ← List.flatMap_map, List.map_snd_zip (Nat.le_of_eq length)]

/-- What fallbacks make of a stylesheet: in each fluid section there may be one more group of lines, and
nothing else changes, nor does the report. -/
structure Emission.GrowsTo (o : Options) (cat : Catalog) (e e' : Emission) : Prop where
  lines : ∀ ids, List.Forall₂ (fun p s' => s'.lines ids = p.2.lines ids ∨
      p.1.IsFluid o ∧ Css.GuardAdded (p.2.lines ids) (s'.lines ids))
    (cat.rendered.zip e.sections) e'.sections
  properties : e'.properties = e.properties
  report : ∀ textStyles, Report.ofEmission cat e' textStyles = Report.ofEmission cat e textStyles

theorem Emission.growsTo_of_sections (length : e.sections.length = cat.rendered.length)
    (grow : SectionsGrow o cat.rendered e.sections e'.sections) : e.GrowsTo o cat e' where
  lines ids := grow.imp fun _ _ grows => grows.lines ids
  properties := grow.flatMap_eq length fun _ _ _ grows => grows.properties
  report textStyles := by
    have entries : e'.entries = e.entries :=
      grow.flatMap_eq length fun _ _ _ grows => grows.entries
    have advice : e'.advice = e.advice :=
      grow.flatMap_eq length fun _ _ _ grows => grows.advice
    rw [Report.ofEmission, entries, advice, Report.ofEmission]

/-- A stylesheet with fallbacks has one without them that grows to it. -/
theorem ofCatalog_of_withFallbacks (run : Emission.ofCatalog (o.withFallbacks true) cat = .ok e') :
    ∃ e, Emission.ofCatalog (o.withFallbacks false) cat = .ok e ∧ e.GrowsTo o cat e' := by
  obtain ⟨names, pre, sections⟩ := ofCatalog_eq_ok.1 run
  obtain ⟨pre', alone', rfl⟩ := foundationProperties_eq_ok.1 pre
  obtain ⟨pre, alone, names⟩ := alone'.of_withFallbacks
  obtain ⟨ss, without, grow⟩ := sections.of_withFallbacks
  rw [names.flatMap_eq alone.length_eq fun _ _ _ grows => grows.properties] at without
  refine ⟨⟨ss⟩, ofCatalog_eq_ok.2 ⟨_, foundationProperties_eq_ok.2 ⟨pre, alone, rfl⟩, without⟩, ?_⟩
  exact Emission.growsTo_of_sections without.length_eq grow

/-- A stylesheet without fallbacks has one with them if the values that they repeat can be written. -/
theorem ofCatalog_withFallbacks_returns
    (renders : ∀ c ∈ cat.rendered, c.IsFluid o → ∀ t ∈ cat.tokensIn c.id,
      t.IsRepeated o (Mode.widestFirst c.modes) → ∀ m ∈ c.modes, Returns (t.rendered o m.id))
    (run : Emission.ofCatalog (o.withFallbacks false) cat = .ok e) :
    Returns (Emission.ofCatalog (o.withFallbacks true) cat) := by
  obtain ⟨names, foundations, sections⟩ := ofCatalog_eq_ok.1 run
  obtain ⟨pre, alone, rfl⟩ := foundationProperties_eq_ok.1 foundations
  obtain ⟨pre', alone', names⟩ := alone.exists_withFallbacks
    fun c mem => renders c (List.mem_of_mem_filter mem)
  obtain ⟨ss', sections', -⟩ := sections.exists_withFallbacks renders
  rw [← names.flatMap_eq alone.length_eq fun _ _ _ grows => grows.properties] at sections'
  exact ⟨⟨ss'⟩, ofCatalog_eq_ok.2 ⟨_, foundationProperties_eq_ok.2 ⟨pre', alone', rfl⟩, sections'⟩⟩

/-- Ids and fallbacks are additions. Ids change nothing that is emitted: each entry of a default block
gets one line in front of what it declares, and all other lines stay. Where there is a stylesheet with
fallbacks there is one without them, from which it differs by groups of lines at the ends of fluid
sections. There is one with fallbacks for every one without if the values that they repeat can be
written. -/
theorem ids_and_fallbacks_are_added (o : Options) (cat : Catalog) (date : Option String) :
    (∀ on, Emission.ofCatalog (o.withIds on) cat = Emission.ofCatalog o cat ∧
      ∀ e : Emission, e.stylesheet (o.withIds on) date =
        headerLines o date ++ e.sections.flatMap fun s =>
          if s.entries.isEmpty then []
          else s.opening ++ (s.entries.flatMap fun x => (x.leading Fluid.gridColumns ++
            (if on then [Css.comment x.id] else []) ++ x.trailing Fluid.gridColumns).map Css.inner) ++
            s.closing) ∧
      (∀ on, headerLines (o.withFallbacks on) date = headerLines o date) ∧
      (∀ e', Emission.ofCatalog (o.withFallbacks true) cat = .ok e' →
        ∃ e, Emission.ofCatalog (o.withFallbacks false) cat = .ok e ∧ e.GrowsTo o cat e') ∧
      ∀ e, Emission.ofCatalog (o.withFallbacks false) cat = .ok e →
        (∀ c ∈ cat.rendered, c.IsFluid o → ∀ t ∈ cat.tokensIn c.id,
          t.IsRepeated o (Mode.widestFirst c.modes) →
            ∀ m ∈ c.modes, ∃ v, t.rendered o m.id = .ok v) →
        ∃ e', Emission.ofCatalog (o.withFallbacks true) cat = .ok e' := by
  refine ⟨fun on => ⟨ofCatalog_withIds on, fun e => ?_⟩, fun _ => rfl,
    fun e' run => ofCatalog_of_withFallbacks run,
    fun e run renders => ofCatalog_withFallbacks_returns renders run⟩
  have lines : Section.lines on = fun s => _ := funext (Section.lines_eq on)
  rw [Emission.stylesheet, Emission.lines, show (o.withIds on).ids = on from rfl, lines]
  rfl

namespace HugeTablet

/-- The only collection of a design with four widths. -/
def collection : Collection :=
  .spaces [⟨"d", "Desktop", some 1680⟩, ⟨"l", "Laptop", some 1366⟩, ⟨"t", "Tablet", some 840⟩,
    ⟨"m", "Mobile", some 480⟩] ["v"]

/-- A number of the collection, huge in one of the middle modes or not. -/
def gap (middle : Float) : Token :=
  collection.number "v" "gap" "--space-gap" [("d", 16), ("l", 12), ("t", middle), ("m", 8)]

/-- The catalog of the number. -/
def catalog (middle : Float) : Catalog where
  collections := [collection]
  tokens := [gap middle]

theorem widestFirst_modes : Mode.widestFirst collection.modes = collection.modes :=
  Mode.widestFirst_of_descending (by simp [Mode.Descending, collection, Collection.spaces, Mode.px])

/-- A usual number is written in each mode. -/
theorem usual_values_return (m : Mode) (listed : m ∈ collection.modes) :
    Returns ((gap 11).rendered {} m.id) := by
  simp only [collection, Collection.spaces, List.mem_cons, List.not_mem_nil, or_false] at listed
  rcases listed with rfl | rfl | rfl | rfl <;> exact returns_of_error? (by decide +kernel)

/-- With fallbacks a usual number grows by them. -/
theorem usual_number_grows :
    ∃ e e', Emission.ofCatalog {} (catalog 11) = .ok e ∧
      Emission.ofCatalog (Options.withFallbacks {} true) (catalog 11) = .ok e' ∧
      e.GrowsTo {} (catalog 11) e' := by
  obtain ⟨-, -, removed, added⟩ := ids_and_fallbacks_are_added {} (catalog 11) none
  have section_returns : Returns (sectionOf {} {} collection [gap 11]) := by
    rw [sectionOf, draftOf_of_isFluid (by decide), widestFirst_modes]
    exact returns_of_error? (by decide +kernel)
  obtain ⟨s, run⟩ := section_returns
  obtain ⟨e', run'⟩ := added ⟨[s]⟩ (ofCatalog_of_only rfl (by decide) rfl run)
    fun c rendered _ t inside _ m listed => by
      obtain rfl := List.mem_singleton.1 (Catalog.mem_rendered.1 rendered).1
      obtain rfl := List.mem_singleton.1 (List.mem_filter.1 inside).1
      exact usual_values_return m listed
  obtain ⟨e, without, grows⟩ := removed e' run'
  exact ⟨e, e', without, run', grows⟩

/-- A double that cannot be rounded to two places. -/
def huge : Float :=
  .ofBits 0x7FE1CCF385EBC8A0

/-- Without fallbacks only the two ends are read. -/
theorem section_returns : Returns (sectionOf {} {} collection [gap huge]) := by
  rw [sectionOf, draftOf_of_isFluid (by decide), widestFirst_modes]
  exact returns_of_error? (by decide +kernel)

theorem section_fails :
    sectionOf (Options.withFallbacks {} true) {} collection [gap huge] = .error .infinite := by
  rw [sectionOf, draftOf_of_isFluid (by decide), widestFirst_modes]
  exact eq_error_of_error? (by decide +kernel)

/-- Where a value that only fallbacks repeat is too large to be written, they end the writing of the whole
stylesheet. -/
theorem fallbacks_may_end_emission :
    (∃ e, Emission.ofCatalog {} (catalog huge) = .ok e) ∧
      Emission.ofCatalog (Options.withFallbacks {} true) (catalog huge) = .error .infinite := by
  constructor
  · obtain ⟨s, run⟩ := section_returns
    exact ⟨⟨[s]⟩, ofCatalog_of_only rfl (by decide) rfl run⟩
  · exact ofCatalog_eq_error_of_only rfl (by decide) rfl section_fails

end HugeTablet

end TokenSheet
