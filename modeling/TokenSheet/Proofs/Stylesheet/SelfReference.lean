import TokenSheet.Catalog.Reading
import TokenSheet.Proofs.Section.SelfReference
import TokenSheet.Proofs.Stylesheet.Run

/-!
Self-references in a whole stylesheet.

A stylesheet holds a declaration `--x: var(--x)` exactly if one of its collections has a token that
slips through its gate: the gate of the names declared by the sections before, and of the names kept
for the foundations.
-/

namespace TokenSheet

open Css (Block Declaration)

variable {o : Options} {cat : Catalog} {names : List String} {e : Emission}

/-- The gate of a section of a stylesheet. -/
def Emission.gateAt (e : Emission) (names : List String) (i : Nat) : Gate :=
  ⟨(e.sections.take i).flatMap Section.properties, names⟩

/-- A stylesheet refers to itself in default blocks only, and exactly if a collection that starts
from the narrowest mode has a token whose reference to itself slips through its gate. -/
theorem stylesheet_refers_to_itself_iff (pre : foundationProperties o cat = .ok names)
    (run : Emission.ofCatalog o cat = .ok e) :
    (∀ s ∈ e.sections, ∀ b ∈ s.blocks, ∀ d ∈ b.declarations, ¬ d.RefersToItself) ∧
      ((∃ s ∈ e.sections, s.RefersToItself) ↔
        ∃ (i : Nat) (c : Collection), cat.rendered[i]? = some c ∧
          c.KeepsOwnReference o (e.gateAt names i) (cat.tokensIn c.id)) := by
  obtain ⟨names', pre', all⟩ := ofCatalog_eq_ok.1 run
  obtain rfl := Except.ok.inj (pre.symm.trans pre')
  have made {i : Nat} {c : Collection} {s : Section} (collection : cat.rendered[i]? = some c)
      (section_at : e.sections[i]? = some s) :
      sectionOf o (e.gateAt names i) c (cat.tokensIn c.id) = .ok s := by
    have made := all.sectionOf_getElem collection section_at
    rwa [List.nil_append] at made
  refine ⟨fun s mem b block d inside => ?_, ?_, ?_⟩
  · obtain ⟨c, pair⟩ := all.exists_pair mem
    obtain ⟨-, before, run⟩ := all.exists_sectionOf pair
    exact sectionOf_blocks_not_refersToItself run block inside
  · rintro ⟨s, mem, own⟩
    obtain ⟨i, section_at⟩ := List.mem_iff_getElem?.1 mem
    have bound : i < cat.rendered.length := by
      rw [← all.length_eq]
      exact (List.getElem?_eq_some_iff.1 section_at).1
    have collection : cat.rendered[i]? = some cat.rendered[i] := List.getElem?_eq_getElem bound
    exact ⟨i, _, collection, (sectionOf_refersToItself_iff (made collection section_at)).1 own⟩
  · rintro ⟨i, c, collection, keeps⟩
    have bound : i < e.sections.length := by
      rw [all.length_eq]
      exact (List.getElem?_eq_some_iff.1 collection).1
    have section_at : e.sections[i]? = some e.sections[i] := List.getElem?_eq_getElem bound
    exact ⟨_, List.getElem_mem bound,
      (sectionOf_refersToItself_iff (made collection section_at)).2 keeps⟩

namespace NarrowReference

/-- A design with a text that refers to itself in its narrow mode. -/
def design : Design.Snapshot where
  collections := [⟨"c", "Space - 2. Aliases", [⟨"d", "Desktop"⟩, ⟨"m", "Mobile"⟩], ["v"], false⟩]
  variableRecords := [⟨"v", "gap", some "", .string,
    [("d", .text "wide"),
      ("m", .mapping [(.text "id", .text "v"), (.text "type", .text "VARIABLE_ALIAS")])]⟩]
  textStyles := []

/-- The options of an export that starts from the narrowest mode. -/
def upwards : Options := { direction := .mobileFirst }

/-- The catalog of the design. -/
def catalog : Catalog where
  collections := [{
    id := "c"
    name := "Space - 2. Aliases"
    domain := "space"
    layerName := "2. Aliases"
    layer := .aliases
    modes := [⟨"d", "Desktop", some 1680⟩, ⟨"m", "Mobile", some 480⟩]
    kind := .breakpoint
    tokenIds := ["v"] }]
  tokens := [{
    id := "v"
    name := "gap"
    description := ""
    collectionId := "c"
    collectionName := "Space - 2. Aliases"
    domain := "space"
    layer := .aliases
    kind := .string
    values := [("d", .literal (.text "wide")), ("m", .reference "v" (some "--space-gap"))]
    property := "--space-gap" }]

theorem read : Catalog.ofSource design.source .default upwards = .ok catalog := rfl

/-- The section of the only collection. -/
def gapSection : Section where
  title := "SPACE - 2. ALIASES"
  entries := [⟨"v", "--space-gap", .plain (.reference "--space-gap")⟩]
  blocks := [.media ⟨.minWidth 1680, [⟨"--space-gap", .quoted "wide"⟩]⟩]
  advice := []

theorem inOrder_catalog : catalog.inOrder = catalog.collections :=
  List.mergeSort_singleton _

theorem foundationProperties_catalog : foundationProperties upwards catalog = .ok [] := by
  rw [foundationProperties, inOrder_catalog]
  rfl

theorem rendered_catalog : catalog.rendered = catalog.collections := by
  rw [Catalog.rendered, inOrder_catalog]
  rfl

theorem ofCatalog_catalog : Emission.ofCatalog upwards catalog = .ok ⟨[gapSection]⟩ := by
  refine ofCatalog_eq_ok.2 ⟨[], foundationProperties_catalog, ?_⟩
  rw [rendered_catalog]
  refine .cons ?_ .nil
  rw [sectionOf, draftOf_of_isFluid (by decide),
    Mode.widestFirst_of_descending (by simp [Mode.Descending, Mode.px])]
  rfl

theorem gapSection_refersToItself : gapSection.RefersToItself :=
  .inl ⟨_, List.mem_singleton_self _, rfl⟩

/-- Started from the narrowest mode, the stylesheet of the design refers to itself. -/
theorem stylesheet_may_refer_to_itself :
    ¬ ∀ (s : Design.Source) (w : Widths) (o : Options) (cat : Catalog) (e : Emission),
      Catalog.ofSource s w o = .ok cat → Emission.ofCatalog o cat = .ok e →
        ∀ section_ ∈ e.sections, ¬ section_.RefersToItself := by
  intro claim
  exact claim design.source .default upwards catalog ⟨[gapSection]⟩ read ofCatalog_catalog
    gapSection (List.mem_singleton_self _) gapSection_refersToItself

/-- The token of the design slips through the gate of its collection. -/
theorem catalog_keeps_own_reference :
    (foundationProperties upwards catalog = .ok [] ∧
      Emission.ofCatalog upwards catalog = .ok ⟨[gapSection]⟩) ∧
    ∃ (i : Nat) (c : Collection), catalog.rendered[i]? = some c ∧
      c.KeepsOwnReference upwards (Emission.gateAt ⟨[gapSection]⟩ [] i) (catalog.tokensIn c.id) :=
  ⟨⟨foundationProperties_catalog, ofCatalog_catalog⟩,
    (stylesheet_refers_to_itself_iff foundationProperties_catalog ofCatalog_catalog).2.1
      ⟨gapSection, List.mem_singleton_self _, gapSection_refersToItself⟩⟩

end NarrowReference

end TokenSheet
