import TokenSheet.Generation.Basic
import TokenSheet.Proofs.Catalog.ModeOrder
import TokenSheet.Proofs.Stylesheet.Run

/-!
The order of modes.

Over different widths the modes of a collection have one order, from the widest to the narrowest,
however the design lists them. `generation_ignores_mode_order` compares the generations of a design
and of one with the modes of its breakpoint collections in another order, references preserved: the
sections are written alike one after the other, so that each meets the same declared names, and the
report, read as a document, is the same as well.
-/

namespace TokenSheet

open Design (Source)

variable {s s' : Source} {cat cat' : Catalog} {o : Options} {w : Widths}

/-! ## Emissions -/

/-- Emissions of sections that are the same but for tokens held by their advice. -/
def Emission.Alike (e e' : Emission) : Prop :=
  List.Forall₂ Section.Alike e.sections e'.sections

namespace Emission.Alike

variable {e e' : Emission} (h : e.Alike e')

include h

theorem properties : e'.properties = e.properties :=
  flatMap_eq_of_forall₂ h fun s s' alike => by
    rw [Section.properties, alike.entries, Section.properties]

theorem lines (ids : Bool) : e'.lines ids = e.lines ids :=
  flatMap_eq_of_forall₂ h fun s s' alike => by
    rw [Section.lines, alike.title, alike.entries, alike.blocks, Section.lines]

theorem entries : e'.entries = e.entries :=
  flatMap_eq_of_forall₂ h fun _ _ alike => alike.entries

theorem advice : List.Forall₂ Advice.Alike e.advice e'.advice :=
  List.rel_flatMap h fun _ _ alike => alike.advice

end Emission.Alike

theorem Catalog.Shuffled.tokensIn (h : cat.Shuffled cat') (id : String) :
    List.Forall₂ Token.Alike (cat.tokensIn id) (cat'.tokensIn id) := by
  refine forall₂_filter (h.tokens.imp fun _ _ shuffled => shuffled.alike) fun t t' alike => ?_
  rw [alike.rest]

theorem Catalog.Shuffled.inOrder (h : cat.Shuffled cat') :
    List.Forall₂ Collection.Alike cat.inOrder cat'.inOrder := by
  refine forall₂_mergeSort h.collections fun a b a' b' first second => ?_
  rw [Collection.precedes, Collection.precedes, first.domain, first.layer, second.domain,
    second.layer]

/-- One more section of partners leaves the emissions alike, which have declared the same names. -/
theorem Emission.add_alike {e e' : Emission} (h : e.Alike e') {c c' : Collection}
    (alike : c.Alike c') {ts ts' : List Token} (tokens : List.Forall₂ Token.Alike ts ts')
    (reserved : List String) :
    Lockstep Emission.Alike (e.add o reserved c ts) (e'.add o reserved c' ts') := by
  rw [Emission.add, Emission.add, h.properties]
  exact (sectionOf_alike alike tokens _).map fun s s' written =>
    List.rel_append h (.cons written .nil)

theorem emitAll_alike (h : cat.Shuffled cat') {cs cs' : List Collection}
    (partners : List.Forall₂ Collection.Alike cs cs') (reserved : List String) :
    Lockstep Emission.Alike (emitAll o reserved cat cs) (emitAll o reserved cat' cs') := by
  refine Lockstep.foldlM partners (fun e e' c c' emitted alike => ?_) .nil
  have tokens := h.tokensIn c.id
  have empty : (cat'.tokensIn c.id).isEmpty = (cat.tokensIn c.id).isEmpty := by
    rw [Bool.eq_iff_iff, List.isEmpty_iff_length_eq_zero, List.isEmpty_iff_length_eq_zero,
      tokens.length_eq]
  have bare : c'.modes.isEmpty = c.modes.isEmpty := alike.modes_perm.symm.isEmpty_eq
  dsimp only
  rw [alike.id, empty, bare]
  -- partners are passed over together
  split
  · exact .ok emitted
  · exact Emission.add_alike emitted alike tokens reserved

theorem Emission.ofCatalog_alike (h : cat.Shuffled cat') (o : Options) :
    Lockstep Emission.Alike (Emission.ofCatalog o cat) (Emission.ofCatalog o cat') := by
  have foundations : List.Forall₂ Collection.Alike
      (cat.inOrder.filter fun c => c.layer == .foundations)
      (cat'.inOrder.filter fun c => c.layer == .foundations) :=
    forall₂_filter h.inOrder fun c c' alike => by rw [alike.layer]
  have kept : Lockstep (fun names names' => names' = names) (foundationProperties o cat)
      (foundationProperties o cat') :=
    (emitAll_alike h foundations []).map fun _ _ alike => alike.properties
  refine kept.bind ?_
  rintro _ names rfl
  exact emitAll_alike h h.inOrder names

/-! ## Reports -/

/-- Reports of emissions that are alike are the same document. -/
theorem Report.document_alike {r r' : Report} (counts : r' = { r with advice := r'.advice })
    (advice : List.Forall₂ Advice.Alike r.advice r'.advice) : r'.document = r.document := by
  have onViewport : r'.viewportAdvice = r.viewportAdvice :=
    filterMap_eq_of_forall₂ advice fun a a' alike => by cases alike <;> rfl
  have onGrid : r'.proportionAdvice = r.proportionAdvice :=
    filterMap_eq_of_forall₂ advice fun a a' alike => by cases alike <;> rfl
  have onLine (f : Token × Fluid.Profile Float → Document)
      (same : ∀ t t' p, t.Alike t' → f (t', p) = f (t, p)) :
      r'.nonLinearAdvice.map f = r.nonLinearAdvice.map f := by
    rw [nonLinearAdvice, nonLinearAdvice, List.map_filterMap, List.map_filterMap]
    refine filterMap_eq_of_forall₂ advice fun a a' alike => ?_
    cases alike with
    | refl => rfl
    | nonLinear h p => exact congrArg some (same _ _ p h)
  have profiles (t t' : Token) (p : Fluid.Profile Float) (h : t.Alike t') :
      profileDocument t' p = profileDocument t p := by
    rw [h.rest]
    rfl
  rw [document, onViewport, onGrid, onLine _ fun t t' p h => profiles t t' p h, document, counts]
  rfl

theorem Report.ofEmission_alike (h : cat.Shuffled cat') {e e' : Emission} (alike : e.Alike e')
    (styles : Nat) : Report.ofEmission cat' e' styles =
      { Report.ofEmission cat e styles with advice := e'.advice } := by
  have diagnostics : cat'.diagnostics = cat.diagnostics := by
    rw [Catalog.diagnostics, h.failedLookups, h.broken, h.circular, Catalog.diagnostics]
  simp only [Report.ofEmission, h.collections.length_eq, h.tokens.length_eq, diagnostics,
    alike.entries]

/-! ## Generations -/

theorem textStyleLines_shuffled (h : cat.Shuffled cat') (styles : s'.textStyles = s.textStyles) :
    textStyleLines o s' cat' = textStyleLines o s cat := by
  simp only [textStyleLines, h.property?, styles]

/-- The order of the modes of a breakpoint collection does not show. With references preserved, a
design has the same stylesheet and the same report, read as a document, in every order of modes of
different widths, whether or not modes share an id; or there is no stylesheet in either order. -/
theorem generation_ignores_mode_order (shuffled : s.Shuffled w s')
    (preserved : o.references = .preserved) (date : Option String) :
    Lockstep (fun g g' => g'.css = g.css ∧ g'.report.document = g.report.document)
      (generate s o w date) (generate s' o w date) := by
  refine (Catalog.ofSource_shuffled shuffled preserved).bind fun c c' h => ?_
  refine (Emission.ofCatalog_alike h o).bind fun e e' alike => ?_
  rw [textStyleLines_shuffled h shuffled.textStyles, shuffled.textStyles]
  refine .bind_same fun styles => .ok ⟨?_, ?_⟩
  · dsimp only
    rw [alike.lines]
  · refine Report.document_alike ?_ alike.advice
    exact Report.ofEmission_alike h alike _

namespace NarrowFirst

/-- A text with a value in a wide and in a narrow mode. -/
def design : Design.Snapshot where
  collections := [⟨"c", "Space - 2. Aliases", [⟨"d", "Desktop"⟩, ⟨"m", "Mobile"⟩], ["v"], false⟩]
  variableRecords := [⟨"v", "gap", some "", .string, [("d", .text "wide"), ("m", .text "narrow")]⟩]
  textStyles := []

/-- The same design with the narrow mode first. -/
def narrowFirst : Design.Snapshot :=
  { design with collections :=
    [⟨"c", "Space - 2. Aliases", [⟨"m", "Mobile"⟩, ⟨"d", "Desktop"⟩], ["v"], false⟩] }

/-- The catalog of the design. -/
def catalog : Catalog where
  collections := [{
    id := "c"
    name := "Space - 2. Aliases"
    domain := "space"
    layerName := "2. Aliases"
    layer := .aliases
    modes := [⟨"d", "Desktop", some 1680⟩, ⟨"m", "Mobile", some 480⟩]
    kind := .breakpoint
    tokenIds := ["v"] }]
  tokens := [{
    id := "v"
    name := "gap"
    description := ""
    collectionId := "c"
    collectionName := "Space - 2. Aliases"
    domain := "space"
    layer := .aliases
    kind := .string
    values := [("d", .literal (.text "wide")), ("m", .literal (.text "narrow"))]
    property := "--space-gap" }]

theorem read : Catalog.ofSource design.source .default {} = .ok catalog := rfl

/-- The section of the only collection. -/
def gapSection : Section where
  title := "SPACE - 2. ALIASES"
  entries := [⟨"v", "--space-gap", .plain (.quoted "wide")⟩]
  blocks := [.media ⟨.maxWidth 1679, [⟨"--space-gap", .quoted "narrow"⟩]⟩]
  advice := []

theorem ofCatalog_catalog : Emission.ofCatalog {} catalog = .ok ⟨[gapSection]⟩ := by
  refine ofCatalog_of_only rfl (by decide) rfl ?_
  rw [sectionOf, draftOf_of_isFluid (by decide),
    Mode.widestFirst_of_descending (by simp [Mode.Descending, Mode.px])]
  rfl

theorem shuffled : design.source.Shuffled .default narrowFirst.source where
  collections := .cons (.breakpoint (by decide) (.swap _ _ _) (by decide)) .nil
  lookup := rfl
  textStyles := rfl

theorem narrowFirst_generation :
    design.source.Shuffled .default narrowFirst.source ∧ ({} : Options).references = .preserved ∧
      ∃ g g', generate design.source {} .default none = .ok g ∧
        generate narrowFirst.source {} .default none = .ok g' ∧
        g'.css = g.css ∧ g'.report.document = g.report.document := by
  have generated : ∃ g, generate design.source {} .default none = .ok g := by
    rw [generate, read, ok_bind, ofCatalog_catalog]
    exact ⟨_, rfl⟩
  obtain ⟨g, run⟩ := generated
  obtain ⟨g', run', same⟩ := (generation_ignores_mode_order shuffled rfl none).exists_of_ok run
  exact ⟨shuffled, rfl, g, g', run, run', same⟩

end NarrowFirst

end TokenSheet
