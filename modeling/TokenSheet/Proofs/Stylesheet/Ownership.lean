import TokenSheet.Proofs.Catalog.Provenance
import TokenSheet.Proofs.Section.Names
import TokenSheet.Proofs.Stylesheet.Run

/-!
Who may declare a name in a whole stylesheet.

The names of the foundations are found by a run over the foundations alone, and kept for them in the
run over all collections. Both runs give the foundations the same sections, since their names do not
hold them back. Every other name goes to the first section that declares it.
-/

namespace TokenSheet

open Design (Source)

variable {o : Options} {reserved names taken : List String} {cat : Catalog} {cs : List Collection}
  {ss : List Section}

/-- In a stylesheet that keeps some names for the foundations, every name has its owner. -/
structure NamesOwned (cat : Catalog) (names : List String) (e : Emission) : Prop where
  /-- Each collection with tokens and modes has its section. -/
  sections : e.sections.length = cat.rendered.length
  /-- The entries of a section stand for tokens of its collection, and have its layer. -/
  origin : ∀ p ∈ cat.rendered.zip e.sections, ∀ x ∈ p.2.entries,
    ∃ t ∈ cat.tokensIn p.1.id, t.layer = p.1.layer ∧ x.id = t.id ∧ x.property = t.property
  /-- The names that are kept are those that foundations declare. -/
  foundations : ∀ n, n ∈ names ↔
    ∃ p ∈ cat.rendered.zip e.sections, p.1.layer = .foundations ∧ n ∈ p.2.properties
  /-- No other layer declares them, in any block. -/
  exclusive : ∀ p ∈ cat.rendered.zip e.sections, p.1.layer ≠ .foundations →
    ∀ n ∈ names, ¬ p.2.Declares n
  /-- Every other name is declared once. -/
  once : ∀ n, n ∉ names → e.properties.count n ≤ 1
  /-- Further blocks repeat names of the default block of their section. -/
  repeats : ∀ s ∈ e.sections, ∀ b ∈ s.blocks, ∀ d ∈ b.declarations, d.property ∈ s.properties

namespace Succession

/-- Alone or among all collections, behind any gate, the foundations have the same sections. -/
theorem foundations_eq (h : Succession o reserved cat taken cs ss) (orderly : cat.Orderly)
    (known : ∀ c ∈ cs, c ∈ cat.collections) {reserved' taken' : List String} {ss' : List Section}
    (alone : Succession o reserved' cat taken' (cs.filter fun c => c.layer == .foundations) ss') :
    ss' = ((cs.zip ss).filter fun p => p.1.layer == .foundations).map (·.2) := by
  induction h generalizing taken' ss' with
  | nil =>
      cases alone
      rfl
  | @cons taken c s cs ss first others ih =>
      obtain ⟨here, there⟩ := List.forall_mem_cons.1 known
      rw [List.zip_cons_cons]
      by_cases layer : c.layer == .foundations
      · rw [List.filter_cons, if_pos layer] at alone
        rw [List.filter_cons, if_pos layer, List.map_cons]
        cases alone with
        | cons first' others' =>
            have foundations : ∀ t ∈ cat.tokensIn c.id, t.layer = .foundations := by
              intro t mem
              rw [orderly.layer c here t mem, beq_iff_eq.1 layer]
            rw [sectionOf_foundations foundations _ ⟨taken, reserved⟩, first] at first'
            rw [← Except.ok.inj first', ih there others']
      · rw [List.filter_cons, if_neg layer] at alone
        rw [List.filter_cons, if_neg layer]
        exact ih there alone

/-- A name that no foundations declare is declared at most once, and not at all if it is taken. -/
theorem count_le_one (h : Succession o reserved cat taken cs ss) (orderly : cat.Orderly)
    (known : ∀ c ∈ cs, c ∈ cat.collections) {n : String} (once : taken.count n ≤ 1)
    (foreign : ∀ p ∈ cs.zip ss, p.1.layer = .foundations → n ∉ p.2.properties) :
    (taken ++ ss.flatMap Section.properties).count n ≤ 1 := by
  induction h with
  | nil => rwa [List.flatMap_nil, List.append_nil]
  | @cons taken c s cs ss first others ih =>
      obtain ⟨here, there⟩ := List.forall_mem_cons.1 known
      rw [List.zip_cons_cons] at foreign
      obtain ⟨foreign, foreign'⟩ := List.forall_mem_cons.1 foreign
      rw [List.flatMap_cons, ← List.append_assoc]
      refine ih there ?_ foreign'
      rw [List.count_append]
      by_cases declared : n ∈ s.properties
      · have other : c.layer ≠ .foundations := fun layer => foreign layer declared
        have layers : ∀ t ∈ cat.tokensIn c.id, t.layer ≠ .foundations :=
          fun t mem => orderly.layer c here t mem ▸ other
        obtain ⟨e, entry, rfl⟩ := List.mem_map.1 declared
        obtain ⟨t, mem, -, -, free⟩ := sectionOf_entry first entry
        have fresh : taken.count e.property = 0 := List.count_eq_zero.2 (free (layers t mem)).1
        have own := List.nodup_iff_count_le_one.1 (sectionOf_properties_nodup first layers)
          e.property
        omega
      · rw [List.count_eq_zero.2 declared]
        exact once

end Succession

/-- The stylesheet of an orderly catalog gives every name its owner. -/
theorem namesOwned_of_orderly {e : Emission} (orderly : cat.Orderly)
    (run : Emission.ofCatalog o cat = .ok e) :
    ∃ names, foundationProperties o cat = .ok names ∧ NamesOwned cat names e := by
  obtain ⟨names, pre, all⟩ := ofCatalog_eq_ok.1 run
  obtain ⟨ss, alone, kept⟩ := foundationProperties_eq_ok.1 pre
  have known : ∀ c ∈ cat.rendered, c ∈ cat.collections :=
    fun c mem => (Catalog.mem_rendered.1 mem).1
  have foundations : ∀ n, n ∈ names ↔
      ∃ p ∈ cat.rendered.zip e.sections, p.1.layer = .foundations ∧ n ∈ p.2.properties := by
    intro n
    rw [← kept, all.foundations_eq orderly known alone]
    simp only [List.mem_flatMap, List.mem_map, List.mem_filter, beq_iff_eq]
    constructor
    · rintro ⟨s, ⟨p, ⟨mem, layer⟩, rfl⟩, declared⟩
      exact ⟨p, mem, layer, declared⟩
    · rintro ⟨p, mem, layer, declared⟩
      exact ⟨p.2, ⟨p, ⟨mem, layer⟩, rfl⟩, declared⟩
  have repeats : ∀ p ∈ cat.rendered.zip e.sections, ∀ b ∈ p.2.blocks, ∀ d ∈ b.declarations,
      d.property ∈ p.2.properties := by
    intro p mem b block d inside
    obtain ⟨listed, before, made⟩ := all.exists_sectionOf mem
    exact sectionOf_repeats made (orderly.property p.1 (known p.1 listed)) block inside
  refine ⟨names, pre, all.length_eq, ?_, foundations, ?_, ?_, ?_⟩
  · intro p mem x entry
    obtain ⟨listed, before, made⟩ := all.exists_sectionOf mem
    obtain ⟨t, token, id, property, -⟩ := sectionOf_entry made entry
    exact ⟨t, token, orderly.layer p.1 (known p.1 listed) t token, id, property⟩
  · intro p mem other n kept declares
    have free : n ∉ p.2.properties := by
      intro declared
      obtain ⟨listed, before, made⟩ := all.exists_sectionOf mem
      obtain ⟨x, entry, rfl⟩ := List.mem_map.1 declared
      obtain ⟨t, token, -, -, free⟩ := sectionOf_entry made entry
      have layer := orderly.layer p.1 (known p.1 listed) t token
      exact (free (layer ▸ other)).2 kept
    rcases declares with declared | ⟨b, block, d, inside, rfl⟩
    · exact free declared
    · exact free (repeats p mem b block d inside)
  · intro n others
    have once := all.count_le_one orderly known (Nat.zero_le 1 : [].count n ≤ 1)
      fun p mem layer declared => others ((foundations n).2 ⟨p, mem, layer, declared⟩)
    rwa [List.nil_append] at once
  · intro s mem
    obtain ⟨c, pair⟩ := all.exists_pair mem
    exact repeats (c, s) pair

/-- In the stylesheet of a design whose collections have distinct ids every name has its owner,
whatever the options of the reading and of the export. -/
theorem names_owned {s : Source} {w : Widths} {reading : Options} {e : Emission}
    (faithful : s.Faithful) (distinct : (s.localCollections.map (·.id)).Nodup)
    (read : Catalog.ofSource s w reading = .ok cat)
    (run : Emission.ofCatalog o cat = .ok e) :
    ∃ names, foundationProperties o cat = .ok names ∧ NamesOwned cat names e :=
  namesOwned_of_orderly (Catalog.ofSource_orderly read faithful distinct) run

namespace SharedName

/-- A design in which a mapping has the name of a foundation that is written after it. -/
def design : Design.Snapshot where
  collections := [⟨"b", "Brand - 3. Mappings", [⟨"x", "Value"⟩], ["u", "v"], false⟩,
    ⟨"a", "Space - 1. Foundations", [⟨"m", "Value"⟩], ["t"], false⟩]
  variableRecords := [⟨"t", "unit", some "", .string, [("m", .text "small")]⟩,
    ⟨"u", "space/unit", some "", .string, [("x", .text "large")]⟩,
    ⟨"v", "gap", some "", .string,
      [("x", .mapping [(.text "id", .text "t"), (.text "type", .text "VARIABLE_ALIAS")])]⟩]
  textStyles := []

/-- The collection of the mappings. -/
def mappings : Collection where
  id := "b"
  name := "Brand - 3. Mappings"
  domain := "brand"
  layerName := "3. Mappings"
  layer := .mappings
  modes := [⟨"x", "Value", none⟩]
  kind := .single
  tokenIds := ["u", "v"]

/-- The collection of the foundation. -/
def foundations : Collection where
  id := "a"
  name := "Space - 1. Foundations"
  domain := "space"
  layerName := "1. Foundations"
  layer := .foundations
  modes := [⟨"m", "Value", none⟩]
  kind := .single
  tokenIds := ["t"]

/-- A token of one of them. -/
def token (c : Collection) (id name property modeId : String) (value : TokenValue) : Token where
  id := id
  name := name
  description := ""
  collectionId := c.id
  collectionName := c.name
  domain := c.domain
  layer := c.layer
  kind := .string
  values := [(modeId, value)]
  property := property

/-- The catalog of the design. -/
def catalog : Catalog where
  collections := [mappings, foundations]
  tokens := [token mappings "u" "space/unit" "--space-unit" "x" (.literal (.text "large")),
    token mappings "v" "gap" "--gap" "x" (.reference "t" (some "--space-unit")),
    token foundations "t" "unit" "--space-unit" "m" (.literal (.text "small"))]

theorem read : Catalog.ofSource design.source .default {} = .ok catalog := rfl

/-- The section of the mappings, without the name of the foundation. -/
def mappingsSection : Section where
  title := "BRAND - 3. MAPPINGS"
  entries := [⟨"v", "--gap", .plain (.reference "--space-unit")⟩]
  blocks := []
  advice := []

/-- The section of the foundation. -/
def foundationsSection : Section where
  title := "SPACE - 1. FOUNDATIONS"
  entries := [⟨"t", "--space-unit", .plain (.quoted "small")⟩]
  blocks := []
  advice := []

theorem inOrder_catalog : catalog.inOrder = [mappings, foundations] :=
  List.mergeSort_of_pairwise (List.pairwise_pair.2 (by decide))

theorem rendered_catalog : catalog.rendered = [mappings, foundations] := by
  rw [Catalog.rendered, inOrder_catalog]
  rfl

theorem foundationProperties_catalog : foundationProperties {} catalog = .ok ["--space-unit"] := by
  refine foundationProperties_eq_ok.2 ⟨[foundationsSection], ?_, rfl⟩
  rw [rendered_catalog]
  exact .cons rfl .nil

theorem ofCatalog_catalog :
    Emission.ofCatalog {} catalog = .ok ⟨[mappingsSection, foundationsSection]⟩ := by
  refine ofCatalog_eq_ok.2 ⟨_, foundationProperties_catalog, ?_⟩
  rw [rendered_catalog]
  exact .cons rfl (.cons rfl .nil)

theorem design_names_owned :
    design.source.Faithful ∧ (design.source.localCollections.map (·.id)).Nodup ∧
      Catalog.ofSource design.source .default {} = .ok catalog ∧
      Emission.ofCatalog {} catalog = .ok ⟨[mappingsSection, foundationsSection]⟩ ∧
      ∃ names, foundationProperties {} catalog = .ok names ∧
        NamesOwned catalog names ⟨[mappingsSection, foundationsSection]⟩ := by
  have distinct : (design.source.localCollections.map (·.id)).Nodup := by decide
  exact ⟨design.source_faithful, distinct, read, ofCatalog_catalog,
    names_owned design.source_faithful distinct read ofCatalog_catalog⟩

end SharedName

end TokenSheet
