import TokenSheet.Proofs.Css.Companions
import TokenSheet.Proofs.Stylesheet.DeclaredNames
import TokenSheet.Proofs.Stylesheet.Overrides

/-!
The companions of proportions among the names of a stylesheet.

All that a stylesheet writes are the names of its tokens and the companions of its proportions
(`Emission.writes_iff`). Only the names are held back from later sections, so nothing keeps a token
away from a companion. Which tokens get there is decided by how they are named: a companion is
declared once more exactly if a token whose name ends in the mark of companions is given that name
(`companions_meet_names_iff`). In a design without such names the companions stay apart.
-/

namespace TokenSheet

open Css (Entry Block companion)
open Design (Source)

variable {o : Options} {cat : Catalog} {e : Emission} {n : String}

/-! ## What is written -/

/-- The name that an entry writes beside its own. -/
def Css.Entry.companion? (x : Entry) : Option String :=
  match x.form with
  | .proportion _ => some (companion x.property)
  | _ => none

/-- The companions of the proportions of a section. -/
def Section.companions (s : Section) : List String :=
  s.entries.filterMap Entry.companion?

/-- The companions of all proportions. -/
def Emission.companions (e : Emission) : List String :=
  e.sections.flatMap Section.companions

/-- A token with a name that a companion may have. -/
def Token.NamesCompanion (t : Token) : Prop :=
  Css.NamesCompanion t.name t.domain t.layer

theorem Css.Entry.companion?_eq_some {x : Entry} (own : x.companion? = some n) :
    n = companion x.property := by
  unfold companion? at own
  split at own
  · exact (Option.some.inj own).symm
  · cases own

theorem Css.Entry.writes_iff (x : Entry) :
    (∃ d ∈ x.written, d.property = n) ↔ x.property = n ∨ x.companion? = some n := by
  obtain ⟨id, property, form⟩ := x
  cases form <;> simp [Entry.written, Entry.declared, Entry.companion?]

/-- What a block writes are its declarations. -/
theorem Css.Block.exists_declaration {b : Block} {d : Css.Written} (mem : d ∈ b.written) :
    ∃ x ∈ b.declarations, x.property = d.property := by
  have of_writtenFor {circumstance : Css.Circumstance} {ds : List Css.Declaration}
      (mem : d ∈ Css.writtenFor circumstance ds) : ∃ x ∈ ds, x.property = d.property := by
    obtain ⟨x, inside, rfl⟩ := List.mem_map.1 mem
    exact ⟨x, inside, rfl⟩
  cases b with
  | media b => exact of_writtenFor mem
  | pieces label b => exact of_writtenFor mem
  | scheme b => exact of_writtenFor mem
  | furtherTheme b => exact of_writtenFor mem
  | chosenThemes bs =>
    obtain ⟨b, block, mem⟩ := List.mem_flatMap.1 mem
    obtain ⟨x, inside, same⟩ := of_writtenFor mem
    exact ⟨x, List.mem_flatMap.2 ⟨b, block, inside⟩, same⟩
  | fallback bs =>
    obtain ⟨b, block, mem⟩ := List.mem_flatMap.1 mem
    obtain ⟨x, inside, same⟩ := of_writtenFor mem
    exact ⟨x, List.mem_flatMap.2 ⟨b, block, inside⟩, same⟩

theorem Section.writes_iff {s : Section}
    (repeats : ∀ b ∈ s.blocks, ∀ d ∈ b.declarations, d.property ∈ s.properties) :
    (∃ d ∈ s.written, d.property = n) ↔ n ∈ s.properties ∨ n ∈ s.companions := by
  have entries : (∃ d ∈ s.entries.flatMap Entry.written, d.property = n) ↔
      n ∈ s.properties ∨ n ∈ s.companions := by
    simp only [Section.properties, Section.companions, List.mem_map, List.mem_filterMap,
      List.mem_flatMap, ← exists_or, ← and_or_left, ← Entry.writes_iff]
    constructor
    · intro written
      obtain ⟨d, ⟨x, mem, inside⟩, same⟩ := written
      exact ⟨x, mem, d, inside, same⟩
    · intro known
      obtain ⟨x, mem, d, inside, same⟩ := known
      exact ⟨d, ⟨x, mem, inside⟩, same⟩
  constructor
  · intro written
    obtain ⟨d, mem, same⟩ := written
    rcases List.mem_append.1 mem with inside | inside
    · exact entries.1 ⟨d, inside, same⟩
    · obtain ⟨b, block, inside⟩ := List.mem_flatMap.1 inside
      obtain ⟨x, declared, same'⟩ := Block.exists_declaration inside
      left
      rw [← same, ← same']
      exact repeats b block x declared
  · intro known
    obtain ⟨d, inside, same⟩ := entries.2 known
    exact ⟨d, List.mem_append_left _ inside, same⟩

/-- A stylesheet writes the names of its tokens and their companions. -/
theorem Emission.writes_iff
    (repeats : ∀ s ∈ e.sections, ∀ b ∈ s.blocks, ∀ d ∈ b.declarations, d.property ∈ s.properties) :
    (∃ d ∈ e.written, d.property = n) ↔ n ∈ e.properties ∨ n ∈ e.companions := by
  simp only [Emission.properties, Emission.companions, List.mem_flatMap, ← exists_or, ← and_or_left]
  constructor
  · intro written
    obtain ⟨d, mem, same⟩ := written
    obtain ⟨s, listed, inside⟩ := List.mem_flatMap.1 mem
    exact ⟨s, listed, (Section.writes_iff (repeats s listed)).1 ⟨d, inside, same⟩⟩
  · intro known
    obtain ⟨s, listed, known⟩ := known
    obtain ⟨d, inside, same⟩ := (Section.writes_iff (repeats s listed)).2 known
    exact ⟨d, List.mem_flatMap.2 ⟨s, listed, inside⟩, same⟩

/-! ## Companions as names -/

theorem Catalog.mem_tokens_of_gives {c : Collection} {t : Token} (given : cat.Gives o c t n) :
    t ∈ cat.tokens :=
  (List.mem_filter.1 given.mem).1

/-- A companion belongs to a proportion that is a token of the catalog. -/
theorem exists_token_of_mem_companions (run : Emission.ofCatalog o cat = .ok e)
    (mem : n ∈ e.companions) : ∃ t ∈ cat.tokens, n = companion t.property := by
  obtain ⟨s, listed, mem⟩ := List.mem_flatMap.1 mem
  obtain ⟨x, entry, own⟩ := List.mem_filterMap.1 mem
  have declared : x.property ∈ e.properties :=
    List.mem_flatMap.2 ⟨s, listed, List.mem_map_of_mem entry⟩
  obtain ⟨c, -, t, given, -⟩ := (mem_properties_iff_grants run).1 declared
  refine ⟨t, Catalog.mem_tokens_of_gives given, ?_⟩
  rw [given.2]
  exact Entry.companion?_eq_some own

/-- A token that has the name of a companion is named for it. -/
theorem Token.namesCompanion_of_property {t u : Token}
    (given : t.property = Css.propertyName t.name t.domain t.layer)
    (given' : u.property = Css.propertyName u.name u.domain u.layer)
    (same : u.property = companion t.property) : u.NamesCompanion := by
  have hyphens : t.property = "--" ++ String.ofList (Css.identifier t.name t.domain t.layer) := by
    rw [given, Css.propertyName_eq_iff, String.toList_ofList]
  have companioned : Css.propertyName u.name u.domain u.layer =
      companion ("--" ++ String.ofList (Css.identifier t.name t.domain t.layer)) := by
    rw [← given', same, hyphens]
  exact (Css.exists_companion_iff u.name u.domain u.layer).1 ⟨_, companioned⟩

/-- Where companions meet names. A stylesheet writes the names that it declares for tokens and the
companions of its proportions. A companion is also declared for a token exactly if a token that is
named for a companion is given that name in a section that may declare it; so none is in a design
without tokens named for companions. -/
theorem companions_meet_names_iff {s : Source} {w : Widths} {reading : Options}
    (faithful : s.Faithful) (distinct : (s.localCollections.map (·.id)).Nodup)
    (read : Catalog.ofSource s w reading = .ok cat) (run : Emission.ofCatalog o cat = .ok e) :
    (∀ n, (∃ d ∈ e.written, d.property = n) ↔ n ∈ e.properties ∨ n ∈ e.companions) ∧
      (∀ n ∈ e.companions, n ∈ e.properties ↔
        ∃ c ∈ cat.rendered, ∃ u, cat.Gives o c u n ∧ u.NamesCompanion ∧
          (u.layer = .foundations ∨ ¬ cat.IsReserved o n)) ∧
      ((∀ u ∈ cat.tokens, ¬ u.NamesCompanion) → ∀ n ∈ e.companions, n ∉ e.properties) := by
  have given := Catalog.ofSource_propertiesGiven read
  have named : ∀ n ∈ e.companions, ∀ c u, cat.Gives o c u n → u.NamesCompanion := by
    intro n mem c u gives
    obtain ⟨t, listed, same⟩ := exists_token_of_mem_companions run mem
    have listed' := Catalog.mem_tokens_of_gives gives
    exact Token.namesCompanion_of_property (given t listed) (given u listed') (gives.2.trans same)
  refine ⟨?_, ?_, ?_⟩
  · intro n
    obtain ⟨names, -, owned⟩ :=
      namesOwned_of_orderly (Catalog.ofSource_orderly read faithful distinct) run
    exact Emission.writes_iff owned.repeats
  · intro n mem
    rw [mem_properties_iff_grants run]
    constructor
    · intro declares
      obtain ⟨c, rendered, u, gives, free⟩ := declares
      exact ⟨c, rendered, u, gives, named n mem c u gives, free⟩
    · intro declares
      obtain ⟨c, rendered, u, gives, -, free⟩ := declares
      exact ⟨c, rendered, u, gives, free⟩
  · intro unnamed n mem declared
    obtain ⟨c, -, u, gives, -⟩ := (mem_properties_iff_grants run).1 declared
    exact unnamed u (Catalog.mem_tokens_of_gives gives) (named n mem c u gives)

namespace TakenCompanion

/-- A design with a proportion among its foundations and a text that is called like its companion. -/
def design : Design.Snapshot where
  collections :=
    [⟨"a", "Space - 1. Foundations", [⟨"d", "Desktop"⟩, ⟨"m", "Mobile"⟩], ["v"], false⟩,
      ⟨"b", "Space - 2. Aliases", [⟨"x", "Value"⟩], ["u"], false⟩]
  variableRecords := [⟨"v", "proportion-half", some "", .float,
      [("d", .number (.int 60)), ("m", .number (.int 50))]⟩,
    ⟨"u", "proportion-half--fr", some "", .string, [("x", .text "wide")]⟩]
  textStyles := []

/-- The collection of the proportion. -/
def foundations : Collection where
  id := "a"
  name := "Space - 1. Foundations"
  domain := "space"
  layerName := "1. Foundations"
  layer := .foundations
  modes := [⟨"d", "Desktop", some 1680⟩, ⟨"m", "Mobile", some 480⟩]
  kind := .breakpoint
  tokenIds := ["v"]

/-- The collection of the text. -/
def aliases : Collection where
  id := "b"
  name := "Space - 2. Aliases"
  domain := "space"
  layerName := "2. Aliases"
  layer := .aliases
  modes := [⟨"x", "Value", none⟩]
  kind := .single
  tokenIds := ["u"]

/-- The catalog of the design. -/
def catalog : Catalog where
  collections := [foundations, aliases]
  tokens := [foundations.number "v" "proportion-half" "--space-proportion-half" [("d", 60), ("m", 50)],
    SharedName.token aliases "u" "proportion-half--fr" "--space-proportion-half--fr" "x"
      (.literal (.text "wide"))]

theorem read : Catalog.ofSource design.source .default {} = .ok catalog := rfl

/-- The section of the proportion. -/
def foundationsSection : Section where
  title := "SPACE - 1. FOUNDATIONS"
  entries := [⟨"v", "--space-proportion-half", .proportion 6⟩]
  blocks := []
  advice := [.proportion "--space-proportion-half" "proportion-half" 6]

/-- The section of the text. -/
def aliasesSection : Section where
  title := "SPACE - 2. ALIASES"
  entries := [⟨"u", "--space-proportion-half--fr", .plain (.quoted "wide")⟩]
  blocks := []
  advice := []

theorem widestFirst_modes : Mode.widestFirst foundations.modes = foundations.modes :=
  Mode.widestFirst_of_descending (by simp [Mode.Descending, foundations, Mode.px])

theorem rendered_catalog : catalog.rendered = [foundations, aliases] := by
  have inOrder : catalog.inOrder = [foundations, aliases] :=
    List.mergeSort_of_pairwise (List.pairwise_pair.2 (by decide))
  rw [Catalog.rendered, inOrder]
  rfl

theorem foundations_run (reserved : List String) :
    sectionOf {} ⟨[], reserved⟩ foundations (catalog.tokensIn foundations.id) =
      .ok foundationsSection := by
  rw [sectionOf, draftOf_of_isFluid (by decide), widestFirst_modes]
  rfl

theorem ofCatalog_catalog :
    Emission.ofCatalog {} catalog = .ok ⟨[foundationsSection, aliasesSection]⟩ := by
  have kept : foundationProperties {} catalog = .ok ["--space-proportion-half"] := by
    refine foundationProperties_eq_ok.2 ⟨[foundationsSection], ?_, rfl⟩
    rw [rendered_catalog]
    exact .cons (foundations_run []) .nil
  refine ofCatalog_eq_ok.2 ⟨_, kept, ?_⟩
  rw [rendered_catalog]
  exact .cons (foundations_run _) (.cons rfl .nil)

/-- The text is named for a companion, so it meets one. -/
theorem half_fr_meets_companion :
    ∃ c ∈ catalog.rendered, ∃ u, catalog.Gives {} c u "--space-proportion-half--fr" ∧
      u.NamesCompanion ∧
        (u.layer = .foundations ∨ ¬ catalog.IsReserved {} "--space-proportion-half--fr") := by
  have distinct : (design.source.localCollections.map (·.id)).Nodup := by decide
  obtain ⟨-, meets, -⟩ :=
    companions_meet_names_iff design.source_faithful distinct read ofCatalog_catalog
  exact (meets "--space-proportion-half--fr" (by decide)).1 (by decide)

/-- The companion of the proportion, declared in the first section, is declared again for another
token in the second one. -/
theorem companion_declared_again :
    design.source.Faithful ∧ (design.source.localCollections.map (·.id)).Nodup ∧
      (design.source.localCollections.flatMap (·.variableIds)).Nodup ∧
      Catalog.ofSource design.source .default {} = .ok catalog ∧
      Emission.ofCatalog {} catalog = .ok ⟨[foundationsSection, aliasesSection]⟩ ∧
      companion "--space-proportion-half" ∈ foundationsSection.companions ∧
      companion "--space-proportion-half" ∈ aliasesSection.properties := by
  refine ⟨design.source_faithful, by decide, by decide, read, ofCatalog_catalog, ?_, ?_⟩
  · decide
  · decide

end TakenCompanion

end TokenSheet
