import TokenSheet.Generation.Report
import TokenSheet.Proofs.Section.Names

/-!
What a section takes from the emission before it, and what it adds.

An emission meets the next collection through one question only: which of the names of its tokens
are held back. Emissions that answer it alike get the same section (`add_depends_on_own_names`),
whatever else they hold. The section is appended, so lines and report lists grow at their end, and
the names grow by those of the tokens that the section writes (`Emission.Adds`).
-/

namespace TokenSheet

open Css (Entry Block Declaration)

variable {o : Options} {gate : Gate} {tokens : List Token} {c : Collection} {s : Section}
  {e e' : Emission} {reserved reserved' : List String}

/-! ## What a section writes -/

/-- Whether the default block of a section has an entry for a token. -/
def Section.Writes (s : Section) (t : Token) : Prop :=
  ∃ x ∈ s.entries, x.id = t.id ∧ x.property = t.property

/-- The names of a section are those of the tokens that it writes. -/
theorem mem_properties_iff_writes (run : sectionOf o gate c tokens = .ok s) {n : String} :
    n ∈ s.properties ↔ ∃ t ∈ tokens, s.Writes t ∧ t.property = n := by
  rw [Section.properties, List.mem_map]
  constructor
  · rintro ⟨x, entry, rfl⟩
    obtain ⟨t, mem, id, property, -⟩ := sectionOf_entry run entry
    exact ⟨t, mem, ⟨x, entry, id, property⟩, property.symm⟩
  · rintro ⟨t, -, ⟨x, entry, -, property⟩, rfl⟩
    exact ⟨x, entry, property⟩

/-- A declaration of a further block is for a token whose id the default block has. -/
theorem exists_token_of_declaration (run : sectionOf o gate c tokens = .ok s) {b : Block}
    (block : b ∈ s.blocks) {d : Declaration} (mem : d ∈ b.declarations) :
    ∃ t ∈ tokens, d.property = t.property ∧ t.id ∈ declaredIds s.entries := by
  rcases sectionOf_shape run with ⟨-, empty⟩ | ⟨gateMode, standard, -, -, shape⟩
  · rw [empty] at block
    cases block
  · cases shape.blocks b block d mem with
    | value listed declared writes =>
        obtain ⟨-, v, -, rfl⟩ := declaration?_eq_ok.1 writes
        exact ⟨_, listed, rfl, declared⟩
    | piece entry same interpolated =>
        obtain ⟨t, passed, stands⟩ := shape.entries _ entry
        exact ⟨t, admitted_sublist.subset passed, same.trans stands.property,
          stands.id ▸ List.mem_map_of_mem entry⟩

/-- A section writes lines exactly if it declares a name. -/
theorem Section.lines_eq_nil_iff {ids : Bool} : s.lines ids = [] ↔ s.properties = [] := by
  rw [lines, properties, List.map_eq_nil_iff]
  by_cases empty : s.entries = []
  · simp [empty]
  · simp [empty, banner]

/-! ## Growth -/

/-- A report whose lists are those of a first report, followed by those of a second one. -/
structure Report.Follows (whole first second : Report) : Prop where
  viewportProperties :
    whole.viewportProperties = first.viewportProperties ++ second.viewportProperties
  viewportAdvice : whole.viewportAdvice = first.viewportAdvice ++ second.viewportAdvice
  proportionProperties :
    whole.proportionProperties = first.proportionProperties ++ second.proportionProperties
  proportionAdvice : whole.proportionAdvice = first.proportionAdvice ++ second.proportionAdvice
  piecewiseProperties :
    whole.piecewiseProperties = first.piecewiseProperties ++ second.piecewiseProperties
  nonLinearAdvice : whole.nonLinearAdvice = first.nonLinearAdvice ++ second.nonLinearAdvice

/-- Every list of a report is picked from the entries or from the advice. -/
theorem Report.follows_of_append {whole first second : Report}
    (entries : whole.entries = first.entries ++ second.entries)
    (advice : whole.advice = first.advice ++ second.advice) : whole.Follows first second where
  viewportProperties := by simp only [Report.viewportProperties, entries, List.filterMap_append]
  viewportAdvice := by simp only [Report.viewportAdvice, advice, List.filterMap_append]
  proportionProperties := by simp only [Report.proportionProperties, entries, List.filterMap_append]
  proportionAdvice := by simp only [Report.proportionAdvice, advice, List.filterMap_append]
  piecewiseProperties := by simp only [Report.piecewiseProperties, entries, List.filterMap_append]
  nonLinearAdvice := by simp only [Report.nonLinearAdvice, advice, List.filterMap_append]

/-- What the section of some tokens adds to an emission, and all that it adds. -/
structure Emission.Adds (ids : Bool) (tokens : List Token) (s : Section) (before after : Emission) :
    Prop where
  sections : after.sections = before.sections ++ [s]
  lines : after.lines ids = before.lines ids ++ s.lines ids
  report : ∀ catalog count, (Report.ofEmission catalog after count).Follows
    (Report.ofEmission catalog before count) (Report.ofEmission catalog ⟨[s]⟩ count)
  /-- The names are those from before and those of the tokens that the section writes. -/
  properties : ∀ n, n ∈ after.properties ↔
    n ∈ before.properties ∨ ∃ t ∈ tokens, s.Writes t ∧ t.property = n
  /-- Further blocks only repeat tokens, by their ids, that the default block has. -/
  repeats : ∀ b ∈ s.blocks, ∀ d ∈ b.declarations,
    ∃ t ∈ tokens, d.property = t.property ∧ t.id ∈ declaredIds s.entries
  /-- Without a name there is no line either. -/
  silent : s.properties = [] → after.lines ids = before.lines ids

theorem Emission.adds_of_sectionOf (ids : Bool) (run : sectionOf o gate c tokens = .ok s) :
    e.Adds ids tokens s ⟨e.sections ++ [s]⟩ where
  sections := rfl
  lines := by rw [lines, List.flatMap_append, List.flatMap_singleton]; rfl
  report catalog count := by
    refine Report.follows_of_append ?_ ?_
    · exact List.flatMap_append
    · exact List.flatMap_append
  properties n := by
    rw [properties, List.flatMap_append, List.flatMap_singleton, List.mem_append,
      mem_properties_iff_writes run]
    rfl
  repeats b block d mem := exists_token_of_declaration run block mem
  silent none := by
    rw [lines, List.flatMap_append, List.flatMap_singleton, Section.lines_eq_nil_iff.2 none,
      List.append_nil]
    rfl

/-- Emissions in which the same ones of the names of some tokens are held back fail both with the
section of these tokens, or both get the same section added. -/
theorem add_depends_on_own_names
    (alike : Gate.AlikeOn ⟨e.properties, reserved⟩ tokens ⟨e'.properties, reserved'⟩) :
    (∃ error, e.add o reserved c tokens = .error error ∧
      e'.add o reserved' c tokens = .error error) ∨
    ∃ s after after', e.add o reserved c tokens = .ok after ∧
      e'.add o reserved' c tokens = .ok after' ∧
      e.Adds o.ids tokens s after ∧ e'.Adds o.ids tokens s after' := by
  have same : sectionOf o ⟨e'.properties, reserved'⟩ c tokens =
      sectionOf o ⟨e.properties, reserved⟩ c tokens := (sectionOf_congr alike).symm
  rw [Emission.add, Emission.add, same]
  cases run : sectionOf o ⟨e.properties, reserved⟩ c tokens with
  | error error => exact .inl ⟨error, rfl, rfl⟩
  | ok s =>
      exact .inr ⟨s, _, _, rfl, rfl, Emission.adds_of_sectionOf o.ids run,
        Emission.adds_of_sectionOf o.ids run⟩

namespace TwoStarts

/-- A collection with a light and a dark mode. -/
def themes : Collection where
  id := "c"
  name := "Color - 2. Aliases"
  domain := "color"
  layerName := "2. Aliases"
  layer := .aliases
  modes := [⟨"l", "Light", none⟩, ⟨"d", "Dark", none⟩]
  kind := .theme
  tokenIds := ["v", "w", "u"]

/-- A text token of the collection. -/
def themed (id property light dark : String) : Token where
  id := id
  name := property
  description := ""
  collectionId := themes.id
  collectionName := themes.name
  domain := themes.domain
  layer := themes.layer
  kind := .string
  values := [("l", .literal (.text light)), ("d", .literal (.text dark))]
  property := property

/-- Two tokens of one name, and one whose name an earlier section has. -/
def inks : List Token :=
  [themed "v" "--color-ink" "black" "white", themed "w" "--color-ink" "navy" "sky",
    themed "u" "--color-paper" "white" "black"]

/-- A section with an entry for each of some names. -/
def sectionFor (names : List String) : Section where
  title := "COLOR - 1. FOUNDATIONS"
  entries := names.map fun n => ⟨n, n, .plain (.quoted "some")⟩
  blocks := []
  advice := []

/-- An emission with names that the tokens do not have. -/
def long : Emission := ⟨[sectionFor ["--space-gap"], sectionFor ["--color-paper", "--color-edge"]]⟩

/-- An emission with the one name that matters to the tokens. -/
def short : Emission := ⟨[sectionFor ["--color-paper"]]⟩

/-- The section of the tokens: the first of the two with one name, in all of its blocks. -/
def inkSection : Section where
  title := "COLOR - 2. ALIASES"
  entries := [⟨"v", "--color-ink", .plain (.quoted "black")⟩]
  blocks := [.scheme ⟨"light", [⟨"--color-ink", .quoted "black"⟩]⟩,
    .scheme ⟨"dark", [⟨"--color-ink", .quoted "white"⟩]⟩,
    .chosenThemes [⟨"light", [⟨"--color-ink", .quoted "black"⟩]⟩,
      ⟨"dark", [⟨"--color-ink", .quoted "white"⟩]⟩]]
  advice := []

theorem add_long :
    long.add {} ["--space-unit"] themes inks = .ok ⟨long.sections ++ [inkSection]⟩ := rfl

theorem ink_depends_on_paper_only :
    Gate.AlikeOn ⟨long.properties, ["--space-unit"]⟩ inks ⟨short.properties, []⟩ ∧
      ∃ s after after', long.add {} ["--space-unit"] themes inks = .ok after ∧
        short.add {} [] themes inks = .ok after' ∧
        long.Adds false inks s after ∧ short.Adds false inks s after' := by
  have alike : Gate.AlikeOn ⟨long.properties, ["--space-unit"]⟩ inks ⟨short.properties, []⟩ :=
    ⟨by decide, by decide⟩
  refine ⟨alike, (add_depends_on_own_names alike).resolve_left ?_⟩
  rintro ⟨error, fails, -⟩
  cases add_long.symm.trans fails

end TwoStarts

end TokenSheet
