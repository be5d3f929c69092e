import TokenSheet.Generation.Basic
import TokenSheet.Proofs.Catalog.Flattening
import TokenSheet.Proofs.Catalog.Rearrangement
import TokenSheet.Proofs.Section.SelfReference
import TokenSheet.Proofs.Stylesheet.DeclaredNames

/-!
What the references of a stylesheet refer to.

A reference is written with the property of a token that the catalog finds under the id of its
target, in token sections as in text styles. Whether that property is declared is decided apart from
the reference, where the target is written: it is, if some token with the property is written in the
default mode of its collection and the name is not lost there (`references_are_declared`). Nothing
holds back a reference whose target is written nowhere (`LoneReference`).
-/

namespace TokenSheet

open Css (Entry Block Declaration)
open Design (Source RawTextStyle)
open Typography (StyleProperty)

variable {s : Source} {w : Widths} {o : Options} {cat : Catalog} {e : Emission} {t : Token}
  {gate : Gate} {c : Collection} {sec : Section} {n : String}

/-! ## Targets -/

/-- Whether a name is the property of a token that the catalog finds. -/
def Catalog.Finds (cat : Catalog) (n : String) : Prop :=
  ∃ id t, cat.token? id = some t ∧ t.property = n

/-- Whether all references of a catalog carry names that it finds. -/
def Catalog.NamesTargets (cat : Catalog) : Prop :=
  ∀ t ∈ cat.tokens, ∀ modeId target n, t.valueIn modeId = some (.reference target (some n)) →
    cat.Finds n

namespace Catalog

theorem nameReferences_namesTargets (c : Catalog) : c.nameReferences.NamesTargets := by
  intro t mem modeId target n value
  obtain ⟨u, -, rfl⟩ := List.mem_map.1 mem
  obtain ⟨v, -, named⟩ := List.mem_map.1 (mem_of_lookup value)
  have named : c.nameValue v.2 = .reference target (some n) := congrArg Prod.snd named
  cases old : v.2 with
  | literal l =>
      rw [old, nameValue] at named
      cases named
  | reference target' property? =>
      rw [old, nameValue] at named
      have found : (c.token? target').map (·.property) = some n := (TokenValue.reference.inj named).2
      obtain ⟨x, token, rfl⟩ := Option.map_eq_some_iff.1 found
      have kept : c.nameReferences.token? target' = (c.token? target').map c.nameToken :=
        token?_map (f := c.nameToken) (fun _ => rfl) target'
      rw [token] at kept
      exact ⟨target', c.nameToken x, kept, rfl⟩

/-- A flat catalog has no references. -/
theorem flatten_namesTargets (c : Catalog) : c.flatten.NamesTargets := by
  intro t mem modeId target n value
  obtain ⟨u, -, rfl⟩ := List.mem_map.1 mem
  obtain ⟨v, -, kept⟩ := List.mem_filterMap.1 (mem_of_lookup value)
  obtain ⟨flat, literal, same⟩ := Option.map_eq_some_iff.1 kept
  have still := flatValue?_isReference literal
  cases same
  cases still

/-- In the catalog of a design the references carry names of tokens that it finds. -/
theorem ofSource_namesTargets (read : Catalog.ofSource s w o = .ok cat) : cat.NamesTargets := by
  obtain ⟨unnamed, -, done⟩ := bind_eq_ok.1 read
  split at done
  · rw [← pure_eq_ok.1 done]
    exact nameReferences_namesTargets unnamed
  · rw [← pure_eq_ok.1 done]
    exact flatten_namesTargets unnamed.nameReferences

end Catalog

/-! ## References -/

/-- The property of the token that a property of a text style is bound to. -/
def Typography.boundProperty? (propertyOf? : String → Option String) (style : RawTextStyle)
    (p : StyleProperty) : Option String :=
  ((style.bindings.lookup p.key).filter (· != "")).bind propertyOf?

theorem Typography.boundValue_of_bound {propertyOf? : String → Option String}
    {style : RawTextStyle} {p : StyleProperty} (bound : boundProperty? propertyOf? style p = some n) :
    boundValue propertyOf? style p = .ok ("var(" ++ n ++ ")") := by
  rw [boundProperty?] at bound
  rw [boundValue, bound]

/-- Whether a section refers to a name, in its default block or in a further one. -/
def Section.RefersTo (sec : Section) (n : String) : Prop :=
  (∃ x ∈ sec.entries, x.target? = some n) ∨
    ∃ b ∈ sec.blocks, ∃ d ∈ b.declarations, d.value.target? = some n

/-- Whether the text styles refer to a name. -/
def StylesReferTo (o : Options) (s : Source) (cat : Catalog) (n : String) : Prop :=
  o.textStyles ∧ ∃ style ∈ s.textStyles, ∃ p,
    Typography.boundProperty? (fun id => (cat.token? id).map (·.property)) style p = some n

/-- Whether a stylesheet refers to a name. -/
def Emission.RefersTo (o : Options) (s : Source) (cat : Catalog) (e : Emission) (n : String) : Prop :=
  (∃ sec ∈ e.sections, sec.RefersTo n) ∨ StylesReferTo o s cat n

/-- The references of a section are values of its tokens. -/
theorem sectionOf_refersTo {tokens : List Token} (run : sectionOf o gate c tokens = .ok sec)
    (refers : sec.RefersTo n) :
    ∃ t ∈ tokens, ∃ modeId target, t.valueIn modeId = some (.reference target (some n)) := by
  have of_rendered {t : Token} {modeId : String} (mem : t ∈ tokens)
      (rendered : t.rendered o modeId = .ok (some (.reference n))) :
      ∃ t ∈ tokens, ∃ modeId target, t.valueIn modeId = some (.reference target (some n)) := by
    obtain ⟨-, -, target, value⟩ := Token.rendered_eq_reference.1 rendered
    exact ⟨t, mem, modeId, target, value⟩
  rcases sectionOf_shape run with ⟨no_entries, no_blocks⟩ | ⟨gateMode, standard, -, -, shape⟩
  · rcases refers with ⟨x, mem, -⟩ | ⟨b, mem, -⟩
    · rw [no_entries] at mem
      cases mem
    · rw [no_blocks] at mem
      cases mem
  · rcases refers with ⟨x, mem, target⟩ | ⟨b, block, d, mem, target⟩
    · obtain ⟨t, passed, stands⟩ := shape.entries x mem
      exact of_rendered (admitted_sublist.subset passed) (stands.target n target)
    · cases shape.blocks b block d mem with
      | value listed _ writes =>
          obtain ⟨-, v, rendered, rfl⟩ := declaration?_eq_ok.1 writes
          have reference : v = .reference n := Css.Value.eq_reference_of_target? target
          rw [reference] at rendered
          exact of_rendered listed rendered
      | piece _ _ interpolated =>
          rw [interpolated] at target
          cases target

/-- Every reference of a stylesheet has the name of a token that the catalog finds. -/
theorem Emission.RefersTo.finds (names : cat.NamesTargets)
    (run : Emission.ofCatalog o cat = .ok e) (refers : e.RefersTo o s cat n) : cat.Finds n := by
  rcases refers with ⟨sec, mem, refers⟩ | ⟨-, style, -, p, bound⟩
  · obtain ⟨reserved, -, all⟩ := ofCatalog_eq_ok.1 run
    obtain ⟨c, pair⟩ := all.exists_pair mem
    obtain ⟨-, before, made⟩ := all.exists_sectionOf pair
    obtain ⟨t, inside, modeId, target, value⟩ := sectionOf_refersTo made refers
    exact names t (List.mem_filter.1 inside).1 modeId target n value
  · obtain ⟨id, -, property⟩ := Option.bind_eq_some_iff.1 bound
    obtain ⟨t, token, rfl⟩ := Option.map_eq_some_iff.1 property
    exact ⟨id, t, token, rfl⟩

/-! ## Declarations at the root -/

/-- Whether an entry of a default block declares a name; a proportion also declares a companion. -/
def Css.Entry.Declares (x : Entry) (n : String) : Prop :=
  x.property = n ∨ ∃ columns, x.form = .proportion columns ∧ Css.companion x.property = n

/-- Whether a default block of a stylesheet declares a name: that of a section, or that of the text
styles where they are custom properties. -/
def Emission.DeclaresAtRoot (o : Options) (s : Source) (e : Emission) (n : String) : Prop :=
  (∃ sec ∈ e.sections, ∃ x ∈ sec.entries, x.Declares n) ∨
    o.textStyles ∧ o.textStyleForm = .properties ∧ ∃ style ∈ s.textStyles, ∃ p : StyleProperty,
      "--" ++ Typography.styleSlug style.name ++ "-" ++ p.suffix = n

theorem Emission.declaresAtRoot_of_mem_properties (declared : n ∈ e.properties) :
    e.DeclaresAtRoot o s n := by
  obtain ⟨sec, mem, declared⟩ := List.mem_flatMap.1 declared
  obtain ⟨x, entry, same⟩ := List.mem_map.1 declared
  exact .inl ⟨sec, mem, x, entry, .inl same⟩

/-- What a stylesheet refers to is the property of a token of its catalog. It is declared at the root
if any token with that property has an entry by its value in the default mode of its collection,
unless the name is lost there. -/
theorem references_are_declared (read : Catalog.ofSource s w o = .ok cat)
    (run : Emission.ofCatalog o cat = .ok e) (refers : e.RefersTo o s cat n) :
    (∃ id t, cat.token? id = some t ∧ t.property = n) ∧
      ∀ c ∈ cat.collections, ∀ t ∈ cat.tokensIn c.id, t.property = n →
        ∀ standard, c.standardMode? o = some standard → t.Opens standard.id →
          c.HasEntry o standard t → e.DeclaresAtRoot o s n ∨ NameLoss o cat c standard t := by
  refine ⟨refers.finds (Catalog.ofSource_namesTargets read) run, ?_⟩
  rintro c listed t inside rfl standard default opens entry
  rcases Catalog.grants_or_lost listed inside default opens entry with granted | lost
  · left
    exact Emission.declaresAtRoot_of_mem_properties ((mem_properties_iff_grants run).2 granted)
  · right
    exact lost

namespace SharedName

/-- The reference of the shared design to the name of the foundation, which is declared. -/
theorem space_unit_reference_declared :
    Catalog.ofSource design.source .default {} = .ok catalog ∧
      Emission.ofCatalog {} catalog = .ok ⟨[mappingsSection, foundationsSection]⟩ ∧
      (Emission.mk [mappingsSection, foundationsSection]).RefersTo {} design.source catalog
        "--space-unit" ∧
      (∃ id t, catalog.token? id = some t ∧ t.property = "--space-unit") ∧
      ∀ c ∈ catalog.collections, ∀ t ∈ catalog.tokensIn c.id, t.property = "--space-unit" →
        ∀ standard, c.standardMode? {} = some standard → t.Opens standard.id →
          c.HasEntry {} standard t →
            (Emission.mk [mappingsSection, foundationsSection]).DeclaresAtRoot {} design.source
              "--space-unit" ∨ NameLoss {} catalog c standard t := by
  have refers : (Emission.mk [mappingsSection, foundationsSection]).RefersTo {} design.source catalog
      "--space-unit" :=
    .inl ⟨mappingsSection, List.mem_cons_self, .inl ⟨_, List.mem_cons_self, rfl⟩⟩
  exact ⟨read, ofCatalog_catalog, refers, references_are_declared read ofCatalog_catalog refers⟩

end SharedName

namespace LoneReference

/-- A variable that refers to one without a value. -/
def design : Design.Snapshot where
  collections := [⟨"c", "Space - 2. Aliases", [⟨"m", "Value"⟩], ["v", "u"], false⟩]
  variableRecords := [⟨"v", "gap", some "", .string,
      [("m", .mapping [(.text "id", .text "u"), (.text "type", .text "VARIABLE_ALIAS")])]⟩,
    ⟨"u", "base", some "", .string, []⟩]
  textStyles := []

/-- The only collection of the design. -/
def collection : Collection where
  id := "c"
  name := "Space - 2. Aliases"
  domain := "space"
  layerName := "2. Aliases"
  layer := .aliases
  modes := [⟨"m", "Value", none⟩]
  kind := .single
  tokenIds := ["v", "u"]

/-- A token of the collection. -/
def token (id name property : String) (values : List (String × TokenValue)) : Token where
  id := id
  name := name
  description := ""
  collectionId := collection.id
  collectionName := collection.name
  domain := collection.domain
  layer := collection.layer
  kind := .string
  values := values
  property := property

/-- The catalog of the design. -/
def catalog : Catalog where
  collections := [collection]
  tokens := [token "v" "gap" "--space-gap" [("m", .reference "u" (some "--space-base"))],
    token "u" "base" "--space-base" []]

/-- The stylesheet of the design, `--space-gap: var(--space-base)`. -/
def stylesheet : Emission :=
  ⟨[⟨"SPACE - 2. ALIASES", [⟨"v", "--space-gap", .plain (.reference "--space-base")⟩], [], []⟩]⟩

/-- The stylesheet refers to a name that it does not declare. -/
theorem reference_may_be_undeclared :
    Catalog.ofSource design.source .default {} = .ok catalog ∧
      Emission.ofCatalog {} catalog = .ok stylesheet ∧
      stylesheet.RefersTo {} design.source catalog "--space-base" ∧
      ¬ stylesheet.DeclaresAtRoot {} design.source "--space-base" := by
  refine ⟨rfl, ofCatalog_of_only rfl (by decide) rfl rfl, ?_, ?_⟩
  · exact .inl ⟨_, List.mem_cons_self, .inl ⟨_, List.mem_cons_self, rfl⟩⟩
  · rintro (⟨sec, mem, x, entry, declares⟩ | ⟨asked, -⟩)
    · obtain rfl := List.mem_singleton.1 mem
      obtain rfl := List.mem_singleton.1 entry
      rcases declares with same | ⟨columns, form, -⟩
      · revert same
        decide
      · cases form
    · cases asked

end LoneReference

end TokenSheet
