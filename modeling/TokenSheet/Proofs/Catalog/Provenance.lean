import TokenSheet.Catalog.Reading
import TokenSheet.Proofs.Lists
import TokenSheet.Proofs.Steps

/-!
Where the tokens of a catalog come from.

Each token stands for a variable that a collection of the design lists: it has the id of the
variable, the layer of the collection, and the property that the two give (`FromListing`). Naming
references and flattening change values only. If no two collections share an id, and a look-up
answers with the variable that was asked for, the tokens under one collection id therefore agree on
the layer, and on the property wherever they agree on the id (`Orderly`).
-/

namespace TokenSheet

open Design (Source RawVariable)

/-! ## Sources -/

/-- A look-up that finds a variable finds the one with the id asked for. -/
def Design.Source.Faithful (s : Source) : Prop :=
  ∀ id v, s.lookup id = .ok (some v) → v.id = id

theorem Design.Snapshot.source_faithful (s : Design.Snapshot) : s.source.Faithful := by
  intro id v found
  have found := Except.ok.inj found
  unfold Design.Snapshot.lookup? at found
  simpa using List.find?_some found

/-- The look-ups of listed variables that fail, in the order of the listings, with their reasons. -/
def Design.Source.failedListings (s : Source) : List (String × String) :=
  s.localCollections.flatMap fun c => c.variableIds.filterMap fun id =>
    match s.lookup id with
    | .ok _ => none
    | .error failure => some (id, failure.reason)

namespace Catalog

/-! ## Listings -/

/-- A token that stands for a variable listed by a collection. -/
structure FromListing (s : Source) (c : Collection) (v : RawVariable) (t : Token) : Prop where
  listed : ∃ id ∈ c.tokenIds, s.lookup id = .ok (some v)
  id : t.id = v.id
  collection : t.collectionId = c.id
  layer : t.layer = c.layer
  property : t.property = Css.propertyName v.name c.domain c.layer

/-- Tokens that all come from the listings of some collections. -/
def Listed (s : Source) (collections : List Collection) (tokens : List Token) : Prop :=
  ∀ t ∈ tokens, ∃ c ∈ collections, ∃ v, FromListing s c v t

variable {s : Source} {w : Widths} {o : Options}

theorem mem_listedVariables {c : Collection} {v : RawVariable} :
    v ∈ listedVariables s c ↔ ∃ id ∈ c.tokenIds, s.lookup id = .ok (some v) := by
  unfold listedVariables
  rw [List.mem_filterMap]
  refine exists_congr fun id => and_congr_right fun _ => ?_
  cases s.lookup id with
  | ok found => simp
  | error failure => simp

theorem fromListing_of_ofRaw {colors : ColorNotation} {c : Collection} {v : RawVariable} {t : Token}
    (listed : v ∈ listedVariables s c) (run : Token.ofRaw colors c v = .ok t) :
    FromListing s c v t := by
  obtain ⟨values, -, done⟩ := bind_eq_ok.1 run
  rw [← pure_eq_ok.1 done]
  exact ⟨mem_listedVariables.1 listed, rfl, rfl, rfl, rfl⟩

/-- The tokens that are read are those of the variables that some collection lists. -/
theorem exists_ofRaw_of_mem {colors : ColorNotation} {cat : Catalog}
    (run : unnamed s w colors = .ok cat) {t : Token} (mem : t ∈ cat.tokens) :
    ∃ c ∈ cat.collections, ∃ v ∈ listedVariables s c, Token.ofRaw colors c v = .ok t := by
  obtain ⟨tokens, read, done⟩ := bind_eq_ok.1 run
  rw [← pure_eq_ok.1 done] at mem ⊢
  obtain ⟨ts, group, mem⟩ := List.mem_flatten.1 mem
  obtain ⟨c, listing, read⟩ := mem_mapM read group
  obtain ⟨v, listed, made⟩ := mem_mapM read mem
  exact ⟨c, listing, v, listed, made⟩

theorem unnamed_listed {colors : ColorNotation} {cat : Catalog}
    (run : unnamed s w colors = .ok cat) :
    cat.collections = s.localCollections.map (Collection.ofRaw w) ∧
      Listed s cat.collections cat.tokens := by
  constructor
  · obtain ⟨tokens, -, done⟩ := bind_eq_ok.1 run
    rw [← pure_eq_ok.1 done]
  · intro t mem
    obtain ⟨c, listing, v, listed, made⟩ := exists_ofRaw_of_mem run mem
    exact ⟨c, listing, v, fromListing_of_ofRaw listed made⟩

theorem flatMap_failedLookupsOf (s : Source) (w : Widths) :
    (s.localCollections.map (Collection.ofRaw w)).flatMap (failedLookupsOf s) =
      s.failedListings := by
  rw [List.flatMap_map]
  rfl

theorem unnamed_failedLookups {colors : ColorNotation} {cat : Catalog}
    (run : unnamed s w colors = .ok cat) : cat.failedLookups = s.failedListings := by
  obtain ⟨tokens, -, done⟩ := bind_eq_ok.1 run
  rw [← pure_eq_ok.1 done]
  exact flatMap_failedLookupsOf s w

/-- Tokens that only change their values still come from the listings. -/
theorem Listed.map {collections : List Collection} {tokens : List Token} {f : Token → Token}
    (h : Listed s collections tokens) (same : ∀ t, ∃ values, f t = { t with values }) :
    Listed s collections (tokens.map f) := by
  refine List.forall_mem_map.2 fun t mem => ?_
  obtain ⟨c, listing, v, from_listing⟩ := h t mem
  obtain ⟨values, change⟩ := same t
  rw [change]
  exact ⟨c, listing, v, from_listing.listed, from_listing.id, from_listing.collection,
    from_listing.layer, from_listing.property⟩

theorem nameReferences_listed {cat : Catalog} (h : Listed s cat.collections cat.tokens) :
    Listed s cat.nameReferences.collections cat.nameReferences.tokens :=
  h.map fun _ => ⟨_, rfl⟩

theorem flatten_listed {cat : Catalog} (h : Listed s cat.collections cat.tokens) :
    Listed s cat.flatten.collections cat.flatten.tokens :=
  h.map fun _ => ⟨_, rfl⟩

/-- The tokens of the catalog of a design come from the listings of its collections. -/
theorem ofSource_listed {cat : Catalog} (run : ofSource s w o = .ok cat) :
    cat.collections = s.localCollections.map (Collection.ofRaw w) ∧
      Listed s cat.collections cat.tokens := by
  obtain ⟨unnamed, read, done⟩ := bind_eq_ok.1 run
  obtain ⟨collections, listed⟩ := unnamed_listed read
  have named := nameReferences_listed listed
  split at done
  · rw [← pure_eq_ok.1 done]
    exact ⟨collections, named⟩
  · rw [← pure_eq_ok.1 done]
    exact ⟨collections, flatten_listed named⟩

theorem ofSource_failedLookups {cat : Catalog} (run : ofSource s w o = .ok cat) :
    cat.failedLookups = s.failedListings := by
  obtain ⟨unnamed, read, done⟩ := bind_eq_ok.1 run
  rw [← unnamed_failedLookups read]
  split at done <;> rw [← pure_eq_ok.1 done] <;> rfl

/-! ## Modes -/

/-- Every token of a catalog has one value at most in a mode. -/
def OneValuePerMode (cat : Catalog) : Prop :=
  ∀ t ∈ cat.tokens, (t.values.map (·.1)).Nodup

theorem ofRaw_values_nodup {colors : ColorNotation} {c : Collection} {v : RawVariable} {t : Token}
    (run : Token.ofRaw colors c v = .ok t) : (t.values.map (·.1)).Nodup := by
  obtain ⟨values, read, done⟩ := bind_eq_ok.1 run
  rw [← pure_eq_ok.1 done]
  have kept : (values.map (·.1)).Sublist ((c.modes.map (·.id)).eraseDups.map id) := by
    refine filterMapM_map_sublist read fun modeId _ e step => ?_
    obtain ⟨value, -, done⟩ := bind_eq_ok.1 step
    obtain ⟨_, -, rfl⟩ := Option.map_eq_some_iff.1 (pure_eq_ok.1 done)
    rfl
  rw [List.map_id] at kept
  exact (eraseDups_nodup _).sublist kept

theorem unnamed_oneValuePerMode {colors : ColorNotation} {cat : Catalog}
    (run : unnamed s w colors = .ok cat) : cat.OneValuePerMode := by
  intro t mem
  obtain ⟨c, -, v, -, made⟩ := exists_ofRaw_of_mem run mem
  exact ofRaw_values_nodup made

theorem OneValuePerMode.nameReferences {cat : Catalog} (h : cat.OneValuePerMode) :
    cat.nameReferences.OneValuePerMode := by
  refine List.forall_mem_map.2 fun t mem => ?_
  rw [nameToken, List.map_map]
  exact h t mem

/-! ## Properties -/

/-- Every token of a catalog has the property that its name gives in its domain and layer. -/
def PropertiesGiven (cat : Catalog) : Prop :=
  ∀ t ∈ cat.tokens, t.property = Css.propertyName t.name t.domain t.layer

theorem unnamed_propertiesGiven {colors : ColorNotation} {cat : Catalog}
    (run : unnamed s w colors = .ok cat) : cat.PropertiesGiven := by
  intro t mem
  obtain ⟨c, -, v, -, made⟩ := exists_ofRaw_of_mem run mem
  obtain ⟨values, -, done⟩ := bind_eq_ok.1 made
  rw [← pure_eq_ok.1 done]

/-- Tokens that only change their values keep the properties that they are given. -/
theorem PropertiesGiven.map {cat : Catalog} {f : Token → Token} (h : cat.PropertiesGiven)
    (same : ∀ t, ∃ values, f t = { t with values }) :
    ∀ t ∈ cat.tokens.map f, t.property = Css.propertyName t.name t.domain t.layer := by
  refine List.forall_mem_map.2 ?_
  intro t mem
  obtain ⟨values, change⟩ := same t
  rw [change]
  exact h t mem

theorem ofSource_propertiesGiven {cat : Catalog} (run : ofSource s w o = .ok cat) :
    cat.PropertiesGiven := by
  obtain ⟨unnamed, read, done⟩ := bind_eq_ok.1 run
  have named : unnamed.nameReferences.PropertiesGiven :=
    (unnamed_propertiesGiven read).map fun _ => ⟨_, rfl⟩
  split at done
  · rw [← pure_eq_ok.1 done]
    exact named
  · rw [← pure_eq_ok.1 done]
    exact named.map fun _ => ⟨_, rfl⟩

/-! ## Order -/

/-- A catalog in which the tokens under a collection id agree on their layer, and on the property
where they agree on the id. -/
structure Orderly (cat : Catalog) : Prop where
  layer : ∀ c ∈ cat.collections, ∀ t ∈ cat.tokensIn c.id, t.layer = c.layer
  property : ∀ c ∈ cat.collections, ∀ t ∈ cat.tokensIn c.id, ∀ u ∈ cat.tokensIn c.id,
    t.id = u.id → t.property = u.property

/-- Where collections have distinct ids, the tokens under the id of a collection are those that it
lists. -/
theorem Listed.of_mem_tokensIn {cat : Catalog} (h : Listed s cat.collections cat.tokens)
    (distinct : (cat.collections.map (·.id)).Nodup) {c : Collection} (listing : c ∈ cat.collections)
    {t : Token} (mem : t ∈ cat.tokensIn c.id) : ∃ v, FromListing s c v t := by
  obtain ⟨mem, same⟩ := List.mem_filter.1 mem
  obtain ⟨c', listing', v, from_listing⟩ := h t mem
  have ids : c'.id = c.id := from_listing.collection.symm.trans (beq_iff_eq.1 same)
  obtain rfl := List.inj_on_of_nodup_map distinct listing' listing ids
  exact ⟨v, from_listing⟩

/-- The catalog of a faithful design whose collections have distinct ids is orderly. -/
theorem ofSource_orderly {cat : Catalog} (run : ofSource s w o = .ok cat) (faithful : s.Faithful)
    (distinct : (s.localCollections.map (·.id)).Nodup) : cat.Orderly := by
  obtain ⟨collections, listed⟩ := ofSource_listed run
  have distinct' : (cat.collections.map (·.id)).Nodup := by
    rw [collections, List.map_map]
    exact distinct
  constructor
  · intro c listing t mem
    obtain ⟨v, from_listing⟩ := listed.of_mem_tokensIn distinct' listing mem
    exact from_listing.layer
  · intro c listing t mem u mem' same
    obtain ⟨v, first⟩ := listed.of_mem_tokensIn distinct' listing mem
    obtain ⟨v', second⟩ := listed.of_mem_tokensIn distinct' listing mem'
    obtain ⟨id, -, found⟩ := first.listed
    obtain ⟨id', -, found'⟩ := second.listed
    -- equal ids were looked up, so the variables are one
    have looked_up : id = id' := by
      rw [← faithful id v found, ← faithful id' v' found', ← first.id, ← second.id, same]
    rw [looked_up] at found
    have one : v = v' := Option.some.inj (Except.ok.inj (found.symm.trans found'))
    rw [first.property, second.property, one]

end Catalog

end TokenSheet
