import TokenSheet.Proofs.Catalog.Provenance
import TokenSheet.Proofs.Section.ValueOrder

/-!
Catalogs of designs with modes in another order.

The modes of a breakpoint collection are the order in which its tokens list their values, and
nothing else in a catalog depends on it: a token has one value at most in a mode, so that it answers
alike in every order. References are named by the tokens that they lead to, and these keep their
ids and properties.
-/

namespace TokenSheet

open Design (Source RawCollection RawMode RawVariable)

variable {w : Widths}

/-- A collection as it is exported, or, if it varies over different widths, with its modes in
another order. -/
inductive Design.RawCollection.Shuffled (w : Widths) : RawCollection → RawCollection → Prop
  | refl (c : RawCollection) : RawCollection.Shuffled w c c
  | breakpoint {c : RawCollection} {modes : List RawMode}
      (kind : (Collection.ofRaw w c).kind = .breakpoint) (perm : c.modes.Perm modes)
      (distinct : ((Collection.ofRaw w c).modes.map (·.px)).Nodup) :
      RawCollection.Shuffled w c { c with modes }

/-- Designs that differ at most in the order of the modes of breakpoint collections. -/
structure Design.Source.Shuffled (w : Widths) (s s' : Source) : Prop where
  collections : List.Forall₂ (RawCollection.Shuffled w) s.collections s'.collections
  lookup : s'.lookup = s.lookup
  textStyles : s'.textStyles = s.textStyles

/-! ## Collections -/

theorem ModeKind.ofModes_perm {modes modes' : List Mode} (perm : modes.Perm modes') :
    ofModes modes' = ofModes modes := by
  rw [ofModes, perm.symm.length_eq, perm.symm.all_eq, perm.symm.any_eq, ofModes]

theorem Design.RawCollection.Shuffled.ofRaw {c c' : RawCollection} (h : c.Shuffled w c') :
    (Collection.ofRaw w c).Alike (Collection.ofRaw w c') := by
  cases h with
  | refl => exact .refl _
  | @breakpoint modes kind perm distinct =>
      have perm := perm.map (Mode.ofRaw w)
      have classified : Collection.ofRaw w { c with modes } =
          { Collection.ofRaw w c with modes := modes.map (Mode.ofRaw w) } := by
        simp only [Collection.ofRaw, ModeKind.ofModes_perm perm]
      rw [classified]
      exact .breakpoint kind perm distinct

theorem Design.Source.Shuffled.localCollections {s s' : Source} (h : s.Shuffled w s') :
    List.Forall₂ (RawCollection.Shuffled w) s.localCollections s'.localCollections :=
  forall₂_filter h.collections fun c c' shuffled => by cases shuffled <;> rfl

/-! ## Tokens -/

/-- Tokens with the same values in another order, one at most for each mode. -/
structure Token.Shuffled (t t' : Token) : Prop where
  rest : t' = { t with values := t'.values }
  values : t.values.Perm t'.values
  modes : (t.values.map (·.1)).Nodup

theorem Token.Shuffled.alike {t t' : Token} (h : t.Shuffled t') : t.Alike t' where
  rest := h.rest
  valueIn := funext fun modeId => (lookup_perm h.modes h.values modeId).symm
  hasReference := h.values.symm.any_eq

theorem Token.ofRaw_shuffled {c c' : Collection} (h : c.Alike c') (colors : ColorNotation)
    (v : RawVariable) :
    Lockstep Token.Shuffled (Token.ofRaw colors c v) (Token.ofRaw colors c' v) := by
  have modeIds := eraseDups_perm (h.modes_perm.map (·.id))
  have values : Lockstep (fun t t' => t' = { t with values := t'.values } ∧
      t.values.Perm t'.values) (Token.ofRaw colors c v) (Token.ofRaw colors c' v) := by
    refine (Lockstep.filterMapM_perm modeIds).map fun values values' perm => ⟨?_, perm⟩
    rw [h.rest]
  exact values.imp fun t t' read _ ⟨rest, perm⟩ =>
    ⟨rest, perm, Catalog.ofRaw_values_nodup read⟩

namespace Catalog

/-- Catalogs with the same content, modes and values in another order. -/
structure Shuffled (cat cat' : Catalog) : Prop where
  collections : List.Forall₂ Collection.Alike cat.collections cat'.collections
  tokens : List.Forall₂ Token.Shuffled cat.tokens cat'.tokens
  failedLookups : cat'.failedLookups = cat.failedLookups
  broken : cat'.broken = cat.broken
  circular : cat'.circular = cat.circular

variable {s s' : Source} {cat cat' : Catalog} {colors : ColorNotation}

theorem readTokens_shuffled {c c' : Collection} (h : c.Alike c') (lookup : s'.lookup = s.lookup) :
    Lockstep (List.Forall₂ Token.Shuffled) (readTokens s colors c) (readTokens s' colors c') := by
  have listed : listedVariables s' c' = listedVariables s c := by
    rw [listedVariables, lookup, h.tokenIds, listedVariables]
  rw [readTokens, readTokens, listed]
  have itself : List.Forall₂ Eq (listedVariables s c) (listedVariables s c) := List.forall₂_refl _
  refine Lockstep.mapM itself ?_
  rintro v _ rfl
  exact Token.ofRaw_shuffled h colors v

theorem unnamed_shuffled (h : s.Shuffled w s') :
    Lockstep Shuffled (unnamed s w colors) (unnamed s' w colors) := by
  have collections : List.Forall₂ Collection.Alike (s.localCollections.map (Collection.ofRaw w))
      (s'.localCollections.map (Collection.ofRaw w)) :=
    List.rel_map (fun _ _ shuffled => shuffled.ofRaw) h.localCollections
  refine (Lockstep.mapM collections fun _ _ alike => readTokens_shuffled alike h.lookup).map
    fun ts ts' tokens => ⟨collections, List.rel_flatten tokens, ?_, rfl, rfl⟩
  refine flatMap_eq_of_forall₂ collections fun c c' alike => ?_
  rw [failedLookupsOf, h.lookup, alike.tokenIds, failedLookupsOf]

/-! ## References -/

/-- What an id stands for keeps its property. -/
theorem Shuffled.property? (h : cat.Shuffled cat') (id : String) :
    (cat'.token? id).map (·.property) = (cat.token? id).map (·.property) :=
  find?_map_eq_of_forall₂ (List.rel_reverse h.tokens)
    (fun _ _ shuffled => by rw [shuffled.alike.id]) fun _ _ shuffled => shuffled.alike.property

theorem Shuffled.nameValue (h : cat.Shuffled cat') : cat'.nameValue = cat.nameValue := by
  funext v
  cases v with
  | literal l => rfl
  | reference target property? => rw [Catalog.nameValue, h.property?, Catalog.nameValue]

theorem Shuffled.isBroken (h : cat.Shuffled cat') : cat'.isBroken = cat.isBroken := by
  funext v
  cases v with
  | literal l => rfl
  | reference target property? =>
      rw [Catalog.isBroken, ← Option.isNone_map (f := (·.property)), h.property?,
        Option.isNone_map, Catalog.isBroken]

theorem Shuffled.nameToken (h : cat.Shuffled cat') {t t' : Token} (shuffled : t.Shuffled t') :
    (cat.nameToken t).Shuffled (cat'.nameToken t') where
  rest := by
    rw [Catalog.nameToken, shuffled.rest]
    rfl
  values := by
    rw [Catalog.nameToken, Catalog.nameToken, h.nameValue]
    exact shuffled.values.map _
  modes := by
    rw [Catalog.nameToken, List.map_map]
    exact shuffled.modes

theorem Shuffled.nameReferences (h : cat.Shuffled cat') :
    cat.nameReferences.Shuffled cat'.nameReferences where
  collections := h.collections
  tokens := List.rel_map (fun _ _ shuffled => h.nameToken shuffled) h.tokens
  failedLookups := h.failedLookups
  broken := by
    refine map_eq_of_forall₂ (forall₂_filter h.tokens fun t t' shuffled => ?_)
      fun _ _ shuffled => shuffled.alike.name
    rw [h.isBroken, shuffled.values.any_eq]
  circular := h.circular

/-- With references preserved, the catalogs differ in the order of modes and values. -/
theorem ofSource_shuffled (h : s.Shuffled w s') {o : Options}
    (preserved : o.references = .preserved) :
    Lockstep Shuffled (ofSource s w o) (ofSource s' w o) := by
  refine (unnamed_shuffled h).bind fun cat cat' shuffled => ?_
  rw [preserved]
  exact .ok shuffled.nameReferences

end Catalog

end TokenSheet
