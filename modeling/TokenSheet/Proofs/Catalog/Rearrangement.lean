import Mathlib.Data.List.Pairwise
import Mathlib.Data.Prod.Lex
import Mathlib.Data.String.Basic
import TokenSheet.Proofs.Catalog.Lookups
import TokenSheet.Proofs.Catalog.Provenance
import TokenSheet.Proofs.Lockstep
import TokenSheet.Stylesheet.Emission

/-!
Catalogs in another order.

A design may list its collections in another order. As long as collections that are written in one
place keep their order, the catalogs hold the same collections in the order of writing, and the same
tokens below each of them (`unnamed_rearranged`). If no id stands for two things they also answer
alike, so that naming references and flattening keep them rearrangements of each other.
-/

namespace TokenSheet

open Design (Source RawVariable RawCollection)

/-! ## Places -/

/-- Where a collection is written: by its domain, then by the rank of its layer. -/
def Design.RawCollection.place (c : RawCollection) : String × Nat :=
  ((CollectionName.ofName c.name).domain, (Layer.ofName c.name).rank)

/-- Where a classified collection is written. -/
def Collection.place (c : Collection) : String × Nat :=
  (c.domain, c.layer.rank)

theorem Collection.precedes_iff {a b : Collection} :
    a.precedes b ↔ toLex a.place ≤ toLex b.place := by
  simp [precedes, place, Prod.Lex.toLex_le_toLex]

theorem Collection.precedes_trans (a b c : Collection) (h : a.precedes b) (h' : b.precedes c) :
    a.precedes c :=
  precedes_iff.2 (le_trans (precedes_iff.1 h) (precedes_iff.1 h'))

theorem Collection.precedes_total (a b : Collection) : a.precedes b || b.precedes a := by
  rw [Bool.or_eq_true, precedes_iff, precedes_iff]
  exact le_total _ _

/-- Collections precede each other if they have one place. -/
theorem Collection.precedes_antisymm_iff {a b : Collection} :
    (a.precedes b && b.precedes a) = decide (b.place = a.place) := by
  rw [Bool.eq_iff_iff, Bool.and_eq_true, precedes_iff, precedes_iff, decide_eq_true_eq]
  refine ⟨fun h => toLex.injective (le_antisymm h.2 h.1), fun same => ?_⟩
  rw [same]
  exact ⟨le_rfl, le_rfl⟩

/-- Designs that list the same collections, those of one place in the same order. -/
structure Design.Source.Reordered (s s' : Source) : Prop where
  collections : s.collections.Perm s'.collections
  inPlace : ∀ place : String × Nat, (s.collections.filter fun c => c.place = place) =
    s'.collections.filter fun c => c.place = place
  lookup : s'.lookup = s.lookup
  textStyles : s'.textStyles = s.textStyles

/-- Collections that do not share an id, nor the id of a variable. -/
structure Design.Source.Apart (s : Source) : Prop where
  collections : (s.localCollections.map (·.id)).Nodup
  listings : s.localCollections.Pairwise fun c c' => c.variableIds.Disjoint c'.variableIds

theorem Design.Source.Reordered.localCollections {s s' : Source} (h : s.Reordered s') :
    s.localCollections.Perm s'.localCollections :=
  h.collections.filter _

namespace Catalog

variable {s s' : Source} {w : Widths} {colors : ColorNotation} {cat cat' : Catalog}

/-! ## Rearrangements -/

/-- Catalogs of the same content, in the same order as far as it is written. -/
structure Rearranged (cat cat' : Catalog) : Prop extends AnswersAlike cat cat' where
  collections : cat.collections.Perm cat'.collections
  inOrder : cat.inOrder = cat'.inOrder
  tokens : cat.tokens.Perm cat'.tokens
  tokensIn : ∀ id, cat.tokensIn id = cat'.tokensIn id
  failedLookups : cat.failedLookups.Perm cat'.failedLookups
  broken : cat.broken.Perm cat'.broken
  circular : cat.circular.Perm cat'.circular

/-- A change of the values of tokens does not change what a look-up finds. -/
theorem token?_map {f : Token → Token} (ids : ∀ t, (f t).id = t.id) (id : String) :
    token? { cat with tokens := cat.tokens.map f } id = (cat.token? id).map f := by
  rw [token?, token?, ← List.map_reverse, List.find?_map]
  simp only [Function.comp_def, ids]

theorem tokensIn_map {f : Token → Token} (owners : ∀ t, (f t).collectionId = t.collectionId)
    (id : String) :
    tokensIn { cat with tokens := cat.tokens.map f } id = (cat.tokensIn id).map f := by
  rw [tokensIn, tokensIn, List.filter_map]
  simp only [Function.comp_def, owners]

/-- Rearranged catalogs whose tokens are changed alike. -/
theorem Rearranged.map (h : cat.Rearranged cat') {f : Token → Token} (ids : ∀ t, (f t).id = t.id)
    (owners : ∀ t, (f t).collectionId = t.collectionId)
    {broken broken' circular circular' : List String}
    (reported : broken.Perm broken') (reported' : circular.Perm circular') :
    Rearranged { cat with tokens := cat.tokens.map f, broken, circular }
      { cat' with tokens := cat'.tokens.map f, broken := broken', circular := circular' } where
  token id := calc
    _ = (cat.token? id).map f := token?_map ids id
    _ = (cat'.token? id).map f := by rw [h.token]
    _ = _ := (token?_map ids id).symm
  collection := h.collection
  collections := h.collections
  inOrder := h.inOrder
  tokens := h.tokens.map f
  tokensIn id := calc
    _ = (cat.tokensIn id).map f := tokensIn_map owners id
    _ = (cat'.tokensIn id).map f := by rw [h.tokensIn]
    _ = _ := (tokensIn_map owners id).symm
  failedLookups := h.failedLookups
  broken := reported
  circular := reported'

theorem Rearranged.nameReferences (h : cat.Rearranged cat') :
    cat.nameReferences.Rearranged cat'.nameReferences := by
  unfold Catalog.nameReferences
  rw [← h.nameToken_eq, ← h.isBroken_eq]
  exact h.map (f := cat.nameToken) (fun _ => rfl) (fun _ => rfl) ((h.tokens.filter _).map _)
    h.circular

theorem Rearranged.flatten (h : cat.Rearranged cat') : cat.flatten.Rearranged cat'.flatten := by
  unfold Catalog.flatten
  rw [← h.flatToken_eq, ← h.runsInCircle_eq]
  exact h.map (f := cat.flatToken) (fun _ => rfl) (fun _ => rfl) h.broken
    ((h.tokens.filter _).map _)

/-! ## Reading in another order -/

/-- The tokens of a collection that can be read. -/
def tokensOf (s : Source) (colors : ColorNotation) (c : Collection) : List Token :=
  resultOr [] (readTokens s colors c)

theorem mem_tokensOf {c : Collection} {t : Token} (mem : t ∈ tokensOf s colors c) :
    ∃ v ∈ listedVariables s c, Token.ofRaw colors c v = .ok t := by
  unfold tokensOf at mem
  cases run : readTokens s colors c with
  | error e =>
      rw [run] at mem
      cases mem
  | ok ts =>
      rw [run] at mem
      exact mem_mapM run mem

/-- Where collections share no id of a variable, tokens with one id are one token. -/
theorem tokensOf_unique (faithful : s.Faithful) (apart : s.Apart) {c c' : RawCollection}
    (here : c ∈ s.localCollections) (there : c' ∈ s.localCollections) {t u : Token}
    (mem : t ∈ tokensOf s colors (Collection.ofRaw w c))
    (mem' : u ∈ tokensOf s colors (Collection.ofRaw w c')) (same : t.id = u.id) : t = u := by
  obtain ⟨v, listed, made⟩ := mem_tokensOf mem
  obtain ⟨v', listed', made'⟩ := mem_tokensOf mem'
  obtain ⟨id, listing, found⟩ := mem_listedVariables.1 listed
  obtain ⟨id', listing', found'⟩ := mem_listedVariables.1 listed'
  have looked_up : id = id' := by
    rw [← faithful id v found, ← faithful id' v' found', ← (fromListing_of_ofRaw listed made).id,
      ← (fromListing_of_ofRaw listed' made').id, same]
  subst looked_up
  obtain rfl : v = v' := Option.some.inj (Except.ok.inj (found.symm.trans found'))
  obtain rfl : c = c' := by
    by_contra differ
    have symm : Std.Symm fun a b : RawCollection => a.variableIds.Disjoint b.variableIds :=
      ⟨fun _ _ disjoint => disjoint.symm⟩
    exact (apart.listings.forall here there differ) listing listing'
  exact Except.ok.inj (made.symm.trans made')

theorem collectionId_of_mem_tokensOf {c : Collection} {t : Token}
    (mem : t ∈ tokensOf s colors c) : t.collectionId = c.id := by
  obtain ⟨v, listed, made⟩ := mem_tokensOf mem
  exact (fromListing_of_ofRaw listed made).collection

/-- The catalog of some collections with the tokens that can be read. -/
def assembled (s : Source) (colors : ColorNotation) (cs : List Collection) : Catalog where
  collections := cs
  tokens := cs.flatMap (tokensOf s colors)
  failedLookups := cs.flatMap (failedLookupsOf s)

/-- The tokens under an id are those of the collections with that id. -/
theorem tokensIn_assembled (cs : List Collection) (id : String) :
    (assembled s colors cs).tokensIn id =
      (cs.filter fun c => c.id == id).flatMap (tokensOf s colors) := by
  unfold tokensIn assembled
  induction cs with
  | nil => rfl
  | cons c rest ih =>
      simp only [List.flatMap_cons, List.filter_append, ih, List.filter_cons]
      by_cases here : (c.id == id) = true
      · rw [if_pos here, List.flatMap_cons, List.filter_eq_self.2 fun t mem => ?_]
        rw [collectionId_of_mem_tokensOf mem, here]
      · rw [if_neg here, List.filter_eq_nil_iff.2 fun t mem => ?_, List.nil_append]
        rw [collectionId_of_mem_tokensOf mem]
        exact here

/-- Collections of one place are written in the order in which they are listed. -/
theorem inOrder_eq_of_reordered (h : s.Reordered s') (w : Widths) :
    (s.localCollections.map (Collection.ofRaw w)).mergeSort Collection.precedes =
      (s'.localCollections.map (Collection.ofRaw w)).mergeSort Collection.precedes := by
  refine mergeSort_eq_of_classes Collection.precedes_trans Collection.precedes_total fun c => ?_
  have classes (s : Source) : classOf Collection.precedes c
      (s.localCollections.map (Collection.ofRaw w)) =
        (((s.collections.filter fun r => r.place = c.place).filter fun r => !r.remote).map
          (Collection.ofRaw w)) := by
    rw [classOf, List.filter_map, Source.localCollections, List.filter_comm]
    simp only [Collection.precedes_antisymm_iff]
    rfl
  rw [classes, classes, h.inPlace]

/-- Where it succeeds, a reading assembles what can be read. -/
theorem unnamed_in_step {s s' : Source} (perm : s.localCollections.Perm s'.localCollections)
    (lookup : s'.lookup = s.lookup) :
    Lockstep (fun c c' =>
        c = assembled s colors (s.localCollections.map (Collection.ofRaw w)) ∧
        c' = assembled s colors (s'.localCollections.map (Collection.ofRaw w)))
      (unnamed s w colors) (unnamed s' w colors) := by
  have reading : readTokens s' colors = readTokens s colors := by
    funext c
    rw [readTokens, readTokens, listedVariables, lookup, listedVariables]
  have failing : failedLookupsOf s' = failedLookupsOf s := by
    funext c
    rw [failedLookupsOf, lookup, failedLookupsOf]
  rw [unnamed, unnamed, reading, failing]
  refine (Lockstep.mapM_perm (perm.map (Collection.ofRaw w)) []).map ?_
  rintro _ _ ⟨rfl, rfl⟩
  exact ⟨rfl, rfl⟩

/-- Reading the same collections in another order gives a rearranged catalog. -/
theorem unnamed_rearranged (faithful : s.Faithful) (apart : s.Apart) (h : s.Reordered s') :
    Lockstep Rearranged (unnamed s w colors) (unnamed s' w colors) := by
  refine (unnamed_in_step h.localCollections h.lookup).imp ?_
  rintro _ _ - - ⟨rfl, rfl⟩
  have perm := h.localCollections.map (Collection.ofRaw w)
  have one (a b : Collection) (first : a ∈ s.localCollections.map (Collection.ofRaw w))
      (second : b ∈ s.localCollections.map (Collection.ofRaw w)) (same : a.id = b.id) : a = b := by
    obtain ⟨c, listed, rfl⟩ := List.mem_map.1 first
    obtain ⟨c', listed', rfl⟩ := List.mem_map.1 second
    rw [List.inj_on_of_nodup_map apart.collections listed listed' same]
  have one_token (t u : Token)
      (first : t ∈ (s.localCollections.map (Collection.ofRaw w)).flatMap (tokensOf s colors))
      (second : u ∈ (s.localCollections.map (Collection.ofRaw w)).flatMap (tokensOf s colors))
      (same : t.id = u.id) : t = u := by
    obtain ⟨_, listing, mem⟩ := List.mem_flatMap.1 first
    obtain ⟨_, listing', mem'⟩ := List.mem_flatMap.1 second
    obtain ⟨c, here, rfl⟩ := List.mem_map.1 listing
    obtain ⟨c', there, rfl⟩ := List.mem_map.1 listing'
    exact tokensOf_unique faithful apart here there mem mem' same
  refine ⟨⟨fun id => ?_, fun id => ?_⟩, perm, inOrder_eq_of_reordered h w, perm.flatMap_right _,
    fun id => ?_, perm.flatMap_right _, .refl _, .refl _⟩
  · exact find?_reverse_perm (perm.flatMap_right _) fun t first u second fits fits' =>
      one_token t u first second ((beq_iff_eq.1 fits).trans (beq_iff_eq.1 fits').symm)
  · exact find?_reverse_perm perm fun a first b second fits fits' =>
      one a b first second ((beq_iff_eq.1 fits).trans (beq_iff_eq.1 fits').symm)
  · rw [tokensIn_assembled, tokensIn_assembled, filter_perm perm fun a first b second fits fits' =>
      one a b first second ((beq_iff_eq.1 fits).trans (beq_iff_eq.1 fits').symm)]

/-- Also with its references named, and followed if asked for, the catalog is only rearranged. -/
theorem ofSource_rearranged (faithful : s.Faithful) (apart : s.Apart) (h : s.Reordered s')
    (w : Widths) (o : Options) : Lockstep Rearranged (ofSource s w o) (ofSource s' w o) := by
  refine (unnamed_rearranged faithful apart h).bind fun c c' rearranged => ?_
  cases o.references with
  | preserved => exact .ok rearranged.nameReferences
  | resolved => exact .ok rearranged.nameReferences.flatten

end Catalog

end TokenSheet
