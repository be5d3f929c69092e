import TokenSheet.Proofs.Catalog.Chains
import TokenSheet.Proofs.Catalog.Provenance
import TokenSheet.Proofs.Lockstep

/-!
Catalogs without references.

A flattened catalog holds no reference in any mode. Its values are the literals of the catalog that
it was made from, and the literals that the walks of that catalog end at; since no walk reads a
value that was flattened before, it does not matter in which order the tokens are taken
(`flattenedBy_eq`). Besides the look-ups that failed, a flattened catalog reports each token that
refers to nothing, and each token that leads in a circle, once, however many of its modes do.
-/

namespace TokenSheet

open Design (Source)

namespace Catalog

variable {c : Catalog} {t : Token} {modeId : String}

/-! ## Tokens to report -/

/-- A token that refers in some mode to an id that no token has. -/
def RefersNowhere (c : Catalog) (t : Token) : Prop :=
  ∃ modeId target property?, t.valueIn modeId = some (.reference target property?) ∧
    ∀ u ∈ c.tokens, u.id ≠ target

/-- A token whose walk from some mode runs in a circle. -/
def LeadsInCircle (c : Catalog) (t : Token) : Prop :=
  ∃ modeId, c.walk t modeId = .circular

theorem token?_eq_none_iff {id : String} : c.token? id = none ↔ ∀ u ∈ c.tokens, u.id ≠ id := by
  simp [token?]

theorem isBroken_iff {v : TokenValue} :
    c.isBroken v ↔
      ∃ target property?, v = .reference target property? ∧ ∀ u ∈ c.tokens, u.id ≠ target := by
  cases v with
  | literal l => simp [isBroken]
  | reference target property? => simp [isBroken, token?_eq_none_iff]

/-- The values that a token is asked for are those of its own modes. -/
theorem refersNowhere_iff :
    c.RefersNowhere t ↔ ∃ e ∈ t.values, (t.valueIn e.1).any c.isBroken := by
  constructor
  · rintro ⟨modeId, target, property?, value, absent⟩
    refine ⟨_, mem_of_lookup value, ?_⟩
    rw [value]
    exact isBroken_iff.2 ⟨target, property?, rfl, absent⟩
  · rintro ⟨e, -, broken⟩
    obtain ⟨v, value, broken⟩ := (Option.any_eq_true _ _).1 broken
    obtain ⟨target, property?, rfl, absent⟩ := isBroken_iff.1 broken
    exact ⟨e.1, target, property?, value, absent⟩

theorem walk_of_literal {l : Literal} (value : t.valueIn modeId = some (.literal l)) :
    c.walk t modeId = .literal l := by
  rw [walk, value, walkFrom]

theorem walk_of_none (value : t.valueIn modeId = none) : c.walk t modeId = .nothing := by
  rw [walk, value, walkFrom]

/-- A walk runs in a circle only from a reference. -/
theorem leadsInCircle_iff : c.LeadsInCircle t ↔ c.runsInCircle t := by
  rw [runsInCircle, List.any_eq_true]
  constructor
  · rintro ⟨modeId, circle⟩
    cases value : t.valueIn modeId with
    | none =>
        rw [walk_of_none value] at circle
        cases circle
    | some v =>
        cases v with
        | literal l =>
            rw [walk_of_literal value] at circle
            cases circle
        | reference target property? =>
            refine ⟨_, mem_of_lookup value, ?_⟩
            rw [circle]
            rfl
  · rintro ⟨e, -, circle⟩
    refine ⟨e.1, ?_⟩
    cases ending : c.walk t e.1 with
    | circular => rfl
    | literal l => simp [ending, WalkEnd.isCircular] at circle
    | nothing => simp [ending, WalkEnd.isCircular] at circle

instance (c : Catalog) (t : Token) : Decidable (c.RefersNowhere t) :=
  decidable_of_iff _ refersNowhere_iff.symm

instance (c : Catalog) (t : Token) : Decidable (c.LeadsInCircle t) :=
  decidable_of_iff _ leadsInCircle_iff.symm

/-- With one value in each mode, a token refers to nothing where one of its values does. -/
theorem any_isBroken_eq (once : (t.values.map (·.1)).Nodup) :
    (t.values.any fun v => c.isBroken v.2) = decide (c.RefersNowhere t) := by
  rw [Bool.eq_iff_iff, List.any_eq_true, decide_eq_true_eq, refersNowhere_iff]
  refine exists_congr fun e => and_congr_right fun mem => ?_
  have value : t.valueIn e.1 = some e.2 := (lookup_eq_some_iff_mem once).2 mem
  rw [value, Option.any_some]

theorem runsInCircle_eq_decide : c.runsInCircle t = decide (c.LeadsInCircle t) := by
  rw [Bool.eq_iff_iff, decide_eq_true_eq, leadsInCircle_iff]

/-! ## Flattened tokens -/

/-- A token in its flattened form: its own literals, and where it has none the literals that its
walks end at. -/
structure FlatForm (c : Catalog) (t u : Token) : Prop where
  same : u = { t with values := u.values }
  literal : u.hasReference = false
  value : ∀ modeId, u.valueIn modeId =
    match t.valueIn modeId with
    | some (.literal l) => some (.literal l)
    | _ => (c.walk t modeId).literal?.map .literal

theorem flatValue?_isReference {v w : TokenValue} (flat : c.flatValue? t modeId v = some w) :
    w.isReference = false := by
  cases v with
  | literal l =>
      rw [← Option.some.inj flat]
      rfl
  | reference target property? =>
      obtain ⟨l, -, rfl⟩ := Option.map_eq_some_iff.1 flat
      rfl

theorem flatForm_flatToken (once : (t.values.map (·.1)).Nodup) : c.FlatForm t (c.flatToken t) where
  same := rfl
  literal := by
    refine List.any_eq_false.2 fun e mem => ?_
    obtain ⟨_, -, made⟩ := List.mem_filterMap.1 mem
    obtain ⟨w, flat, rfl⟩ := Option.map_eq_some_iff.1 made
    rw [flatValue?_isReference flat]
    exact Bool.false_ne_true
  value modeId := by
    have found : (c.flatToken t).valueIn modeId = (t.valueIn modeId).bind (c.flatValue? t modeId) :=
      lookup_filterMap once (c.flatValue? t) modeId
    rw [found]
    cases value : t.valueIn modeId with
    | none => rw [walk_of_none value]; rfl
    | some v => cases v <;> rfl

/-! ## The order of the tokens -/

/-- The tokens of a catalog flattened one after the other, in an order that is given by their
places. Every walk is taken in the catalog as it was. -/
def flattenedBy (c : Catalog) (order : List Nat) : List Token :=
  order.foldl (fun ts i => ts.modify i c.flatToken) c.tokens

/-- Changing elements one after the other changes each of them once, if no place comes up twice. -/
theorem getElem?_foldl_modify {f : Token → Token} {order : List Nat} (once : order.Nodup)
    (ts : List Token) (j : Nat) :
    (order.foldl (fun ts i => ts.modify i f) ts)[j]? =
      if j ∈ order then ts[j]?.map f else ts[j]? := by
  induction order generalizing ts with
  | nil => simp
  | cons i rest ih =>
      obtain ⟨new, once⟩ := List.nodup_cons.1 once
      rw [List.foldl_cons, ih once, List.getElem?_modify]
      by_cases here : i = j
      · subst here
        simp [new]
      · have other : j ≠ i := Ne.symm here
        simp [here, other]

/-- In whatever order the tokens are taken, the flattened tokens are the same. -/
theorem flattenedBy_eq (c : Catalog) {order : List Nat}
    (all : order.Perm (List.range c.tokens.length)) : c.flattenedBy order = c.flatten.tokens := by
  have once : order.Nodup := all.nodup_iff.2 List.nodup_range
  refine List.ext_getElem? fun j => ?_
  rw [flattenedBy, getElem?_foldl_modify once, flatten, List.getElem?_map]
  split
  · rfl
  · rename_i beyond
    rw [all.mem_iff, List.mem_range, Nat.not_lt] at beyond
    rw [List.getElem?_eq_none beyond]
    rfl

/-! ## Flattened catalogs -/

/-- What a flattened catalog has of the catalog that it was made from, and what it reports. -/
structure FlattenedFrom (s : Source) (named flat : Catalog) : Prop where
  collections : flat.collections = named.collections
  tokens : List.Forall₂ named.FlatForm named.tokens flat.tokens
  anyOrder : ∀ order : List Nat, order.Perm (List.range named.tokens.length) →
    named.flattenedBy order = flat.tokens
  diagnostics : flat.diagnostics =
    s.failedListings.map (fun f => .lookupFailed f.1 f.2) ++
      (named.tokens.filter fun t => named.RefersNowhere t).map (fun t => .brokenReference t.name) ++
      (named.tokens.filter fun t => named.LeadsInCircle t).map fun t => .circularReference t.name

/-- Naming the references of a value does not change whether it refers to nothing. -/
theorem isBroken_nameReferences (v : TokenValue) :
    c.nameReferences.isBroken (c.nameValue v) = c.isBroken v := by
  cases v with
  | literal l => rfl
  | reference target property? =>
      have ids : (∀ u ∈ c.nameReferences.tokens, u.id ≠ target) ↔ ∀ u ∈ c.tokens, u.id ≠ target :=
        List.forall_mem_map
      rw [nameValue, isBroken, isBroken, Bool.eq_iff_iff, Option.isNone_iff_eq_none,
        Option.isNone_iff_eq_none, token?_eq_none_iff, token?_eq_none_iff, ids]

/-- The tokens that are reported while references are named are those that refer to nothing. -/
theorem broken_nameReferences (once : c.OneValuePerMode) :
    c.nameReferences.broken =
      (c.nameReferences.tokens.filter fun t => c.nameReferences.RefersNowhere t).map (·.name) := by
  have reported : ∀ t ∈ c.tokens, (t.values.any fun v => c.isBroken v.2) =
      decide (c.nameReferences.RefersNowhere (c.nameToken t)) := by
    intro t mem
    rw [← any_isBroken_eq (once.nameReferences _ (List.mem_map_of_mem mem)), nameToken,
      List.any_map]
    exact congrArg _ (funext fun v => (isBroken_nameReferences v.2).symm)
  have named : c.nameReferences.tokens = c.tokens.map c.nameToken := rfl
  rw [named, List.filter_map, List.map_map]
  exact congrArg _ (List.filter_congr reported)

/-- Flattening a catalog whose references are named. -/
theorem flattenedFrom_flatten {s : Source} (once : c.OneValuePerMode)
    (lookups : c.failedLookups = s.failedListings) :
    FlattenedFrom s c.nameReferences c.nameReferences.flatten where
  collections := rfl
  tokens := by
    refine List.forall₂_map_right_iff.2 (List.forall₂_same.2 fun t mem => ?_)
    exact flatForm_flatToken (once.nameReferences t mem)
  anyOrder _ all := flattenedBy_eq _ all
  diagnostics := by
    have circular : c.nameReferences.flatten.circular = (c.nameReferences.tokens.filter fun t =>
        c.nameReferences.LeadsInCircle t).map (·.name) := by
      refine congrArg _ (List.filter_congr fun t _ => ?_)
      exact runsInCircle_eq_decide
    have broken : c.nameReferences.flatten.broken = c.nameReferences.broken := rfl
    have failed : c.nameReferences.flatten.failedLookups = c.failedLookups := rfl
    rw [diagnostics, circular, broken, failed, broken_nameReferences once, lookups, List.map_map,
      List.map_map]
    rfl

/-- A design is read with its references resolved exactly if it is read with its references
preserved, and then the one catalog is the other one flattened: no reference is left in any mode,
each value is the token's own literal or the one at the end of its walk, and what is reported are
the look-ups that failed, the tokens that refer to nothing and those that lead in a circle, in the
order of the design. -/
theorem flattening_is_complete (s : Source) (w : Widths) (o : Options) :
    Lockstep (FlattenedFrom s) (ofSource s w { o with references := .preserved })
      (ofSource s w { o with references := .resolved }) := by
  refine (Lockstep.refl (r := fun c c' => c = c' ∧ unnamed s w o.colors = .ok c)
    (unnamed s w o.colors) fun c run => ⟨rfl, run⟩).bind ?_
  rintro c _ ⟨rfl, run⟩
  have once := unnamed_oneValuePerMode run
  exact .ok (flattenedFrom_flatten once (unnamed_failedLookups run))

end Catalog

end TokenSheet
