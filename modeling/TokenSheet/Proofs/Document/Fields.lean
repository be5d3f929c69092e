import Mathlib.Data.List.Nodup
import TokenSheet.Document.Check

/-!
The entries of a record and its fields.

Setting a key changes what is found under this key and nothing else, and leaves the keys in their
order (`find?_insertEntry`, `exists_keys_insertAll`). A field is found under its name in documents
or else under its plain name; every key under which no field is found is refused, with the keys in
order (`onlyFields_eq`).
-/

namespace TokenSheet

variable {es new : List (Key × Document)}

/-! ## Setting keys -/

theorem Key.same_text_iff {k : Key} {name : String} :
    k.same (.text name) = true ↔ k = .text name := by
  cases k <;> simp [same]

namespace Document

theorem find?_cons (k : Key) (d : Document) (es : List (Key × Document)) (name : String) :
    find? ((k, d) :: es) name = if k = .text name then some d else find? es name := by
  unfold find?
  by_cases here : k = .text name
  · rw [here, List.lookup_cons_self, if_pos rfl]
  · rw [List.lookup_cons, if_neg here, beq_false_of_ne (Ne.symm here)]

/-- Nothing is found under a name that is no key. -/
theorem find?_eq_none_iff {name : String} :
    find? es name = none ↔ Key.text name ∉ es.map (·.1) := by
  unfold find?
  rw [List.lookup_eq_none_iff, List.mem_map]
  constructor
  · rintro apart ⟨e, mem, key⟩
    exact bne_iff_ne.1 (apart e mem) key.symm
  · exact fun absent e mem => bne_iff_ne.2 fun same => absent ⟨e, mem, same.symm⟩

/-- Setting a key changes what is found under it and nothing else. -/
theorem find?_insertEntry (key : String) (d : Document) (es : List (Key × Document))
    (name : String) :
    find? (insertEntry (.text key) d es) name = if key = name then some d else find? es name := by
  induction es with
  | nil =>
      rw [insertEntry, find?_cons]
      simp only [Key.text.injEq]
  | cons e rest ih =>
      obtain ⟨k, old⟩ := e
      rw [insertEntry, find?_cons]
      by_cases same : k.same (.text key) = true
      · rw [if_pos same, find?_cons]
        rw [Key.same_text_iff] at same
        simp only [same, Key.text.injEq]
        by_cases here : key = name
        · rw [if_pos here, if_pos here]
        · rw [if_neg here, if_neg here, if_neg here]
      · rw [if_neg same, find?_cons, ih]
        rw [Key.same_text_iff] at same
        by_cases old_key : k = .text name
        · have other : key ≠ name := fun here => same (here ▸ old_key)
          rw [if_pos old_key, if_pos old_key, if_neg other]
        · rw [if_neg old_key, if_neg old_key]

/-- The entries with others set one after the other. -/
def insertAll (es new : List (Key × Document)) : List (Key × Document) :=
  new.foldl (fun done e => insertEntry e.1 e.2 done) es

/-- What is set goes before what was there. -/
theorem find?_insertAll (texts : ∀ e ∈ new, ∃ key, e.1 = .text key)
    (distinct : (new.map (·.1)).Nodup) (name : String) :
    find? (insertAll es new) name = (find? new name).or (find? es name) := by
  unfold insertAll
  induction new generalizing es with
  | nil => rfl
  | cons e rest ih =>
      obtain ⟨k, d⟩ := e
      obtain ⟨⟨key, rfl⟩, others⟩ := List.forall_mem_cons.1 texts
      obtain ⟨fresh, distinct⟩ := List.nodup_cons.1 distinct
      rw [List.foldl_cons, ih others distinct, find?_insertEntry, find?_cons]
      by_cases here : key = name
      · -- The key does not come up again, so this is the value that stays.
        have absent : find? rest name = none := find?_eq_none_iff.2 (here ▸ fresh)
        rw [absent, if_pos here, if_pos (by rw [here])]
        rfl
      · rw [if_neg here, if_neg (by simpa using here)]

/-- Setting keys leaves the keys that are there in their order and may add keys that are set. -/
theorem exists_keys_insertAll (es new : List (Key × Document)) :
    ∃ added, (insertAll es new).map (·.1) = es.map (·.1) ++ added ∧
      ∀ k ∈ added, k ∈ new.map (·.1) := by
  have one (key : Key) (d : Document) (es : List (Key × Document)) :
      (insertEntry key d es).map (·.1) = es.map (·.1) ∨
        (insertEntry key d es).map (·.1) = es.map (·.1) ++ [key] := by
    induction es with
    | nil => exact .inr rfl
    | cons e rest ih =>
        rw [insertEntry]
        split
        · exact .inl rfl
        · rcases ih with same | longer
          · exact .inl (by rw [List.map_cons, List.map_cons, same])
          · exact .inr (by rw [List.map_cons, List.map_cons, longer, List.cons_append])
  unfold insertAll
  induction new generalizing es with
  | nil => exact ⟨[], (List.append_nil _).symm, List.forall_mem_nil _⟩
  | cons e rest ih =>
      obtain ⟨added, keys, known⟩ := ih (insertEntry e.1 e.2 es)
      rw [List.foldl_cons, keys]
      rcases one e.1 e.2 es with same | longer
      · exact ⟨added, by rw [same], fun k mem => List.mem_cons_of_mem _ (known k mem)⟩
      · refine ⟨e.1 :: added, by rw [longer, List.append_assoc, List.singleton_append], ?_⟩
        exact List.forall_mem_cons.2
          ⟨List.mem_cons_self, fun k mem => List.mem_cons_of_mem _ (known k mem)⟩

end Document

/-! ## Fields -/

theorem Checked.apply_eq_valid_iff {α β : Type} {f : Checked (α → β)} {x : Checked α} {b : β} :
    f <*> x = .valid b ↔ ∃ g a, f = .valid g ∧ x = .valid a ∧ g a = b :=
  seq_eq_valid_iff

namespace Check

variable {fields : List (String × String)}

/-- The keys under which fields are found. -/
def usedNames (fields : List (String × String)) (es : List (Key × Document)) : List String :=
  fields.filterMap fun f => (locate es f.1 f.2).map (·.1)

/-- Why a key is refused, if it is not one of some names. -/
def refusal? (used : List String) : Key → Option Failure
  | .text name => if used.contains name then none else some ⟨[name], .unknownField⟩
  | .scalar _ shown => some ⟨[shown], .unusableKey⟩

theorem onlyFields_eq (fields : List (String × String)) (es : List (Key × Document)) :
    onlyFields fields es =
      if ((es.map (·.1)).filterMap (refusal? (usedNames fields es))).isEmpty then .valid ()
      else .invalid ((es.map (·.1)).filterMap (refusal? (usedNames fields es))) := by
  have refused : (es.map (·.1)).filterMap (refusal? (usedNames fields es)) =
      es.filterMap fun e => match e.1 with
        | .text name =>
          if (usedNames fields es).contains name then none else some ⟨[name], .unknownField⟩
        | .scalar _ shown => some ⟨[shown], .unusableKey⟩ := by
    rw [List.filterMap_map]
    refine List.filterMap_congr fun e _ => ?_
    obtain ⟨k, d⟩ := e
    cases k <;> rfl
  rw [refused]
  rfl

/-- If no key is refused, each one is the text of a field. -/
theorem mem_usedNames_of_valid (valid : onlyFields fields es = .valid ()) {k : Key}
    (mem : k ∈ es.map (·.1)) : ∃ name, k = .text name ∧ name ∈ usedNames fields es := by
  rw [onlyFields_eq] at valid
  split at valid
  · rename_i empty
    have kept := List.filterMap_eq_nil_iff.1 (List.isEmpty_iff.1 empty) k mem
    cases k with
    | scalar value shown => cases kept
    | text name =>
        refine ⟨name, rfl, ?_⟩
        rw [refusal?] at kept
        split at kept
        · rename_i used
          exact List.contains_iff_mem.1 used
        · cases kept
  · cases valid

/-- A name is used if a field is found under it: under the name in documents, or under the plain
name where the other one is absent. -/
theorem mem_usedNames {name : String} :
    name ∈ usedNames fields es ↔ ∃ f ∈ fields,
      (Document.find? es f.1).isSome ∧ name = f.1 ∨
        Document.find? es f.1 = none ∧ (Document.find? es f.2).isSome ∧ name = f.2 := by
  unfold usedNames locate
  rw [List.mem_filterMap]
  refine exists_congr fun f => and_congr_right fun _ => ?_
  rw [eq_comm (a := name), eq_comm (a := name)]
  cases Document.find? es f.1 with
  | some d => simp
  | none => cases Document.find? es f.2 <;> simp

end Check

end TokenSheet
