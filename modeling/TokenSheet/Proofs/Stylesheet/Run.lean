import TokenSheet.Proofs.Section.FluidDraft

/-!
The run over a whole catalog.

An emission is a succession of sections: each collection that has tokens and modes gives one, behind
the gate of the names that the sections before it declare and the names kept for the foundations
(`Succession`). What holds of the gate of one section is carried along the succession.
-/

namespace TokenSheet

variable {o : Options} {reserved : List String} {cat : Catalog}

/-- Whether a collection gets a section. -/
def Catalog.isRendered (cat : Catalog) (c : Collection) : Bool :=
  !((cat.tokensIn c.id).isEmpty || c.modes.isEmpty)

/-- The collections that get a section, in order. -/
def Catalog.rendered (cat : Catalog) : List Collection :=
  cat.inOrder.filter cat.isRendered

theorem Catalog.mem_rendered {c : Collection} :
    c ∈ cat.rendered ↔ c ∈ cat.collections ∧ cat.isRendered c := by
  rw [rendered, List.mem_filter, inOrder, List.mem_mergeSort]

/-- Sections of collections one after the other, the first one behind the names already taken. -/
inductive Succession (o : Options) (reserved : List String) (cat : Catalog) :
    List String → List Collection → List Section → Prop
  | nil {taken : List String} : Succession o reserved cat taken [] []
  | cons {taken : List String} {c : Collection} {s : Section} {cs : List Collection}
      {ss : List Section}
      (first : sectionOf o ⟨taken, reserved⟩ c (cat.tokensIn c.id) = .ok s)
      (others : Succession o reserved cat (taken ++ s.properties) cs ss) :
      Succession o reserved cat taken (c :: cs) (s :: ss)

/-- The emission with the section of a collection, if it gets one. -/
def emitStep (o : Options) (reserved : List String) (cat : Catalog) (e : Emission)
    (c : Collection) : Except NumberError Emission :=
  if cat.isRendered c then e.add o reserved c (cat.tokensIn c.id) else .ok e

theorem emitAll_eq_foldlM (cs : List Collection) :
    emitAll o reserved cat cs = cs.foldlM (emitStep o reserved cat) {} := by
  unfold emitAll
  congr
  funext e c
  rw [emitStep, Catalog.isRendered]
  dsimp only
  cases (cat.tokensIn c.id).isEmpty || c.modes.isEmpty <;> rfl

/-- An emission that goes on from another one adds a succession to it. -/
theorem succession_of_foldlM {cs : List Collection} {e₀ e : Emission}
    (run : cs.foldlM (emitStep o reserved cat) e₀ = .ok e) :
    ∃ ss, e.sections = e₀.sections ++ ss ∧
      Succession o reserved cat e₀.properties (cs.filter cat.isRendered) ss := by
  induction cs generalizing e₀ with
  | nil =>
      rw [List.foldlM_nil, pure_eq_ok] at run
      exact ⟨[], by rw [← run, List.append_nil], .nil⟩
  | cons c cs ih =>
      rw [List.foldlM_cons] at run
      obtain ⟨e₁, step, run⟩ := bind_eq_ok.1 run
      obtain ⟨ss, grown, others⟩ := ih run
      unfold emitStep at step
      split at step
      · rename_i written
        obtain ⟨s, first, done⟩ := bind_eq_ok.1 step
        rw [← pure_eq_ok.1 done] at grown others
        refine ⟨s :: ss, ?_, ?_⟩
        · rw [grown, List.append_assoc, List.singleton_append]
        · rw [List.filter_cons, if_pos written]
          refine .cons first ?_
          rw [Emission.properties, List.flatMap_append, List.flatMap_singleton] at others
          exact others
      · rename_i left_out
        rw [List.filter_cons, if_neg left_out, Except.ok.inj step]
        exact ⟨ss, grown, others⟩

/-- Every succession is the one that an emission adds. -/
theorem foldlM_of_succession {cs : List Collection} {e₀ : Emission} {ss : List Section}
    (sections : Succession o reserved cat e₀.properties (cs.filter cat.isRendered) ss) :
    cs.foldlM (emitStep o reserved cat) e₀ = .ok ⟨e₀.sections ++ ss⟩ := by
  induction cs generalizing e₀ ss with
  | nil =>
      cases sections
      rw [List.foldlM_nil, List.append_nil]
      rfl
  | cons c cs ih =>
      rw [List.foldlM_cons, emitStep]
      rw [List.filter_cons] at sections
      split at sections
      · rename_i written
        cases sections with
        | @cons _ _ s _ ss first others =>
            rw [if_pos written, Emission.add, first, ok_bind]
            have grown : Succession o reserved cat (Emission.mk (e₀.sections ++ [s])).properties
                (cs.filter cat.isRendered) ss := by
              rw [Emission.properties, List.flatMap_append, List.flatMap_singleton]
              exact others
            have rest := ih grown
            rw [List.append_assoc, List.singleton_append] at rest
            exact rest
      · rename_i left_out
        rw [if_neg left_out, ok_bind]
        exact ih sections

theorem emitAll_eq_ok {cs : List Collection} {e : Emission} :
    emitAll o reserved cat cs = .ok e ↔
      Succession o reserved cat [] (cs.filter cat.isRendered) e.sections := by
  rw [emitAll_eq_foldlM]
  constructor
  · intro run
    obtain ⟨ss, grown, sections⟩ := succession_of_foldlM run
    rw [grown]
    exact sections
  · intro sections
    exact @foldlM_of_succession o reserved cat cs {} e.sections sections

/-- The run over a catalog: first the names of the foundations, then all sections. -/
theorem ofCatalog_eq_ok {e : Emission} :
    Emission.ofCatalog o cat = .ok e ↔
      ∃ names, foundationProperties o cat = .ok names ∧
        Succession o names cat [] cat.rendered e.sections := by
  rw [Emission.ofCatalog, bind_eq_ok]
  exact exists_congr fun names => and_congr_right fun _ => emitAll_eq_ok

/-- The run over the foundations alone. -/
theorem foundationProperties_eq_ok {names : List String} :
    foundationProperties o cat = .ok names ↔
      ∃ ss : List Section,
        Succession o [] cat [] (cat.rendered.filter fun c => c.layer == .foundations) ss ∧
        ss.flatMap Section.properties = names := by
  rw [foundationProperties, bind_eq_ok, Catalog.rendered, List.filter_comm]
  constructor
  · rintro ⟨e, run, done⟩
    exact ⟨e.sections, emitAll_eq_ok.1 run, pure_eq_ok.1 done⟩
  · rintro ⟨ss, sections, kept⟩
    exact ⟨⟨ss⟩, emitAll_eq_ok.2 sections, pure_eq_ok.2 kept⟩

/-- A catalog with one collection, which is no foundation, has its section only. -/
theorem ofCatalog_of_only {c : Collection} {s : Section} (only : cat.collections = [c])
    (layer : c.layer ≠ .foundations) (written : cat.isRendered c = true)
    (run : sectionOf o {} c (cat.tokensIn c.id) = .ok s) :
    Emission.ofCatalog o cat = .ok ⟨[s]⟩ := by
  have rendered : cat.rendered = [c] := by
    rw [Catalog.rendered, Catalog.inOrder, only, List.mergeSort_singleton, List.filter_cons,
      if_pos written]
    rfl
  have foundations : (cat.rendered.filter fun c => c.layer == .foundations) = [] := by
    rw [rendered, List.filter_cons, if_neg fun same => layer (beq_iff_eq.1 same)]
    rfl
  refine ofCatalog_eq_ok.2 ⟨[], foundationProperties_eq_ok.2 ⟨[], ?_, rfl⟩, ?_⟩
  · rw [foundations]
    exact .nil
  · rw [rendered]
    exact .cons run .nil

/-- A catalog with one collection, which is no foundation, is written no further than its section. -/
theorem ofCatalog_eq_error_of_only {c : Collection} {x : NumberError} (only : cat.collections = [c])
    (layer : c.layer ≠ .foundations) (written : cat.isRendered c = true)
    (run : sectionOf o {} c (cat.tokensIn c.id) = .error x) :
    Emission.ofCatalog o cat = .error x := by
  have inOrder : cat.inOrder = [c] := by
    rw [Catalog.inOrder, only, List.mergeSort_singleton]
  have foundations : foundationProperties o cat = .ok [] := by
    rw [foundationProperties, inOrder, List.filter_cons, if_neg fun same => layer (beq_iff_eq.1 same)]
    rfl
  rw [Emission.ofCatalog, foundations, ok_bind, inOrder, emitAll_eq_foldlM, List.foldlM_cons, emitStep,
    if_pos written, Emission.add, show Gate.mk ({} : Emission).properties [] = {} from rfl, run]
  rfl

namespace Succession

variable {taken : List String} {cs : List Collection} {ss : List Section}

theorem length_eq (h : Succession o reserved cat taken cs ss) : ss.length = cs.length := by
  induction h with
  | nil => rfl
  | cons _ _ ih => rw [List.length_cons, List.length_cons, ih]

/-- Each section stands behind the names of those before it. -/
theorem sectionOf_getElem (h : Succession o reserved cat taken cs ss) {i : Nat} {c : Collection}
    {s : Section} (collection : cs[i]? = some c) (section_at : ss[i]? = some s) :
    sectionOf o ⟨taken ++ (ss.take i).flatMap Section.properties, reserved⟩ c (cat.tokensIn c.id) =
      .ok s := by
  induction h generalizing i with
  | nil => cases collection
  | cons first others ih =>
      cases i with
      | zero =>
          cases collection
          cases section_at
          rw [List.take_zero, List.flatMap_nil, List.append_nil]
          exact first
      | succ i =>
          rw [List.getElem?_cons_succ] at collection section_at
          rw [List.take_succ_cons, List.flatMap_cons, ← List.append_assoc]
          exact ih collection section_at

theorem exists_pair (h : Succession o reserved cat taken cs ss) {s : Section} (mem : s ∈ ss) :
    ∃ c, (c, s) ∈ cs.zip ss := by
  induction h with
  | nil => cases mem
  | @cons _ c _ _ _ first others ih =>
      rcases List.mem_cons.1 mem with rfl | later
      · exact ⟨c, List.mem_cons_self⟩
      · obtain ⟨c', pair⟩ := ih later
        exact ⟨c', List.mem_cons_of_mem _ pair⟩

/-- Every section of a succession was made for its collection, behind some names. -/
theorem exists_sectionOf (h : Succession o reserved cat taken cs ss) {p : Collection × Section}
    (mem : p ∈ cs.zip ss) :
    p.1 ∈ cs ∧ ∃ before, sectionOf o ⟨before, reserved⟩ p.1 (cat.tokensIn p.1.id) = .ok p.2 := by
  induction h with
  | nil => cases mem
  | cons first others ih =>
      rcases List.mem_cons.1 mem with rfl | later
      · exact ⟨List.mem_cons_self, _, first⟩
      · obtain ⟨listed, made⟩ := ih later
        exact ⟨List.mem_cons_of_mem _ listed, made⟩

end Succession

end TokenSheet
