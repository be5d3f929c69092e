import TokenSheet.Proofs.Section.FluidDraft

/-!
The names that a section declares.

Outside the foundations a section declares a name once, and only one that its gate leaves free.
Further blocks repeat names of the default block, as long as tokens with one id have one property.
Sections of foundations do not depend on their gate at all.
-/

namespace TokenSheet

open Css (Entry Block Declaration)

variable {o : Options} {gate : Gate} {tokens : List Token} {c : Collection} {s : Section}

/-- Whether a section declares a name, in its default block or in a further one. -/
def Section.Declares (s : Section) (name : String) : Prop :=
  name ∈ s.properties ∨ ∃ b ∈ s.blocks, ∃ d ∈ b.declarations, d.property = name

/-- A section is empty or has the shape of its draft. -/
theorem sectionOf_shape (run : sectionOf o gate c tokens = .ok s) :
    s.entries = [] ∧ s.blocks = [] ∨
      ∃ gateMode standard, c.gateMode? o = some gateMode ∧ c.standardMode? o = some standard ∧
        Shape o gateMode standard gate tokens ⟨s.entries, s.blocks, s.advice⟩ := by
  obtain ⟨d, draft, rfl⟩ := exists_draft_of_sectionOf run
  rcases draftOf_shape draft with rfl | shape
  · exact .inl ⟨rfl, rfl⟩
  · exact .inr shape

/-- Every entry of a section stands for one of its tokens, which passed the gate. -/
theorem sectionOf_entry (run : sectionOf o gate c tokens = .ok s) {e : Entry}
    (mem : e ∈ s.entries) :
    ∃ t ∈ tokens, e.id = t.id ∧ e.property = t.property ∧
      (t.layer ≠ .foundations → e.property ∉ gate.taken ∧ e.property ∉ gate.reserved) := by
  rcases sectionOf_shape run with ⟨empty, -⟩ | ⟨gateMode, standard, -, -, shape⟩
  · rw [empty] at mem
    cases mem
  · obtain ⟨t, passed, entry⟩ := shape.entries e mem
    refine ⟨t, admitted_sublist.subset passed, entry.id, entry.property, ?_⟩
    rw [entry.property]
    exact (passed_of_mem_admitted passed).free

/-- Outside the foundations a section declares each name once. -/
theorem sectionOf_properties_nodup (run : sectionOf o gate c tokens = .ok s)
    (others : ∀ t ∈ tokens, t.layer ≠ .foundations) : s.properties.Nodup := by
  rcases sectionOf_shape run with ⟨empty, -⟩ | ⟨gateMode, standard, -, -, shape⟩
  · rw [Section.properties, empty]
    exact List.nodup_nil
  · obtain ⟨keys, perm, sub⟩ := shape.keys
    have properties : (s.entries.map Entry.key).map Prod.snd = s.properties := List.map_map
    have passed : ((admitted gateMode.id gate tokens).map Token.key).map Prod.snd =
        (admitted gateMode.id gate tokens).map (·.property) := List.map_map
    rw [← properties, ← (perm.map Prod.snd).nodup_iff]
    refine (sub.map Prod.snd).nodup ?_
    rw [passed]
    exact admitted_properties_nodup others

/-- Further blocks repeat names of the default block, if tokens with one id have one property. -/
theorem sectionOf_repeats (run : sectionOf o gate c tokens = .ok s)
    (ids : ∀ t ∈ tokens, ∀ u ∈ tokens, t.id = u.id → t.property = u.property) {b : Block}
    (block : b ∈ s.blocks) {d : Declaration} (mem : d ∈ b.declarations) :
    d.property ∈ s.properties := by
  rcases sectionOf_shape run with ⟨-, empty⟩ | ⟨gateMode, standard, -, -, shape⟩
  · rw [empty] at block
    cases block
  · cases shape.blocks b block d mem with
    | value listed declared writes =>
        obtain ⟨e, entry, same⟩ := List.mem_map.1 declared
        obtain ⟨u, passed, stands⟩ := shape.entries e entry
        obtain ⟨-, v, -, rfl⟩ := declaration?_eq_ok.1 writes
        have one := ids _ listed u (admitted_sublist.subset passed) (same ▸ stands.id)
        exact List.mem_map.2 ⟨e, entry, stands.property.trans one.symm⟩
    | piece entry same interpolated => exact List.mem_map.2 ⟨_, entry, same.symm⟩

/-- A gate has its say in what it lets pass only. -/
theorem sectionOf_eq_of_admitted {gate' : Gate}
    (same : ∀ modeId, admitted modeId gate tokens = admitted modeId gate' tokens) :
    sectionOf o gate c tokens = sectionOf o gate' c tokens := by
  have drafts : draftOf o gate c tokens = draftOf o gate' c tokens := by
    unfold draftOf flatDraft steppedDraft themedDraft fluidDraft
    simp only [same]
  rw [sectionOf, drafts, sectionOf]

/-- The section of foundations is the same behind every gate. -/
theorem sectionOf_foundations (foundations : ∀ t ∈ tokens, t.layer = .foundations)
    (gate gate' : Gate) :
    sectionOf o gate c tokens = sectionOf o gate' c tokens :=
  sectionOf_eq_of_admitted fun _ => admitted_foundations foundations gate'

/-- Gates that hold back the same ones of the names of the tokens leave the section as it is. -/
theorem sectionOf_congr {gate' : Gate} (alike : gate.AlikeOn tokens gate') :
    sectionOf o gate c tokens = sectionOf o gate' c tokens :=
  sectionOf_eq_of_admitted fun _ => admitted_congr alike fun _ _ => Iff.rfl

end TokenSheet
