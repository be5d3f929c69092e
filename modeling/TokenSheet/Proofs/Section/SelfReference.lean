import TokenSheet.Proofs.Section.Names

/-!
References of a property to itself.

A declaration `--x: var(--x)` has no value, so a token that refers to its own property in some mode
is left out there. Further blocks test each mode on its own, and never hold such a declaration. The
default block trusts its gate: where the gate looks at the widest mode and the block is filled from
the narrowest one, a token that refers to itself in the narrowest mode alone slips through. This
happens in fluid sections that start from the narrowest mode, and nowhere else.
-/

namespace TokenSheet

open Css (Entry Block Declaration)

variable {o : Options} {gate : Gate} {tokens : List Token} {c : Collection} {s : Section}
  {t : Token} {modeId : String}

/-- A section with a declaration of the form `--x: var(--x)`. -/
def Section.RefersToItself (s : Section) : Prop :=
  (∃ e ∈ s.entries, e.RefersToItself) ∨ ∃ b ∈ s.blocks, ∃ d ∈ b.declarations, d.RefersToItself

/-- A collection with a token that passes its gate in the widest mode and refers to itself in the
narrowest one, which fills the default block. -/
def Collection.KeepsOwnReference (o : Options) (gate : Gate) (c : Collection)
    (tokens : List Token) : Prop :=
  o.references = .preserved ∧ o.desktopFirst = false ∧ c.IsFluid o ∧
    ∃ widest narrowest, (Mode.widestFirst c.modes).head? = some widest ∧
      (Mode.widestFirst c.modes).getLast? = some narrowest ∧
      ∃ t ∈ admitted widest.id gate tokens,
        t.property ≠ "" ∧ t.isOwnReference (t.valueIn narrowest.id) = true

/-! ## Further blocks -/

/-- Declarations of further blocks never refer to themselves. -/
theorem Repeats.not_refersToItself {entries : List Entry} {d : Declaration}
    (h : Repeats o tokens entries d) : ¬ d.RefersToItself := by
  cases h with
  | value mem declared writes =>
      obtain ⟨notOwn, v, run, rfl⟩ := declaration?_eq_ok.1 writes
      intro own
      rw [Token.isOwnReference_of_rendered run own] at notOwn
      cases notOwn
  | piece mem same interpolated =>
      intro own
      rw [Declaration.RefersToItself, interpolated] at own
      cases own

theorem sectionOf_blocks_not_refersToItself (run : sectionOf o gate c tokens = .ok s) {b : Block}
    (block : b ∈ s.blocks) {d : Declaration} (mem : d ∈ b.declarations) : ¬ d.RefersToItself := by
  rcases sectionOf_shape run with ⟨-, empty⟩ | ⟨gateMode, standard, -, -, shape⟩
  · rw [empty] at block
    cases block
  · exact (shape.blocks b block d mem).not_refersToItself

/-! ## The default block -/

/-- An entry that refers to itself stands for a token that does so in the default mode. -/
theorem EntryFor.of_refersToItself {e : Entry} (entry : EntryFor o modeId t e)
    (own : e.RefersToItself) :
    o.references = .preserved ∧ t.property ≠ "" ∧ t.isOwnReference (t.valueIn modeId) = true := by
  have run := entry.target _ own
  rw [entry.property] at run
  obtain ⟨preserved, nonempty, value⟩ := Token.rendered_eq_reference.1 run
  exact ⟨preserved, nonempty, Token.isOwnReference_iff.2 value⟩

/-- Where the default mode is the mode of the gate, no entry refers to itself. -/
theorem Shape.not_refersToItself {m : Mode} {d : Draft} (shape : Shape o m m gate tokens d)
    {e : Entry} (mem : e ∈ d.entries) : ¬ e.RefersToItself := by
  intro own
  obtain ⟨t, passed, entry⟩ := shape.entries e mem
  have notOwn := (passed_of_mem_admitted passed).notOwn
  rw [(entry.of_refersToItself own).2.2] at notOwn
  cases notOwn

theorem keepsOwnReference_of_entry (run : sectionOf o gate c tokens = .ok s) {e : Entry}
    (mem : e ∈ s.entries) (own : e.RefersToItself) : c.KeepsOwnReference o gate tokens := by
  rcases sectionOf_shape run with ⟨empty, -⟩ | ⟨widest, narrowest, atGate, standard, shape⟩
  · rw [empty] at mem
    cases mem
  · have apart : ¬ c.gateMode? o = c.standardMode? o := by
      intro same
      rw [atGate, standard] at same
      obtain rfl := Option.some.inj same
      exact shape.not_refersToItself mem own
    have fluid : c.IsFluid o := by
      by_contra notFluid
      exact apart (Collection.gateMode?_of_not_isFluid notFluid)
    rw [Collection.gateMode?_of_isFluid fluid] at apart atGate
    rw [Collection.standardMode?_of_breakpoint fluid.1] at apart standard
    have upwards : o.desktopFirst = false := by
      cases direction : o.desktopFirst with
      | false => rfl
      | true =>
          rw [direction] at apart
          exact absurd rfl apart
    rw [upwards] at standard
    obtain ⟨t, passed, entry⟩ := shape.entries e mem
    obtain ⟨preserved, nonempty, own⟩ := entry.of_refersToItself own
    exact ⟨preserved, upwards, fluid, widest, narrowest, atGate, standard, t, passed, nonempty, own⟩

/-- A token that slips through the gate is written as a reference to itself, whether it is stepped
or not. -/
theorem exists_entry_of_keepsOwnReference (run : sectionOf o gate c tokens = .ok s)
    (keeps : c.KeepsOwnReference o gate tokens) : ∃ e ∈ s.entries, e.RefersToItself := by
  obtain ⟨preserved, upwards, fluid, widest, narrowest, head, last, t, passed, nonempty, own⟩ :=
    keeps
  obtain ⟨d, draft, done⟩ := bind_eq_ok.1 run
  rw [← pure_eq_ok.1 done]
  rw [draftOf_of_isFluid fluid] at draft
  have written : t.rendered o narrowest.id = .ok (some (.reference t.property)) :=
    Token.rendered_eq_reference.2 ⟨preserved, nonempty, Token.isOwnReference_iff.1 own⟩
  rcases fluidDraft_eq_ok draft with ⟨empty, -⟩ |
    ⟨widest', standard, entrants, growing, fixed, media, fallback, head', default, steps,
      entries, -⟩
  · rw [empty] at head
    cases head
  · rw [upwards] at default
    obtain rfl := Option.some.inj (head.symm.trans head')
    obtain rfl := Option.some.inj (last.symm.trans default)
    obtain ⟨en, entrant, known⟩ := steps.exists_entrant passed
    refine ⟨⟨t.id, t.property, .plain (.reference t.property)⟩, ?_, rfl⟩
    rw [entries]
    cases stepped : en.stepped with
    | true =>
        refine List.mem_append_right _ ((mem_filterMapM steps.stay).2 ⟨t, ?_, ?_⟩)
        · exact mem_mediaDriven.2 ⟨en, entrant, stepped, known.token⟩
        · exact plainEntryIn_eq_ok.2 ⟨_, written, rfl⟩
    | false =>
        have still : en.scaling = false := by
          cases scaling : en.scaling with
          | false => rfl
          | true => cases Token.target?_of_scaling (scaling ▸ known.scaling stepped) written
        refine List.mem_append_left _ (List.mem_map.2 ⟨⟨_, []⟩, ?_, rfl⟩)
        refine (mem_filterMapM steps.grow).2 ⟨en, mem_clampable.2 ⟨entrant, stepped⟩, ?_⟩
        rw [clampableEntryIn, known.token, written, ok_bind, still]
        rfl

/-- A section refers to itself exactly if its collection has a token that slips through the gate. -/
theorem sectionOf_refersToItself_iff (run : sectionOf o gate c tokens = .ok s) :
    s.RefersToItself ↔ c.KeepsOwnReference o gate tokens := by
  constructor
  · rintro (⟨e, mem, own⟩ | ⟨b, block, d, mem, own⟩)
    · exact keepsOwnReference_of_entry run mem own
    · exact absurd own (sectionOf_blocks_not_refersToItself run block mem)
  · intro keeps
    exact .inl (exists_entry_of_keepsOwnReference run keeps)

end TokenSheet
