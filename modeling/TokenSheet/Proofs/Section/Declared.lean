import TokenSheet.Proofs.Section.FluidDraft

/-!
Which names a section declares, exactly.

A token that passed the gate of a section has an entry if it is written in the default mode. In
stepped output a proportion has one in any case, since its form does not depend on a value
(`mem_properties_iff`).
-/

namespace TokenSheet

open Css (Entry Block MediaBlock)

variable {o : Options} {gate : Gate} {tokens : List Token} {modes : List Mode} {t : Token}
  {modeId n : String} {c : Collection} {s : Section}

/-- Whether a token is written in a mode. -/
def Token.IsWritten (o : Options) (t : Token) (modeId : String) : Prop :=
  ∃ v, t.rendered o modeId = .ok (some v)

/-- Whether a token that passed the gate of a section has an entry there. -/
def Collection.HasEntry (o : Options) (c : Collection) (standard : Mode) (t : Token) : Prop :=
  t.IsWritten o standard.id ∨ c.kind = .breakpoint ∧ ¬ c.IsFluid o ∧ t.columns?.isSome

/-! ## Entries of single tokens -/

theorem exists_plainEntryIn :
    (∃ e, plainEntryIn o modeId t = .ok (some e)) ↔ t.IsWritten o modeId := by
  constructor
  · rintro ⟨e, made⟩
    obtain ⟨v, run, -⟩ := plainEntryIn_eq_ok.1 made
    exact ⟨v, run⟩
  · rintro ⟨v, run⟩
    exact ⟨_, plainEntryIn_eq_ok.2 ⟨v, run, rfl⟩⟩

theorem exists_steppedEntryIn :
    (∃ e, steppedEntryIn o modeId t = .ok (some e)) ↔ t.IsWritten o modeId ∨ t.columns?.isSome := by
  rw [steppedEntryIn]
  cases t.columns? with
  | none => simpa using exists_plainEntryIn
  | some columns => simp

/-- Where each token that passed is asked once for an entry of its own, the names are those of the
tokens that have one. -/
theorem mem_properties_of_filterMapM {passed : List Token}
    {f : Token → Except NumberError (Option Entry)} {entries : List Entry}
    (run : passed.filterMapM f = .ok entries)
    (own : ∀ t e, f t = .ok (some e) → e.property = t.property) :
    n ∈ entries.map (·.property) ↔
      ∃ t ∈ passed, (∃ e, f t = .ok (some e)) ∧ t.property = n := by
  rw [List.mem_map]
  constructor
  · rintro ⟨e, mem, rfl⟩
    obtain ⟨t, passes, made⟩ := (mem_filterMapM run).1 mem
    exact ⟨t, passes, ⟨e, made⟩, (own t e made).symm⟩
  · rintro ⟨t, passes, ⟨e, made⟩, rfl⟩
    exact ⟨e, (mem_filterMapM run).2 ⟨t, passes, made⟩, own t e made⟩

/-- A clampable token that is written in the default mode has an entry. -/
theorem exists_of_clampableEntryIn {en : Entrant} {r : Option FluidEntry}
    (written : en.token.IsWritten o modeId) (run : clampableEntryIn o modes modeId en = .ok r) :
    ∃ e, r = some e := by
  obtain ⟨v, rendered⟩ := written
  rw [clampableEntryIn, rendered, ok_bind] at run
  simp only at run
  split at run
  · obtain ⟨e, -, done⟩ := bind_eq_ok.1 run
    exact ⟨e, (pure_eq_ok.1 done).symm⟩
  · exact ⟨_, (pure_eq_ok.1 run).symm⟩

namespace FluidSteps

variable {widest standard : Mode} {entrants : List Entrant} {growing : List FluidEntry}
  {fixed : List Entry} {media : List MediaBlock} {fallback : List Block}
  (h : FluidSteps o gate modes tokens widest standard entrants growing fixed media fallback)

include h

/-- Every entry of a fluid section stands for a token that passed and is written in the default
mode. -/
theorem exists_source {e : Entry} (mem : e ∈ growing.map (·.entry) ++ fixed) :
    ∃ t ∈ admitted widest.id gate tokens, t.IsWritten o standard.id ∧ EntryFor o standard.id t e := by
  rcases List.mem_append.1 mem with grew | stayed
  · obtain ⟨e, grown, rfl⟩ := List.mem_map.1 grew
    obtain ⟨en, entrant, made⟩ := (mem_filterMapM h.grow).1 grown
    obtain ⟨passed, known⟩ := h.entrantOf_of_mem (mem_clampable.1 entrant).1
    obtain ⟨v, rendered, -⟩ := clampableEntryIn_eq_ok made
    exact ⟨en.token, passed, ⟨v, rendered⟩, (fluidEntryFor_of_clampableEntryIn known made).entry⟩
  · obtain ⟨t, driven, made⟩ := (mem_filterMapM h.stay).1 stayed
    obtain ⟨en, entrant, -, rfl⟩ := mem_mediaDriven.1 driven
    exact ⟨en.token, (h.entrantOf_of_mem entrant).1, exists_plainEntryIn.1 ⟨e, made⟩,
      entryFor_of_plainEntryIn made⟩

/-- A token that passed and is written in the default mode has an entry. -/
theorem exists_entry (passed : t ∈ admitted widest.id gate tokens)
    (written : t.IsWritten o standard.id) :
    ∃ e ∈ growing.map (·.entry) ++ fixed, EntryFor o standard.id t e := by
  obtain ⟨en, entrant, known⟩ := h.exists_entrant passed
  cases stepped : en.stepped with
  | true =>
      obtain ⟨e, made⟩ := exists_plainEntryIn.2 written
      have driven := mem_mediaDriven.2 ⟨en, entrant, stepped, known.token⟩
      exact ⟨e, List.mem_append_right _ ((mem_filterMapM h.stay).2 ⟨t, driven, made⟩),
        entryFor_of_plainEntryIn made⟩
  | false =>
      have clampable := mem_clampable.2 ⟨entrant, stepped⟩
      obtain ⟨r, made⟩ := (filterMapM_eq_ok.1 h.grow).1 en clampable
      obtain ⟨e, rfl⟩ := exists_of_clampableEntryIn (known.token ▸ written) made
      have grown := (mem_filterMapM h.grow).2 ⟨en, clampable, made⟩
      exact ⟨e.entry, List.mem_append_left _ (List.mem_map_of_mem grown),
        (fluidEntryFor_of_clampableEntryIn known made).entry⟩

/-- The names of a fluid section are those of the entrants that are written in the default mode. -/
theorem mem_properties :
    n ∈ (growing.map (·.entry) ++ fixed).map (·.property) ↔
      ∃ t ∈ admitted widest.id gate tokens, t.IsWritten o standard.id ∧ t.property = n := by
  rw [List.mem_map]
  constructor
  · rintro ⟨e, mem, rfl⟩
    obtain ⟨t, passed, written, entry⟩ := h.exists_source mem
    exact ⟨t, passed, written, entry.property.symm⟩
  · rintro ⟨t, passed, written, rfl⟩
    obtain ⟨e, mem, entry⟩ := h.exists_entry passed written
    exact ⟨e, mem, entry.property⟩

end FluidSteps

/-! ## All collections -/

/-- Entries with the names of those tokens that passed the gate and have an entry. -/
def Collection.NamesEntrants (o : Options) (gate : Gate) (c : Collection) (tokens : List Token)
    (entries : List Entry) : Prop :=
  ∀ n, n ∈ entries.map (·.property) ↔ ∃ gateMode standard, c.gateMode? o = some gateMode ∧
    c.standardMode? o = some standard ∧
    ∃ t ∈ admitted gateMode.id gate tokens, c.HasEntry o standard t ∧ t.property = n

theorem Collection.namesEntrants_of_none (standard : c.standardMode? o = none) :
    c.NamesEntrants o gate tokens [] := by
  intro n
  rw [standard]
  simp

theorem Collection.namesEntrants_of_filterMapM {m : Mode}
    {f : Token → Except NumberError (Option Entry)}
    {entries : List Entry} (notFluid : ¬ c.IsFluid o) (standard : c.standardMode? o = some m)
    (run : (admitted m.id gate tokens).filterMapM f = .ok entries)
    (own : ∀ t e, f t = .ok (some e) → e.property = t.property)
    (has : ∀ t, (∃ e, f t = .ok (some e)) ↔ c.HasEntry o m t) :
    c.NamesEntrants o gate tokens entries := by
  intro n
  rw [mem_properties_of_filterMapM run own, c.gateMode?_of_not_isFluid notFluid, standard]
  simp only [Option.some.injEq, exists_and_left, exists_eq_left', has]

/-- In sections without widths the default block holds what is written in the default mode. -/
theorem Collection.namesEntrants_of_plain {m : Mode} {entries : List Entry}
    (kind : c.kind ≠ .breakpoint) (standard : c.standardMode? o = some m)
    (run : (admitted m.id gate tokens).filterMapM (plainEntryIn o m.id) = .ok entries) :
    c.NamesEntrants o gate tokens entries := by
  refine c.namesEntrants_of_filterMapM (fun fluid => kind fluid.1) standard run
    (fun t e step => (entryFor_of_plainEntryIn step).property) fun t => ?_
  rw [exists_plainEntryIn, HasEntry]
  simp [kind]

theorem draftOf_namesEntrants {d : Draft} (run : draftOf o gate c tokens = .ok d) :
    c.NamesEntrants o gate tokens d.entries := by
  by_cases fluid : c.IsFluid o
  · intro n
    rw [draftOf_of_isFluid fluid] at run
    rw [Collection.gateMode?_of_isFluid fluid, Collection.standardMode?_of_breakpoint fluid.1]
    rcases fluidDraft_eq_ok run with ⟨none, rfl⟩ |
      ⟨widest, standard, entrants, growing, fixed, media, fallback, head, default, steps,
        entries, -⟩
    · rw [none]
      simp
    · rw [entries, steps.mem_properties, head, default]
      simp [Collection.HasEntry, fluid]
  · cases kind : c.kind with
    | breakpoint =>
        rw [draftOf_of_stepped kind fluid] at run
        have mode := Collection.standardMode?_of_breakpoint (o := o) kind
        rcases steppedDraft_eq_ok run with ⟨none, rfl⟩ | ⟨m, entries, media, default, made, -, rfl⟩
        · exact Collection.namesEntrants_of_none (mode.trans none)
        · refine Collection.namesEntrants_of_filterMapM fluid (mode.trans default) made
            (fun t e step => (entryFor_of_steppedEntryIn step).property) fun t => ?_
          rw [exists_steppedEntryIn, Collection.HasEntry]
          simp [kind, fluid]
    | theme =>
        rw [draftOf, kind] at run
        have mode := Collection.standardMode?_of_theme (o := o) kind
        rcases themedDraft_eq_ok run with ⟨none, rfl⟩ |
          ⟨m, entries, pair, further, default, made, -, -, rfl⟩
        · exact Collection.namesEntrants_of_none (mode.trans none)
        · exact c.namesEntrants_of_plain (by simp [kind]) (mode.trans default) made
    | single =>
        rw [draftOf, kind] at run
        have mode : c.standardMode? o = c.firstMode? := by rw [Collection.standardMode?, kind]
        rcases flatDraft_eq_ok run with ⟨none, rfl⟩ | ⟨m, entries, first, made, rfl⟩
        · exact Collection.namesEntrants_of_none (mode.trans none)
        · exact c.namesEntrants_of_plain (by simp [kind]) (mode.trans first) made

/-- A section declares the names of the tokens that passed its gate and have an entry. -/
theorem mem_properties_iff (run : sectionOf o gate c tokens = .ok s) :
    n ∈ s.properties ↔ ∃ gateMode standard, c.gateMode? o = some gateMode ∧
      c.standardMode? o = some standard ∧
      ∃ t ∈ admitted gateMode.id gate tokens, c.HasEntry o standard t ∧ t.property = n := by
  obtain ⟨d, draft, rfl⟩ := exists_draft_of_sectionOf run
  exact draftOf_namesEntrants draft n

end TokenSheet
