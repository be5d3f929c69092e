import Mathlib.Data.List.Perm.Subperm
import TokenSheet.Proofs.Css.References
import TokenSheet.Proofs.Section.Admission
import TokenSheet.Stylesheet.Emission

/-!
What every draft is made of, whichever strategy made it.

A draft has a mode at its gate and a mode for its default block. Its entries belong to tokens that
passed the gate, each token giving at most one, and its further blocks only repeat what the default
block declares (`Shape`). The strategies are opened here once; what holds of all sections is derived
from the shape.
-/

namespace TokenSheet

open Css (Entry Block Declaration MediaBlock ThemeBlock)

variable {o : Options} {gate : Gate} {tokens : List Token} {declared : List String}
  {modeId : String} {t : Token}

/-! ## Keys and provenance -/

/-- The id and the property of an entry. -/
def Css.Entry.key (e : Entry) : String × String := (e.id, e.property)

/-- The id and the property of a token. -/
def Token.key (t : Token) : String × String := (t.id, t.property)

/-- An entry that stands for a token. If it refers to a property, so does the token in the mode of
the default block. -/
structure EntryFor (o : Options) (modeId : String) (t : Token) (e : Entry) : Prop where
  id : e.id = t.id
  property : e.property = t.property
  target : ∀ p, e.target? = some p → t.rendered o modeId = .ok (some (.reference p))

theorem EntryFor.key {e : Entry} (h : EntryFor o modeId t e) : t.key = e.key := by
  rw [Token.key, Entry.key, h.id, h.property]

/-- The declarations of a block. -/
def Css.Block.declarations : Block → List Declaration
  | .media b => b.declarations
  | .pieces _ b => b.declarations
  | .scheme b => b.declarations
  | .chosenThemes bs => bs.flatMap (·.declarations)
  | .furtherTheme b => b.declarations
  | .fallback bs => bs.flatMap (·.declarations)

/-- Where a declaration of a further block comes from. -/
inductive Repeats (o : Options) (tokens : List Token) (entries : List Entry) (d : Declaration) :
    Prop where
  /-- The value in some mode of a token that the default block declares. -/
  | value {t : Token} {modeId : String} (mem : t ∈ tokens) (declared : t.id ∈ declaredIds entries)
      (writes : declaration? o modeId t = .ok (some d))
  /-- A later piece of an entry of the default block. -/
  | piece {e : Entry} (mem : e ∈ entries) (same : d.property = e.property)
      (interpolated : d.value.target? = none)

theorem Repeats.mono {tokens' : List Token} {entries : List Entry} {d : Declaration}
    (h : Repeats o tokens entries d) (sub : tokens ⊆ tokens') : Repeats o tokens' entries d := by
  cases h with
  | value mem declared writes => exact .value (sub mem) declared writes
  | piece mem same interpolated => exact .piece mem same interpolated

/-- The shape of a draft with a mode at its gate and a mode for its default block. -/
structure Shape (o : Options) (gateMode standard : Mode) (gate : Gate) (tokens : List Token)
    (d : Draft) : Prop where
  keys : (d.entries.map Entry.key).Subperm ((admitted gateMode.id gate tokens).map Token.key)
  entries : ∀ e ∈ d.entries, ∃ t ∈ admitted gateMode.id gate tokens, EntryFor o standard.id t e
  blocks : ∀ b ∈ d.blocks, ∀ x ∈ b.declarations, Repeats o tokens d.entries x

/-! ## Entries and declarations of single tokens -/

theorem plainEntryIn_eq_ok {e : Entry} :
    plainEntryIn o modeId t = .ok (some e) ↔
      ∃ v, t.rendered o modeId = .ok (some v) ∧ e = ⟨t.id, t.property, .plain v⟩ := by
  unfold plainEntryIn
  rw [bind_eq_ok]
  constructor
  · rintro ⟨v, run, done⟩
    obtain ⟨v, rfl, rfl⟩ := Option.map_eq_some_iff.1 (pure_eq_ok.1 done)
    exact ⟨v, run, rfl⟩
  · rintro ⟨v, run, rfl⟩
    exact ⟨some v, run, rfl⟩

theorem declaration?_eq_ok {d : Declaration} :
    declaration? o modeId t = .ok (some d) ↔
      t.isOwnReference (t.valueIn modeId) = false ∧
        ∃ v, t.rendered o modeId = .ok (some v) ∧ d = ⟨t.property, v⟩ := by
  unfold declaration?
  by_cases own : t.isOwnReference (t.valueIn modeId) = true
  · simp [own]
  · rw [if_neg own, bind_eq_ok]
    rw [Bool.not_eq_true] at own
    constructor
    · rintro ⟨v, run, done⟩
      obtain ⟨v, rfl, rfl⟩ := Option.map_eq_some_iff.1 (pure_eq_ok.1 done)
      exact ⟨own, v, run, rfl⟩
    · rintro ⟨-, v, run, rfl⟩
      exact ⟨some v, run, rfl⟩

theorem entryFor_plain {v : Css.Value Float} (run : t.rendered o modeId = .ok (some v)) :
    EntryFor o modeId t ⟨t.id, t.property, .plain v⟩ where
  id := rfl
  property := rfl
  target p h := by rw [run, Css.Value.eq_reference_of_target? h]

theorem entryFor_of_plainEntryIn {e : Entry} (h : plainEntryIn o modeId t = .ok (some e)) :
    EntryFor o modeId t e := by
  obtain ⟨v, run, rfl⟩ := plainEntryIn_eq_ok.1 h
  exact entryFor_plain run

theorem entryFor_proportion (n : Nat) : EntryFor o modeId t (proportionEntry t n) where
  id := rfl
  property := rfl
  target p h := by cases h

theorem entryFor_of_steppedEntryIn {e : Entry} (h : steppedEntryIn o modeId t = .ok (some e)) :
    EntryFor o modeId t e := by
  unfold steppedEntryIn at h
  split at h
  · rw [← Option.some.inj (Except.ok.inj h)]
    exact entryFor_proportion _
  · exact entryFor_of_plainEntryIn h

/-- An entry without a reference stands for its token in every mode. -/
theorem entryFor_of_target?_none {e : Entry} (id : e.id = t.id) (property : e.property = t.property)
    (none : e.target? = none) : EntryFor o modeId t e where
  id := id
  property := property
  target p h := by rw [none] at h; cases h

/-! ## Declarations of blocks -/

theorem mem_modeDeclarations {m : Mode} {ds : List Declaration}
    (run : modeDeclarations o declared tokens m = .ok ds) {d : Declaration} :
    d ∈ ds ↔ ∃ t ∈ tokens, t.id ∈ declared ∧ declaration? o m.id t = .ok (some d) := by
  unfold modeDeclarations at run
  rw [mem_filterMapM run]
  simp only [List.mem_filter, List.contains_eq_mem, decide_eq_true_eq, and_assoc]

theorem Repeats.of_mode {m : Mode} {ds : List Declaration} {entries : List Entry}
    (run : modeDeclarations o declared tokens m = .ok ds) (known : declared ⊆ declaredIds entries) :
    ∀ d ∈ ds, Repeats o tokens entries d := by
  intro d mem
  obtain ⟨t, mem, id, writes⟩ := (mem_modeDeclarations run).1 mem
  exact .value mem (known id) writes

/-- A block of a mode holds the declarations of the mode; without any it is left out. -/
theorem blockOfMode_eq_ok {κ β : Type} {make : κ → List Declaration → β} {k : κ} {m : Mode} {b : β} :
    (do let ds ← modeDeclarations o declared tokens m
        return if ds.isEmpty then none else some (make k ds)) = .ok (some b) ↔
      ∃ ds, modeDeclarations o declared tokens m = .ok ds ∧ ds ≠ [] ∧ make k ds = b := by
  rw [bind_eq_ok]
  refine exists_congr fun ds => and_congr_right fun _ => ?_
  rw [pure_eq_ok]
  cases ds with
  | nil => simp
  | cons d rest => simp

/-- Each media block holds the declarations of its mode, of which there are some. -/
theorem mem_mediaBlocks {ts : List (Css.Condition × Mode)} {bs : List MediaBlock}
    (run : mediaBlocks o declared tokens ts = .ok bs) {b : MediaBlock} (mem : b ∈ bs) :
    ∃ p ∈ ts, b.condition = p.1 ∧ modeDeclarations o declared tokens p.2 = .ok b.declarations ∧
      b.declarations ≠ [] := by
  obtain ⟨p, listed, step⟩ := (mem_filterMapM run).1 mem
  obtain ⟨ds, made, declares, rfl⟩ := blockOfMode_eq_ok.1 step
  exact ⟨p, listed, rfl, made, declares⟩

/-- So does each block of a theme. -/
theorem mem_themeBlocks {themes : List (String × Mode)} {bs : List ThemeBlock}
    (run : themeBlocks o declared tokens themes = .ok bs) {b : ThemeBlock} (mem : b ∈ bs) :
    ∃ p ∈ themes, b.theme = p.1 ∧ modeDeclarations o declared tokens p.2 = .ok b.declarations ∧
      b.declarations ≠ [] := by
  obtain ⟨p, listed, step⟩ := (mem_filterMapM run).1 mem
  obtain ⟨ds, made, declares, rfl⟩ := blockOfMode_eq_ok.1 step
  exact ⟨p, listed, rfl, made, declares⟩

theorem Repeats.of_media {ts : List (Css.Condition × Mode)} {bs : List MediaBlock}
    {entries : List Entry}
    (run : mediaBlocks o declared tokens ts = .ok bs) (known : declared ⊆ declaredIds entries) :
    ∀ b ∈ bs, ∀ d ∈ b.declarations, Repeats o tokens entries d := by
  intro b mem
  obtain ⟨p, -, -, run, -⟩ := mem_mediaBlocks run mem
  exact .of_mode run known

theorem Repeats.of_themes {themes : List (String × Mode)} {bs : List ThemeBlock}
    {entries : List Entry}
    (run : themeBlocks o declared tokens themes = .ok bs) (known : declared ⊆ declaredIds entries) :
    ∀ b ∈ bs, ∀ d ∈ b.declarations, Repeats o tokens entries d := by
  intro b mem
  obtain ⟨p, -, -, run, -⟩ := mem_themeBlocks run mem
  exact .of_mode run known

/-! ## Sections without interpolation -/

/-- The default block of a shape, where each token that passed is asked once. -/
theorem entries_of_filterMapM {gateMode standard : Mode}
    {f : Token → Except NumberError (Option Entry)} {entries : List Entry}
    (run : (admitted gateMode.id gate tokens).filterMapM f = .ok entries)
    (step : ∀ t e, f t = .ok (some e) → EntryFor o standard.id t e) :
    (entries.map Entry.key).Subperm ((admitted gateMode.id gate tokens).map Token.key) ∧
      ∀ e ∈ entries, ∃ t ∈ admitted gateMode.id gate tokens, EntryFor o standard.id t e := by
  constructor
  · refine (filterMapM_map_sublist run fun t _ e made => ?_).subperm
    have here := step t e made
    rw [Entry.key, Token.key, here.id, here.property]
  · intro e mem
    obtain ⟨t, mem, made⟩ := (mem_filterMapM run).1 mem
    exact ⟨t, mem, step t e made⟩

/-- The steps of a flat section. -/
theorem flatDraft_eq_ok {c : Collection} {d : Draft} (run : flatDraft o gate c tokens = .ok d) :
    c.firstMode? = none ∧ d = {} ∨
      ∃ m entries, c.firstMode? = some m ∧
        (admitted m.id gate tokens).filterMapM (plainEntryIn o m.id) = .ok entries ∧
        d = { entries } := by
  unfold flatDraft at run
  split at run
  · rename_i none
    exact .inl ⟨none, (Except.ok.inj run).symm⟩
  · rename_i m first
    obtain ⟨entries, made, done⟩ := bind_eq_ok.1 run
    exact .inr ⟨m, entries, first, made, (pure_eq_ok.1 done).symm⟩

theorem flatDraft_shape {c : Collection} {d : Draft} (run : flatDraft o gate c tokens = .ok d) :
    c.firstMode? = none ∧ d = {} ∨
      ∃ m, c.firstMode? = some m ∧ Shape o m m gate tokens d := by
  rcases flatDraft_eq_ok run with empty | ⟨m, entries, first, made, rfl⟩
  · exact .inl empty
  · obtain ⟨keys, origins⟩ := entries_of_filterMapM made fun t e => entryFor_of_plainEntryIn
    exact .inr ⟨m, first, keys, origins, List.forall_mem_nil _⟩

/-- The steps of a stepped section. -/
theorem steppedDraft_eq_ok {modes : List Mode} {d : Draft}
    (run : steppedDraft o gate modes tokens = .ok d) :
    Mode.default? o.desktopFirst modes = none ∧ d = {} ∨
      ∃ standard entries media, Mode.default? o.desktopFirst modes = some standard ∧
        (admitted standard.id gate tokens).filterMapM (steppedEntryIn o standard.id) = .ok entries ∧
        mediaBlocks o
          ((declaredIds entries).filter fun id =>
            !(((admitted standard.id gate tokens).filter
              (·.columns?.isSome)).map (·.id)).contains id)
          tokens (Mode.transitions o.desktopFirst modes) = .ok media ∧
        d = { entries, blocks := media.map .media } := by
  unfold steppedDraft at run
  split at run
  · rename_i none
    exact .inl ⟨none, (Except.ok.inj run).symm⟩
  · rename_i standard default
    obtain ⟨entries, made, run⟩ := bind_eq_ok.1 run
    obtain ⟨media, blocks, done⟩ := bind_eq_ok.1 run
    exact .inr ⟨standard, entries, media, default, made, blocks, (pure_eq_ok.1 done).symm⟩

theorem steppedDraft_shape {modes : List Mode} {d : Draft}
    (run : steppedDraft o gate modes tokens = .ok d) :
    Mode.default? o.desktopFirst modes = none ∧ d = {} ∨
      ∃ m, Mode.default? o.desktopFirst modes = some m ∧ Shape o m m gate tokens d := by
  rcases steppedDraft_eq_ok run with empty | ⟨m, entries, media, default, made, blocks, rfl⟩
  · exact .inl empty
  · obtain ⟨keys, origins⟩ := entries_of_filterMapM made fun t e => entryFor_of_steppedEntryIn
    refine .inr ⟨m, default, keys, origins, ?_⟩
    refine List.forall_mem_map.2 fun b mem => ?_
    exact Repeats.of_media blocks (List.filter_subset_self _) b mem

/-! ## Theme sections -/

/-- The steps of the blocks for a light and a dark mode. -/
theorem pairBlocks_eq_ok {light dark : Mode} {bs : List Block}
    (run : pairBlocks o declared tokens light dark = .ok bs) :
    ∃ schemes chosen,
      (if o.followsScheme then themeBlocks o declared tokens [("light", light), ("dark", dark)]
        else .ok []) = .ok schemes ∧
      (if o.followsAttribute then themeBlocks o declared tokens [("light", light), ("dark", dark)]
        else .ok []) = .ok chosen ∧
      bs = schemes.map .scheme ++ if o.followsAttribute then [.chosenThemes chosen] else [] := by
  unfold pairBlocks at run
  simp only [pure_bind] at run
  obtain ⟨schemes, first, run⟩ := ite_bind_eq_ok run
  refine ⟨schemes, ?_⟩
  by_cases chooses : o.followsAttribute = true
  · rw [if_pos chooses] at run ⊢
    obtain ⟨chosen, second, done⟩ := bind_eq_ok.1 run
    refine ⟨chosen, first, second, ?_⟩
    rw [if_pos chooses]
    exact (pure_eq_ok.1 done).symm
  · rw [if_neg chooses] at run ⊢
    refine ⟨[], first, rfl, ?_⟩
    rw [if_neg chooses]
    exact (pure_eq_ok.1 run).symm

theorem Repeats.of_some_themes {condition : Prop} [Decidable condition]
    {themes : List (String × Mode)} {bs : List ThemeBlock} {entries : List Entry}
    (run : (if condition then themeBlocks o declared tokens themes else .ok []) = .ok bs)
    (known : declared ⊆ declaredIds entries) :
    ∀ b ∈ bs, ∀ d ∈ b.declarations, Repeats o tokens entries d := by
  split at run
  · exact .of_themes run known
  · rw [← Except.ok.inj run]
    exact List.forall_mem_nil _

theorem pairBlocks_repeat {light dark : Mode} {bs : List Block} {entries : List Entry}
    (run : pairBlocks o declared tokens light dark = .ok bs)
    (known : declared ⊆ declaredIds entries) :
    ∀ b ∈ bs, ∀ d ∈ b.declarations, Repeats o tokens entries d := by
  obtain ⟨schemes, chosen, first, second, rfl⟩ := pairBlocks_eq_ok run
  refine List.forall_mem_append.2 ⟨List.forall_mem_map.2 fun b mem => ?_, ?_⟩
  · exact Repeats.of_some_themes first known b mem
  · split
    · rw [List.forall_mem_singleton]
      intro d mem
      obtain ⟨b, mem, inside⟩ := List.mem_flatMap.1 mem
      exact Repeats.of_some_themes second known b mem d inside
    · exact List.forall_mem_nil _

theorem furtherBlocks_repeat {modes : List Mode} {bs : List Block} {entries : List Entry}
    (run : furtherBlocks o declared tokens modes = .ok bs)
    (known : declared ⊆ declaredIds entries) :
    ∀ b ∈ bs, ∀ d ∈ b.declarations, Repeats o tokens entries d := by
  unfold furtherBlocks at run
  split at run
  · obtain ⟨themes, run, done⟩ := bind_eq_ok.1 run
    rw [← pure_eq_ok.1 done]
    exact List.forall_mem_map.2 fun b mem => Repeats.of_themes run known b mem
  · rw [← Except.ok.inj run]
    exact List.forall_mem_nil _

/-- The steps of a theme section. -/
theorem themedDraft_eq_ok {c : Collection} {d : Draft} (run : themedDraft o gate c tokens = .ok d) :
    (c.modeNamed? "light").or c.firstMode? = none ∧ d = {} ∨
      ∃ standard entries pair further, (c.modeNamed? "light").or c.firstMode? = some standard ∧
        (admitted standard.id gate tokens).filterMapM (plainEntryIn o standard.id) = .ok entries ∧
        (match c.modeNamed? "light", c.modeNamed? "dark" with
          | some light, some dark => pairBlocks o (declaredIds entries) tokens light dark
          | _, _ => .ok []) = .ok pair ∧
        furtherBlocks o (declaredIds entries) tokens (c.modes.filter fun m =>
          !((c.modeNamed? "light").toList ++ (c.modeNamed? "dark").toList ++
            [standard]).contains m) = .ok further ∧
        d = { entries, blocks := pair ++ further } := by
  unfold themedDraft at run
  simp only [pure_bind] at run
  generalize c.modeNamed? "light" = light? at run ⊢
  generalize c.modeNamed? "dark" = dark? at run ⊢
  cases default : light?.or c.firstMode? with
  | none =>
      rw [default] at run
      exact .inl ⟨rfl, (pure_eq_ok.1 run).symm⟩
  | some standard =>
      rw [default] at run
      obtain ⟨entries, made, run⟩ := bind_eq_ok.1 run
      refine .inr ⟨standard, entries, ?_⟩
      match light?, dark? with
      | some light, some dark =>
          obtain ⟨pair, pairs, run⟩ := bind_eq_ok.1 run
          obtain ⟨further, others, done⟩ := bind_eq_ok.1 run
          exact ⟨pair, further, rfl, made, pairs, others, (pure_eq_ok.1 done).symm⟩
      | some light, none =>
          obtain ⟨further, others, done⟩ := bind_eq_ok.1 run
          exact ⟨[], further, rfl, made, rfl, others, (pure_eq_ok.1 done).symm⟩
      | none, dark? =>
          obtain ⟨further, others, done⟩ := bind_eq_ok.1 run
          exact ⟨[], further, rfl, made, rfl, others, (pure_eq_ok.1 done).symm⟩

theorem themedDraft_shape {c : Collection} {d : Draft} (run : themedDraft o gate c tokens = .ok d) :
    (c.modeNamed? "light").or c.firstMode? = none ∧ d = {} ∨
      ∃ m, (c.modeNamed? "light").or c.firstMode? = some m ∧ Shape o m m gate tokens d := by
  rcases themedDraft_eq_ok run with empty |
    ⟨m, entries, pair, further, standard, made, first, second, rfl⟩
  · exact .inl empty
  · obtain ⟨keys, origins⟩ := entries_of_filterMapM made fun t e => entryFor_of_plainEntryIn
    refine .inr ⟨m, standard, keys, origins, List.forall_mem_append.2 ⟨?_, ?_⟩⟩
    · split at first
      · exact pairBlocks_repeat first (List.Subset.refl _)
      · rw [← Except.ok.inj first]
        exact List.forall_mem_nil _
    · exact furtherBlocks_repeat second (List.Subset.refl _)

end TokenSheet
