import TokenSheet.Proofs.Section.FluidDraft

/-!
What a section shows of a token.

A token that is written in every mode, and that has its property to itself, is shown by the
declarations written for it and by no others. Its default block shows the default mode, its media
blocks show the mode that takes over, and both together show the mode of the width.
-/

namespace TokenSheet

open Css (Entry Block Declaration MediaBlock Written)

variable {o : Options} {tokens : List Token} {modes : List Mode} {t : Token} {w : Css.Window}

/-! ## Tokens that are written in every mode -/

namespace Token

/-- A token that is written in each of some modes, and nowhere as a reference to itself. -/
def WrittenIn (o : Options) (t : Token) (modes : List Mode) : Prop :=
  ∀ m ∈ modes, t.isOwnReference (t.valueIn m.id) = false ∧
    ∃ text, t.renderedText o m.id = .ok (some text)

/-- The text of a token in a mode; empty if it is not written there. -/
def textIn (o : Options) (t : Token) (m : Mode) : String :=
  (outcome? (t.renderedText o m.id)).getD ""

theorem renderedText_eq_ok {modeId text : String} :
    t.renderedText o modeId = .ok (some text) ↔
      ∃ v, t.rendered o modeId = .ok (some v) ∧ v.text = text := by
  unfold renderedText
  rw [bind_eq_ok]
  constructor
  · rintro ⟨v, run, done⟩
    obtain ⟨v, rfl, same⟩ := Option.map_eq_some_iff.1 (pure_eq_ok.1 done)
    exact ⟨v, run, same⟩
  · rintro ⟨v, run, rfl⟩
    exact ⟨some v, run, rfl⟩

theorem textIn_of_rendered {m : Mode} {v : Css.Value Float}
    (run : t.rendered o m.id = .ok (some v)) : v.text = t.textIn o m := by
  rw [textIn, renderedText_eq_ok.2 ⟨v, run, rfl⟩]
  rfl

namespace WrittenIn

theorem renderedText {m : Mode} (h : t.WrittenIn o modes) (mem : m ∈ modes) :
    t.renderedText o m.id = .ok (some (t.textIn o m)) := by
  obtain ⟨-, text, run⟩ := h m mem
  rw [textIn, run]
  rfl

/-- In each mode the token has a declaration of its text. -/
theorem declaration {m : Mode} (h : t.WrittenIn o modes) (mem : m ∈ modes) :
    ∃ v, declaration? o m.id t = .ok (some ⟨t.property, v⟩) := by
  obtain ⟨notOwn, text, run⟩ := h m mem
  obtain ⟨v, run, -⟩ := renderedText_eq_ok.1 run
  exact ⟨v, declaration?_eq_ok.2 ⟨notOwn, v, run, rfl⟩⟩

theorem value {m : Mode} (h : t.WrittenIn o modes) (mem : m ∈ modes) : (t.valueIn m.id).isSome := by
  obtain ⟨-, text, run⟩ := h m mem
  obtain ⟨v, run, -⟩ := renderedText_eq_ok.1 run
  unfold rendered at run
  cases value : t.valueIn m.id with
  | some v => rfl
  | none =>
      rw [value] at run
      cases run

end WrittenIn

/-- Modes in which nothing differs from a text have that text. -/
theorem differsFrom_eq_false {text : Option String}
    (same : t.differsFrom o text modes = .ok false) :
    ∀ m ∈ modes, (t.valueIn m.id).isSome → t.renderedText o m.id = .ok text := by
  induction modes with
  | nil => exact List.forall_mem_nil _
  | cons m rest ih =>
      rw [differsFrom] at same
      split at same
      · rename_i absent
        refine List.forall_mem_cons.2 ⟨fun present => ?_, ih same⟩
        rw [Option.isNone_iff_eq_none] at absent
        rw [absent] at present
        cases present
      · obtain ⟨here, run, same⟩ := bind_eq_ok.1 same
        split at same
        · rename_i equal
          exact List.forall_mem_cons.2 ⟨fun _ => equal ▸ run, ih same⟩
        · cases pure_eq_ok.1 same

/-- A token that does not vary has one text. -/
theorem WrittenIn.textIn_eq {m m' : Mode} (h : t.WrittenIn o modes)
    (still : t.varies o modes = .ok false)
    (mem : m ∈ modes) (mem' : m' ∈ modes) : t.textIn o m = t.textIn o m' := by
  suffices all : ∃ text, ∀ m ∈ modes, t.textIn o m = text by
    obtain ⟨text, all⟩ := all
    rw [all m mem, all m' mem']
  match modes, still with
  | [], _ => cases mem
  | [only], _ => exact ⟨t.textIn o only, List.forall_mem_singleton.2 rfl⟩
  | first :: next :: rest, still =>
      obtain ⟨text, run, still⟩ := bind_eq_ok.1 still
      have same := differsFrom_eq_false still
      refine ⟨text.getD "", List.forall_mem_cons.2 ⟨?_, fun m mem => ?_⟩⟩
      · rw [textIn, run]
        rfl
      · rw [textIn, same m mem (h.value (List.mem_cons_of_mem _ mem))]
        rfl

/-- A token that is neither stepped nor scaling does not vary, if it refers to nothing outside the
modes. -/
theorem varies_eq_false (stepped : t.isStepped o modes = .ok false)
    (scaling : t.isScaling o modes = .ok false)
    (inside : t.kind = .float → t.hasReference = true → t.refersIn modes = true) :
    t.varies o modes = .ok false := by
  obtain ⟨varies, run, done⟩ := bind_eq_ok.1 stepped
  cases varies with
  | false => exact run
  | true =>
      have done := pure_eq_ok.1 done
      rw [Bool.true_and, Bool.or_eq_false_iff, bne_eq_false_iff_eq] at done
      obtain ⟨float, refers⟩ := done
      have noReference : t.hasReference = false := by
        cases reference : t.hasReference with
        | false => rfl
        | true =>
            rw [inside float reference] at refers
            cases refers
      rw [isScaling, if_pos ⟨float, noReference⟩] at scaling
      exact scaling

end Token

/-! ## Tokens with a property of their own -/

/-- A token of a section that owns its property: it is declared, and no other declared token has the
property. -/
structure Owner (tokens : List Token) (entries : List Entry) (t : Token) : Prop where
  mem : t ∈ tokens
  declared : ∃ e ∈ entries, e.key = t.key
  alone : ∀ u ∈ tokens, u.id ∈ declaredIds entries → u.property = t.property → u = t

/-- A token of a section that has its property to itself: it is declared, no other declared token
has the property, and it is not written as a proportion. -/
structure SoleOwner (tokens : List Token) (entries : List Entry) (t : Token) : Prop where
  mem : t ∈ tokens
  declared : ∃ e ∈ entries, e.key = t.key
  alone : ∀ u ∈ tokens, u.id ∈ declaredIds entries → u.property = t.property → u = t
  noProportion : ∀ e ∈ entries, e.id = t.id → ∀ n, e.form ≠ .proportion n

/-- No proportion of a section has a companion under the property. -/
def NoCompanion (entries : List Entry) (property : String) : Prop :=
  ∀ e ∈ entries, ∀ n, e.form = .proportion n → Css.companion e.property ≠ property

theorem SoleOwner.owner {entries : List Entry} (own : SoleOwner tokens entries t) :
    Owner tokens entries t :=
  ⟨own.mem, own.declared, own.alone⟩

/-- The only token of a section owns its property. -/
theorem Owner.of_only {e : Entry} (entry : e.key = t.key) : Owner [t] [e] t where
  mem := List.mem_singleton_self t
  declared := ⟨e, List.mem_singleton_self e, entry⟩
  alone _ mem _ _ := List.mem_singleton.1 mem

theorem Owner.id_mem {entries : List Entry} (own : Owner tokens entries t) :
    t.id ∈ declaredIds entries := by
  obtain ⟨e, mem, same⟩ := own.declared
  exact List.mem_map.2 ⟨e, mem, (Prod.mk.inj same).1⟩

/-- An entry under the property belongs to the token. -/
theorem Owner.eq_of_entryFor {entries : List Entry} {modeId : String} {u : Token} {e : Entry}
    (own : Owner tokens entries t) (mem : u ∈ tokens) (listed : e ∈ entries)
    (entry : EntryFor o modeId u e) (same : e.property = t.property) : u = t := by
  refine own.alone u mem ?_ (entry.property ▸ same)
  rw [← entry.id]
  exact List.mem_map_of_mem listed

/-! ## The default block -/

/-- What is written for an entry has its property, apart from the companion of a proportion. -/
theorem Css.Entry.of_mem_written {e : Entry} {d : Written} (mem : d ∈ e.written) :
    d.circumstance = .always ∧
      (d.property = e.property ∨
        ∃ n, e.form = .proportion n ∧ d.property = companion e.property) := by
  obtain ⟨id, property, form⟩ := e
  cases form with
  | plain v =>
      rw [List.mem_singleton.1 mem]
      exact ⟨rfl, .inl rfl⟩
  | piecewise n v =>
      rw [List.mem_singleton.1 mem]
      exact ⟨rfl, .inl rfl⟩
  | viewport v =>
      rw [List.mem_singleton.1 mem]
      exact ⟨rfl, .inl rfl⟩
  | proportion n =>
      rcases List.mem_cons.1 mem with rfl | mem
      · exact ⟨rfl, .inl rfl⟩
      · rw [List.mem_singleton.1 mem]
        exact ⟨rfl, .inr ⟨n, rfl, rfl⟩⟩

/-- Where all entries of a property declare one text for it and nothing else, the default block
shows that text. -/
theorem shown?_entries {entries : List Entry} {text : String} (own : Owner tokens entries t)
    (apart : NoCompanion entries t.property)
    (declares : ∀ e ∈ entries, e.property = t.property → e.declared = [(t.property, text)]) :
    Css.shown? w t.property (entries.flatMap Entry.written) = some text := by
  have written {e : Entry} (mem : e ∈ entries) (same : e.property = t.property) :
      e.written = [⟨.always, t.property, text⟩] := by
    rw [Entry.written, declares e mem same]
    rfl
  refine Css.shown?_eq_some ?_ ?_
  · obtain ⟨e, mem, same⟩ := own.declared
    refine ⟨⟨.always, t.property, text⟩, List.mem_flatMap.2 ⟨e, mem, ?_⟩, rfl⟩
    rw [written mem (Prod.mk.inj same).2]
    exact List.mem_singleton_self _
  · intro d mem same
    obtain ⟨e, mem, inside⟩ := List.mem_flatMap.1 mem
    obtain ⟨-, own_property | ⟨n, form, companion⟩⟩ := Entry.of_mem_written inside
    · rw [written mem (own_property ▸ same), List.mem_singleton] at inside
      rw [inside]
      exact ⟨rfl, rfl⟩
    · exact absurd (companion ▸ same) (apart e mem n form)

theorem shown?_plain_entries {entries : List Entry} {text : String} (own : Owner tokens entries t)
    (apart : NoCompanion entries t.property)
    (plain : ∀ e ∈ entries, e.property = t.property → ∃ v, e.form = .plain v ∧ v.text = text) :
    Css.shown? w t.property (entries.flatMap Entry.written) = some text := by
  refine shown?_entries own apart fun e mem same => ?_
  obtain ⟨v, form, rfl⟩ := plain e mem same
  rw [Entry.declared, form, ← same]

/-! ## Media blocks -/

/-- What is written for a block comes from its declarations. -/
theorem Css.Block.of_mem_written {b : Block} {d : Written} (mem : d ∈ b.written) :
    ∃ x ∈ b.declarations, d.property = x.property := by
  have here {circumstance : Css.Circumstance} {ds : List Declaration}
      (mem : d ∈ Css.writtenFor circumstance ds) : ∃ x ∈ ds, d.property = x.property := by
    obtain ⟨x, listed, rfl⟩ := List.mem_map.1 mem
    exact ⟨x, listed, rfl⟩
  have inside {α : Type} {bs : List α} {circumstance : α → Css.Circumstance}
    {ds : α → List Declaration}
      (mem : d ∈ bs.flatMap fun b => Css.writtenFor (circumstance b) (ds b)) :
      ∃ x ∈ bs.flatMap ds, d.property = x.property := by
    obtain ⟨b, listed, mem⟩ := List.mem_flatMap.1 mem
    obtain ⟨x, mem, same⟩ := here mem
    exact ⟨x, List.mem_flatMap.2 ⟨b, listed, mem⟩, same⟩
  cases b with
  | media b => exact here mem
  | pieces label b => exact here mem
  | scheme b => exact here mem
  | chosenThemes bs => exact inside mem
  | furtherTheme b => exact here mem
  | fallback bs => exact inside mem

/-- Blocks without declarations of a property show nothing for it. -/
theorem shown?_blocks_eq_none {bs : List Block} {property : String}
    (absent : ∀ b ∈ bs, ∀ x ∈ b.declarations, x.property ≠ property) :
    Css.shown? w property (bs.flatMap Block.written) = none := by
  refine Css.shown?_eq_none fun d mem same => ?_
  obtain ⟨b, listed, inside⟩ := List.mem_flatMap.1 mem
  obtain ⟨x, declared, here⟩ := Block.of_mem_written inside
  exact absent b listed x declared (here ▸ same)

/-- The declarations that blocks hold for a mode. -/
def stepDeclarations (o : Options) (declared : List String) (tokens : List Token) (m : Mode) :
    List Declaration :=
  ((modeDeclarations o declared tokens m).toOption).getD []

/-- Blocks of modes write what each mode declares; a block that is left out would write nothing. -/
theorem blocks_written {κ β : Type} {declared : List String} (make : κ → List Declaration → β)
    {ts : List (κ × Mode)} {bs : List β}
    (run : (ts.filterMapM fun p => do
      let ds ← modeDeclarations o declared tokens p.2
      return if ds.isEmpty then none else some (make p.1 ds)) = .ok bs) :
    (∀ p ∈ ts,
      modeDeclarations o declared tokens p.2 = .ok (stepDeclarations o declared tokens p.2)) ∧
      ∀ write : β → List Written, (∀ k, write (make k []) = []) → bs.flatMap write =
        ts.flatMap fun p => write (make p.1 (stepDeclarations o declared tokens p.2)) := by
  induction ts generalizing bs with
  | nil =>
      cases run
      exact ⟨List.forall_mem_nil _, fun _ _ => rfl⟩
  | cons p ts ih =>
      rw [List.filterMapM_cons] at run
      obtain ⟨block, step, run⟩ := bind_eq_ok.1 run
      obtain ⟨ds, made, step⟩ := bind_eq_ok.1 step
      rw [pure_eq_ok] at step
      have here : stepDeclarations o declared tokens p.2 = ds := by
        rw [stepDeclarations, made]
        rfl
      by_cases empty : ds.isEmpty = true
      · rw [if_pos empty] at step
        subst step
        obtain ⟨steps, written⟩ := ih run
        refine ⟨List.forall_mem_cons.2 ⟨here.symm ▸ made, steps⟩, fun write nothing => ?_⟩
        rw [List.flatMap_cons, here, List.isEmpty_iff.1 empty, nothing, written write nothing]
        rfl
      · rw [if_neg empty] at step
        subst step
        obtain ⟨rest, others, done⟩ := bind_eq_ok.1 run
        obtain ⟨steps, written⟩ := ih others
        refine ⟨List.forall_mem_cons.2 ⟨here.symm ▸ made, steps⟩, fun write nothing => ?_⟩
        rw [← pure_eq_ok.1 done, List.flatMap_cons, List.flatMap_cons, here, written write nothing]

theorem mediaBlocks_written {declared : List String} {ts : List (Css.Condition × Mode)}
    {bs : List MediaBlock} (run : mediaBlocks o declared tokens ts = .ok bs) :
    (∀ p ∈ ts,
      modeDeclarations o declared tokens p.2 = .ok (stepDeclarations o declared tokens p.2)) ∧
      (bs.map Block.media).flatMap Block.written =
        ts.flatMap fun p =>
          Css.writtenFor (.media p.1) (stepDeclarations o declared tokens p.2) := by
  obtain ⟨steps, written⟩ := blocks_written Css.MediaBlock.mk run
  rw [List.flatMap_map]
  exact ⟨steps, written _ fun _ => rfl⟩

/-- The block of a mode holds the text of a token that owns its property. -/
theorem Token.WrittenIn.stepDeclarations {declared : List String} {m : Mode}
    (written : t.WrittenIn o modes)
    (made : modeDeclarations o declared tokens m = .ok (stepDeclarations o declared tokens m))
    (listed : m ∈ modes) (mem : t ∈ tokens) (known : t.id ∈ declared)
    (alone : ∀ u ∈ tokens, u.id ∈ declared → u.property = t.property → u = t) :
    (∃ d ∈ stepDeclarations o declared tokens m, d.property = t.property) ∧
      ∀ d ∈ stepDeclarations o declared tokens m, d.property = t.property →
        d.value.text = t.textIn o m := by
  constructor
  · obtain ⟨v, writes⟩ := written.declaration listed
    exact ⟨_, (mem_modeDeclarations made).2 ⟨t, mem, known, writes⟩, rfl⟩
  · intro d inside same
    obtain ⟨u, mem, id, writes⟩ := (mem_modeDeclarations made).1 inside
    obtain ⟨-, v, run, rfl⟩ := declaration?_eq_ok.1 writes
    obtain rfl := alone u mem id same
    exact Token.textIn_of_rendered run

/-- Media blocks show a token in the mode that takes over. -/
theorem shown?_mediaBlocks {declared : List String} {ts : List (Css.Condition × Mode)}
    {bs : List MediaBlock}
    (run : mediaBlocks o declared tokens ts = .ok bs) (within : ∀ p ∈ ts, p.2 ∈ modes)
    (written : t.WrittenIn o modes) (mem : t ∈ tokens) (known : t.id ∈ declared)
    (alone : ∀ u ∈ tokens, u.id ∈ declared → u.property = t.property → u = t) :
    Css.shown? w t.property ((bs.map Block.media).flatMap Block.written) =
      (Mode.takeover? w.width ts).map (t.textIn o) := by
  obtain ⟨steps, all⟩ := mediaBlocks_written run
  rw [all]
  exact Css.shown?_media fun p listed =>
    written.stepDeclarations (steps p listed) (within p listed) mem known alone

/-- Each declaration of media blocks is written for a token. -/
theorem exists_of_mem_mediaBlocks {declared : List String} {ts : List (Css.Condition × Mode)}
    {bs : List MediaBlock} (run : mediaBlocks o declared tokens ts = .ok bs) {b : MediaBlock}
    (listed : b ∈ bs) {x : Declaration} (inside : x ∈ b.declarations) :
    ∃ u ∈ tokens, u.id ∈ declared ∧ x.property = u.property := by
  obtain ⟨p, -, -, made, -⟩ := mem_mediaBlocks run listed
  obtain ⟨u, mem, id, writes⟩ := (mem_modeDeclarations made).1 inside
  obtain ⟨-, v, -, rfl⟩ := declaration?_eq_ok.1 writes
  exact ⟨u, mem, id, rfl⟩

/-- A default block that shows the default mode, and after it blocks that show the mode that takes
over, show the mode of the width. -/
theorem shown?_steps {property : String} {texts : Mode → String} {standard : Mode}
    {desktopFirst : Bool} {front media : List Written} (sorted : Mode.Descending modes)
    (default : Mode.default? desktopFirst modes = some standard)
    (first : Css.shown? w property front = some (texts standard))
    (steps : Css.shown? w property media =
      (Mode.takeover? w.width (Mode.transitions desktopFirst modes)).map texts) :
    Css.shown? w property (front ++ media) = (Mode.atWidth? modes w.width).map texts := by
  rw [Css.shown?_append, steps, first, ← Mode.takeover?_or_default? sorted desktopFirst, default]
  cases Mode.takeover? w.width (Mode.transitions desktopFirst modes) <;> rfl

/-! ## Fluid sections -/

namespace FluidSteps

variable {gate : Gate} {widest standard : Mode} {entrants : List Entrant}
  {growing : List FluidEntry} {fixed : List Entry} {media : List MediaBlock} {fallback : List Block}
  (h : FluidSteps o gate modes tokens widest standard entrants growing fixed media fallback)

include h

/-- A token that owns its property is an entrant. -/
theorem exists_entrant_of_owner
    (own : Owner tokens (growing.map (·.entry) ++ fixed) t) :
    ∃ en ∈ entrants, EntrantOf o modes t en := by
  obtain ⟨e, mem, same⟩ := own.declared
  obtain ⟨u, passed, entry⟩ := h.entries e mem
  obtain rfl := own.eq_of_entryFor (admitted_sublist.subset passed) mem entry (Prod.mk.inj same).2
  exact h.exists_entrant passed

/-- A grown entry under the property of a token is what the token, as clampable, gives. -/
theorem entrant_of_grown (own : Owner tokens (growing.map (·.entry) ++ fixed) t) {e : FluidEntry}
    (mem : e ∈ growing) (same : e.entry.property = t.property) :
    ∃ en, EntrantOf o modes t en ∧ en.stepped = false ∧
      clampableEntryIn o modes standard.id en = .ok (some e) := by
  obtain ⟨en, entrant, made⟩ := (mem_filterMapM h.grow).1 mem
  obtain ⟨entrant, clampable⟩ := mem_clampable.1 entrant
  obtain ⟨passed, known⟩ := h.entrantOf_of_mem entrant
  have listed : e.entry ∈ growing.map (·.entry) ++ fixed :=
    List.mem_append_left _ (List.mem_map_of_mem mem)
  have token := own.eq_of_entryFor (admitted_sublist.subset passed) listed
    (fluidEntryFor_of_clampableEntryIn known made).entry same
  exact ⟨en, token ▸ known, clampable, made⟩

/-- A fixed entry under the property of a token is what the token, as stepped, gives. -/
theorem entrant_of_stayed (own : Owner tokens (growing.map (·.entry) ++ fixed) t) {e : Entry}
    (mem : e ∈ fixed) (same : e.property = t.property) :
    ∃ en, EntrantOf o modes t en ∧ en.stepped = true ∧
      plainEntryIn o standard.id t = .ok (some e) := by
  obtain ⟨u, driven, made⟩ := (mem_filterMapM h.stay).1 mem
  obtain ⟨en, entrant, stepped, rfl⟩ := mem_mediaDriven.1 driven
  obtain ⟨passed, known⟩ := h.entrantOf_of_mem entrant
  have token := own.eq_of_entryFor (admitted_sublist.subset passed) (List.mem_append_right _ mem)
    (entryFor_of_plainEntryIn made) same
  exact ⟨en, token ▸ known, stepped, token ▸ made⟩

/-- Media blocks are written for tokens that are stepped. -/
theorem shown?_media_eq_none (own : Owner tokens (growing.map (·.entry) ++ fixed) t) {en : Entrant}
    (known : EntrantOf o modes t en) (clampable : en.stepped = false) :
    Css.shown? w t.property ((media.map Block.media).flatMap Block.written) = none := by
  refine shown?_blocks_eq_none (List.forall_mem_map.2 fun b listed x inside same => ?_)
  obtain ⟨u, mem, id, here⟩ := exists_of_mem_mediaBlocks h.step listed inside
  obtain ⟨en', entrant', stepped', rfl⟩ := mem_mediaDriven.1 mem
  obtain ⟨passed, known'⟩ := h.entrantOf_of_mem entrant'
  have same := own.alone en'.token (admitted_sublist.subset passed) id (here ▸ same)
  have steps := known'.stepped
  rw [same, known.stepped, clampable, stepped'] at steps
  cases steps

end FluidSteps

end TokenSheet
