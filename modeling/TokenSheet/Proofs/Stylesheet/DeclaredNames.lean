import TokenSheet.Catalog.Reading
import TokenSheet.Proofs.Section.Holders
import TokenSheet.Proofs.Stylesheet.Ownership

/-!
Which names a whole stylesheet declares, and how a name is lost.

Sections hold back names from the sections after them, but no name is lost that way, since the
section that holds a name back declares it. So a stylesheet declares exactly the names that its
sections are given, apart from those kept for the foundations (`mem_properties_iff_grants`).

A token that is written in the default mode may be left without a declaration of its name in three
ways only (`NameLoss`): it could not pass the gate, which asks another mode than the default block;
the name is held by a token before it that is not written; or the name is kept for a section of the
foundations in which only a token of another layer has it.
-/

namespace TokenSheet

variable {o : Options} {reserved taken names : List String} {cat : Catalog}
  {cs : List Collection} {ss : List Section} {c : Collection} {t : Token} {n : String}

/-! ## Names that are given -/

/-- Whether a token under the id of a collection gives its section a name. -/
def Catalog.Gives (o : Options) (cat : Catalog) (c : Collection) (t : Token) (n : String) : Prop :=
  c.Gives o (cat.tokensIn c.id) t ∧ t.property = n

/-- Whether a name is given to a section of the foundations. -/
def Catalog.IsReserved (o : Options) (cat : Catalog) (n : String) : Prop :=
  ∃ c ∈ cat.rendered, c.layer = .foundations ∧ ∃ t, cat.Gives o c t n

/-- Whether a name is given to a section that may declare it. -/
def Catalog.Grants (o : Options) (cat : Catalog) (n : String) : Prop :=
  ∃ c ∈ cat.rendered, ∃ t, cat.Gives o c t n ∧ (t.layer = .foundations ∨ ¬ cat.IsReserved o n)

/-- Sections one after the other declare the names that they are given: a name that one of them
holds back from a later one is declared already. -/
theorem Succession.mem_properties_iff (h : Succession o reserved cat taken cs ss) :
    n ∈ taken ∨ n ∈ ss.flatMap Section.properties ↔
      n ∈ taken ∨ ∃ c ∈ cs, ∃ t, cat.Gives o c t n ∧ (t.layer ≠ .foundations → n ∉ reserved) := by
  induction h with
  | nil => simp
  | @cons taken c s cs ss first others ih =>
      have here : n ∈ s.properties ↔ ∃ t, cat.Gives o c t n ∧
          (t.layer ≠ .foundations → n ∉ taken ∧ n ∉ reserved) := by
        rw [mem_properties_iff_gives first]
        refine exists_congr fun t => ?_
        constructor
        · rintro ⟨given, rfl, free⟩
          exact ⟨⟨given, rfl⟩, free⟩
        · rintro ⟨⟨given, rfl⟩, free⟩
          exact ⟨given, rfl, free⟩
      have step : n ∈ taken ∨ n ∈ s.properties ↔
          n ∈ taken ∨ ∃ t, cat.Gives o c t n ∧ (t.layer ≠ .foundations → n ∉ reserved) := by
        by_cases old : n ∈ taken
        · simp [old]
        · simp only [here, old, not_false_eq_true, true_and, false_or]
      rw [List.flatMap_cons, List.mem_append, ← or_assoc, List.exists_mem_cons_iff, ← or_assoc,
        ← step, ← List.mem_append, ih, List.mem_append]

/-- The names that are kept for the foundations are those given to their sections. -/
theorem mem_foundationProperties_iff (run : foundationProperties o cat = .ok names) :
    n ∈ names ↔ cat.IsReserved o n := by
  obtain ⟨ss, alone, rfl⟩ := foundationProperties_eq_ok.1 run
  have given := alone.mem_properties_iff (n := n)
  simp only [List.not_mem_nil, false_or, not_false_eq_true, implies_true, and_true,
    List.mem_filter, beq_iff_eq, and_assoc] at given
  exact given

/-- A stylesheet declares exactly the names that its sections are given and may declare. -/
theorem mem_properties_iff_grants {e : Emission} (run : Emission.ofCatalog o cat = .ok e) :
    n ∈ e.properties ↔ cat.Grants o n := by
  obtain ⟨names, pre, all⟩ := ofCatalog_eq_ok.1 run
  have given := all.mem_properties_iff (n := n)
  simp only [List.not_mem_nil, false_or, mem_foundationProperties_iff pre] at given
  rw [Emission.properties, given]
  simp only [Catalog.Grants, imp_iff_not_or, not_not]

/-! ## Names that are lost -/

/-- The ways to lose the name of a token that is written in the default mode of its collection. -/
inductive NameLoss (o : Options) (cat : Catalog) (c : Collection) (standard : Mode) (t : Token) :
    Prop where
  /-- Started from the narrow mode, fluid output asks the widest mode at its gate, and there the
  token has no value or one that refers to its own name. -/
  | shutOut (fluid : c.IsFluid o) (upwards : o.direction = .mobileFirst) {widest : Mode}
      (head : (Mode.widestFirst c.modes).head? = some widest) (shut : ¬ t.Opens widest.id)
  /-- A token of the same name comes before it and passes the gate, but has no entry. -/
  | heldInVain (other : t.layer ≠ .foundations) {front back : List Token}
      (split : cat.tokensIn c.id = front ++ t :: back) {u : Token} (before : u ∈ front)
      (same : u.property = t.property) {gateMode : Mode} (gate : c.gateMode? o = some gateMode)
      (opens : u.Opens gateMode.id) (silent : ¬ c.HasEntry o standard u)
  /-- The name is kept for a section of the foundations, where a token of another layer under the
  id of the collection has it. -/
  | keptInVain (other : t.layer ≠ .foundations) {f : Collection} (rendered : f ∈ cat.rendered)
      (foundations : f.layer = .foundations) {u : Token} (inside : u ∈ cat.tokensIn f.id)
      (foreign : u.layer ≠ .foundations) (same : u.property = t.property)

theorem Token.opens_of_isWritten {modeId : String} (written : t.IsWritten o modeId)
    (notOwn : t.isOwnReference (t.valueIn modeId) = false) : t.Opens modeId := by
  obtain ⟨v, run⟩ := written
  refine ⟨?_, notOwn⟩
  rw [Token.rendered] at run
  cases value : t.valueIn modeId with
  | none =>
      rw [value] at run
      cases run
  | some _ => rfl

theorem Token.mem_of_holds {modeId : String} {tokens : List Token} (h : t.Holds modeId tokens) :
    t ∈ tokens := by
  obtain ⟨-, front, back, rfl, -⟩ := h
  exact List.mem_append_right _ List.mem_cons_self

theorem Catalog.Gives.mem {o : Options} {cat : Catalog} {c : Collection} {t : Token} {n : String}
    (h : cat.Gives o c t n) : t ∈ cat.tokensIn c.id := by
  obtain ⟨⟨_, _, -, -, held, -⟩, -⟩ := h
  exact Token.mem_of_holds held

/-- The gate asks the mode of the default block, or else the widest mode on the way up. -/
theorem Collection.exists_gateMode? {standard : Mode}
    (default : c.standardMode? o = some standard) :
    ∃ gateMode, c.gateMode? o = some gateMode ∧
      (gateMode = standard ∨ c.IsFluid o ∧ o.direction = .mobileFirst ∧
        (Mode.widestFirst c.modes).head? = some gateMode) := by
  by_cases fluid : c.IsFluid o
  · rw [Collection.gateMode?_of_isFluid fluid]
    rw [Collection.standardMode?_of_breakpoint fluid.1] at default
    cases direction : o.direction with
    | desktopFirst =>
        have downwards : o.desktopFirst = true := by simp [Options.desktopFirst, direction]
        rw [downwards, Mode.default?, if_pos rfl] at default
        exact ⟨standard, default, .inl rfl⟩
    | mobileFirst =>
        have nonempty : Mode.widestFirst c.modes ≠ [] :=
          List.ne_nil_of_mem (Mode.mem_of_default? default)
        have head := List.head?_eq_some_head nonempty
        exact ⟨_, head, .inr ⟨fluid, rfl, head⟩⟩
  · exact ⟨standard, (Collection.gateMode?_of_not_isFluid fluid).trans default, .inl rfl⟩

/-- A name that is given to a section is given to one that may declare it, unless it is kept for the
foundations in vain. -/
theorem Catalog.grants_or_keptInVain {u : Token} (rendered : c ∈ cat.rendered)
    (given : cat.Gives o c u n) :
    cat.Grants o n ∨ ∃ f ∈ cat.rendered, f.layer = .foundations ∧
      ∃ w ∈ cat.tokensIn f.id, w.layer ≠ .foundations ∧ w.property = n := by
  by_cases kept : cat.IsReserved o n
  · obtain ⟨f, rendered', layer, w, given'⟩ := kept
    by_cases foundation : w.layer = .foundations
    · exact .inl ⟨f, rendered', w, given', .inl foundation⟩
    · exact .inr ⟨f, rendered', layer, w, given'.mem, foundation, given'.2⟩
  · exact .inl ⟨c, rendered, u, given, .inr kept⟩

/-- The name of a token that passes an open gate in the default mode of its collection, and has an
entry there, is given to a section that may declare it, or lost. -/
theorem Catalog.grants_or_lost {standard : Mode} (listed : c ∈ cat.collections)
    (inside : t ∈ cat.tokensIn c.id) (default : c.standardMode? o = some standard)
    (opens : t.Opens standard.id) (entry : c.HasEntry o standard t) :
    cat.Grants o t.property ∨ NameLoss o cat c standard t := by
  have rendered : c ∈ cat.rendered := by
    have modes := List.ne_nil_of_mem (Collection.mem_of_standardMode? default)
    have tokens := List.ne_nil_of_mem inside
    refine Catalog.mem_rendered.2 ⟨listed, ?_⟩
    simp [Catalog.isRendered, modes, tokens]
  have keep {u : Token} (given : cat.Gives o c u t.property) (other : t.layer ≠ .foundations) :
      cat.Grants o t.property ∨ NameLoss o cat c standard t := by
    rcases Catalog.grants_or_keptInVain rendered given with granted | ⟨f, rendered', layer, w, mem,
      foreign, same⟩
    · exact .inl granted
    · exact .inr (.keptInVain other rendered' layer mem foreign same)
  obtain ⟨gateMode, gate, asks⟩ := Collection.exists_gateMode? default
  by_cases shut : ¬ t.Opens gateMode.id
  · rcases asks with rfl | ⟨fluid, upwards, head⟩
    · exact absurd opens shut
    · exact .inr (.shutOut fluid upwards head shut)
  · rcases Token.exists_holder inside (not_not.1 shut) with held | ⟨other, front, back, split, u,
      before, held, same⟩
    · have given : cat.Gives o c t t.property :=
        ⟨⟨gateMode, standard, gate, default, held, entry⟩, rfl⟩
      by_cases layer : t.layer = .foundations
      · exact .inl ⟨c, rendered, t, given, .inl layer⟩
      · exact keep given layer
    · by_cases entry : c.HasEntry o standard u
      · exact keep ⟨⟨gateMode, standard, gate, default, held, entry⟩, same⟩ other
      · exact .inr (.heldInVain other split before same gate held.1 entry)

/-- The name of a token that is written in the default mode of its collection, and does not refer to
itself there, is declared by a stylesheet exactly if it is given to a section that may declare it.
If it is not, the name is lost in one of three ways. -/
theorem written_name_declared_unless_lost {e : Emission} {standard : Mode}
    (run : Emission.ofCatalog o cat = .ok e) (listed : c ∈ cat.collections)
    (inside : t ∈ cat.tokensIn c.id) (default : c.standardMode? o = some standard)
    (written : t.IsWritten o standard.id)
    (notOwn : t.isOwnReference (t.valueIn standard.id) = false) :
    (t.property ∈ e.properties ↔ cat.Grants o t.property) ∧
      (t.property ∈ e.properties ∨ NameLoss o cat c standard t) := by
  have declared_iff := mem_properties_iff_grants (n := t.property) run
  have opens := Token.opens_of_isWritten written notOwn
  have granted_or_lost := Catalog.grants_or_lost listed inside default opens (.inl written)
  exact ⟨declared_iff, granted_or_lost.imp_left declared_iff.2⟩

namespace SharedName

/-- The mapping that has the name of the foundation. -/
def mapping : Token :=
  token mappings "u" "space/unit" "--space-unit" "x" (.literal (.text "large"))

/-- The mapping is held back, but the foundation declares its name. -/
theorem space_unit_declared :
    Emission.ofCatalog {} catalog = .ok ⟨[mappingsSection, foundationsSection]⟩ ∧
      mappings ∈ catalog.collections ∧ mapping ∈ catalog.tokensIn mappings.id ∧
      mappings.standardMode? {} = some ⟨"x", "Value", none⟩ ∧ mapping.IsWritten {} "x" ∧
      mapping.isOwnReference (mapping.valueIn "x") = false ∧
      "--space-unit" ∈ (Emission.mk [mappingsSection, foundationsSection]).properties ∧
      ("--space-unit" ∈ (Emission.mk [mappingsSection, foundationsSection]).properties ↔
        catalog.Grants {} "--space-unit") ∧
      ("--space-unit" ∈ (Emission.mk [mappingsSection, foundationsSection]).properties ∨
        NameLoss {} catalog mappings ⟨"x", "Value", none⟩ mapping) := by
  have listed : mappings ∈ catalog.collections := List.mem_cons_self
  have inside : mapping ∈ catalog.tokensIn mappings.id := List.mem_cons_self
  have written : mapping.IsWritten {} "x" := ⟨.quoted "large", rfl⟩
  exact ⟨ofCatalog_catalog, listed, inside, rfl, written, rfl, by decide,
    written_name_declared_unless_lost ofCatalog_catalog listed inside rfl written rfl⟩

end SharedName

namespace BrokenHolder

/-- Two variables of one name, the first with a reference to nothing. -/
def design : Design.Snapshot where
  collections := [⟨"c", "Space - 2. Aliases", [⟨"m", "Value"⟩], ["v", "u"], false⟩]
  variableRecords := [⟨"v", "gap", some "", .string,
      [("m", .mapping [(.text "id", .text "x"), (.text "type", .text "VARIABLE_ALIAS")])]⟩,
    ⟨"u", "gap", some "", .string, [("m", .text "wide")]⟩]
  textStyles := []

/-- The only collection of the design. -/
def collection : Collection where
  id := "c"
  name := "Space - 2. Aliases"
  domain := "space"
  layerName := "2. Aliases"
  layer := .aliases
  modes := [⟨"m", "Value", none⟩]
  kind := .single
  tokenIds := ["v", "u"]

/-- A token of the collection. -/
def token (id : String) (value : TokenValue) : Token where
  id := id
  name := "gap"
  description := ""
  collectionId := collection.id
  collectionName := collection.name
  domain := collection.domain
  layer := collection.layer
  kind := .string
  values := [("m", value)]
  property := "--space-gap"

/-- The token that has a text. -/
def wide : Token :=
  token "u" (.literal (.text "wide"))

/-- The catalog of the design. -/
def catalog : Catalog where
  collections := [collection]
  tokens := [token "v" (.reference "x" none), wide]
  broken := ["gap"]

/-- The token with the text is written in the only mode, but its name is nowhere declared. -/
theorem written_name_may_vanish :
    Catalog.ofSource design.source .default {} = .ok catalog ∧ wide ∈ catalog.tokens ∧
      collection.standardMode? {} = some ⟨"m", "Value", none⟩ ∧
      wide.rendered {} "m" = .ok (some (.quoted "wide")) ∧
      wide.isOwnReference (wide.valueIn "m") = false ∧
      ∃ e, Emission.ofCatalog {} catalog = .ok e ∧ wide.property ∉ e.properties := by
  have listed : wide ∈ catalog.tokens := List.mem_cons_of_mem _ List.mem_cons_self
  refine ⟨rfl, listed, rfl, rfl, rfl, ⟨[⟨"SPACE - 2. ALIASES", [], [], []⟩]⟩, ?_, by decide⟩
  exact ofCatalog_of_only rfl (by decide) rfl rfl

end BrokenHolder

end TokenSheet
