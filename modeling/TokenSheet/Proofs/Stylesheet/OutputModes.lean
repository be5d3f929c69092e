import TokenSheet.Catalog.Reading
import TokenSheet.Proofs.Section.Declared
import TokenSheet.Proofs.Section.Shown
import TokenSheet.Proofs.Stylesheet.Run

/-!
Fluid and fixed output declare the same names.

The two outputs ask tokens at the gate by different modes: fluid output by the widest mode, fixed
output by the mode of the default block, which is the narrowest one when a stylesheet starts there.
Fixed output also declares a proportion that is not written in the default mode. Where neither makes
a difference to any token (`OutputsAgree`), each section declares the same names in both outputs,
and so holds back the same names from the sections after it.
-/

namespace TokenSheet

variable {o : Options} {gate gate' : Gate} {cat : Catalog} {c : Collection} {s s' : Section}

/-! ## Single sections -/

/-- Every token of a collection passes the gate of both outputs or of neither, and one that passes
is written in the default mode if it is a proportion. -/
def Collection.OutputsAgree (o : Options) (c : Collection) (tokens : List Token) : Prop :=
  c.kind = .breakpoint → 2 ≤ c.modes.length → ∀ widest standard,
    (Mode.widestFirst c.modes).head? = some widest →
    Mode.default? o.desktopFirst (Mode.widestFirst c.modes) = some standard →
    ∀ t ∈ tokens, (t.Opens widest.id ↔ t.Opens standard.id) ∧
      (t.Opens standard.id → t.columns?.isSome → t.IsWritten o standard.id)

/-- Tokens that are written in every mode make no difference. -/
theorem Collection.outputsAgree_of_writtenIn {tokens : List Token}
    (written : ∀ t ∈ tokens, t.WrittenIn o c.modes) : c.OutputsAgree o tokens := by
  intro _ _ widest standard head default t mem
  have opens {m : Mode} (listed : m ∈ Mode.widestFirst c.modes) : t.Opens m.id :=
    have listed := Mode.mem_widestFirst.1 listed
    ⟨(written t mem).value listed, (written t mem m listed).1⟩
  have atDefault := Mode.mem_of_default? default
  refine ⟨iff_of_true (opens (List.mem_of_head? head)) (opens atDefault), fun _ _ => ?_⟩
  obtain ⟨-, text, run⟩ := written t mem standard (Mode.mem_widestFirst.1 atDefault)
  obtain ⟨v, run, -⟩ := Token.renderedText_eq_ok.1 run
  exact ⟨v, run⟩

/-- Rendering does not depend on the output. -/
theorem Token.isWritten_outputMode {t : Token} {modeId : String} (mode : OutputMode) :
    t.IsWritten { o with outputMode := mode } modeId ↔ t.IsWritten o modeId := Iff.rfl

theorem Collection.standardMode?_outputMode (mode : OutputMode) :
    c.standardMode? { o with outputMode := mode } = c.standardMode? o := rfl

/-- Outside fluid sections what has an entry does not depend on the output. -/
theorem Collection.hasEntry_outputMode {mode : OutputMode} {standard : Mode} {t : Token}
    (notFluid : ¬ c.IsFluid { o with outputMode := mode }) :
    c.HasEntry { o with outputMode := mode } standard t ↔
      t.IsWritten o standard.id ∨ c.kind = .breakpoint ∧ t.columns?.isSome := by
  rw [HasEntry, Token.isWritten_outputMode]
  exact or_congr_right (and_congr_right fun _ => and_iff_right notFluid)

theorem Collection.not_isFluid_fixed : ¬ c.IsFluid { o with outputMode := .fixed } := by
  intro fluid
  cases fluid.2.1

/-- In a collection that fluid output interpolates, a token that is written if it is a proportion has
an entry in both outputs or in neither. -/
theorem Collection.hasEntry_alike {standard : Mode} {t : Token}
    (fluid : c.IsFluid { o with outputMode := .fluid })
    (written : t.columns?.isSome → t.IsWritten o standard.id) :
    c.HasEntry { o with outputMode := .fluid } standard t ↔
      c.HasEntry { o with outputMode := .fixed } standard t := by
  rw [hasEntry_outputMode not_isFluid_fixed, HasEntry, Token.isWritten_outputMode]
  constructor
  · rintro (here | ⟨-, notFluid, -⟩)
    · exact .inl here
    · exact absurd fluid notFluid
  · rintro (here | ⟨-, columns⟩)
    · exact .inl here
    · exact .inl (written columns)

/-- Behind gates that hold back the same names, the sections of a collection in outputs that agree
declare the same names. -/
theorem sectionOf_properties_alike {tokens : List Token} (alike : gate.Alike gate')
    (agree : c.OutputsAgree o tokens)
    (run : sectionOf { o with outputMode := .fluid } gate c tokens = .ok s)
    (run' : sectionOf { o with outputMode := .fixed } gate' c tokens = .ok s') (n : String) :
    n ∈ s.properties ↔ n ∈ s'.properties := by
  rw [mem_properties_iff run, mem_properties_iff run',
    Collection.gateMode?_of_not_isFluid Collection.not_isFluid_fixed,
    Collection.standardMode?_outputMode .fluid, Collection.standardMode?_outputMode .fixed]
  by_cases fluid : c.IsFluid { o with outputMode := .fluid }
  · -- The gates look at the widest mode here and at the default mode there.
    have kind := fluid.1
    have two := fluid.2.2
    have nonempty : Mode.widestFirst c.modes ≠ [] := by
      rw [← List.length_pos_iff, (Mode.widestFirst_perm c.modes).length_eq]
      omega
    have head := List.head?_eq_some_head nonempty
    obtain ⟨standard, default⟩ := Mode.default?_isSome o.desktopFirst nonempty
    rw [Collection.gateMode?_of_isFluid fluid, Collection.standardMode?_of_breakpoint kind, head,
      default]
    simp only [Option.some.injEq, exists_and_left, exists_eq_left']
    have agree := agree kind two _ standard head default
    rw [admitted_congr (alike.on tokens) fun t mem => (agree t mem).1]
    refine exists_congr fun t => and_congr_right fun passed => and_congr_left fun _ => ?_
    have opens := passed_of_mem_admitted passed
    exact Collection.hasEntry_alike fluid
      ((agree t (admitted_sublist.subset passed)).2 ⟨opens.value, opens.notOwn⟩)
  · rw [Collection.gateMode?_of_not_isFluid fluid, Collection.standardMode?_outputMode .fluid]
    simp only [Collection.hasEntry_outputMode fluid,
      Collection.hasEntry_outputMode Collection.not_isFluid_fixed]
    have same (m : Mode) : admitted m.id gate tokens = admitted m.id gate' tokens :=
      admitted_congr (alike.on tokens) fun _ _ => Iff.rfl
    simp only [same]

/-! ## Whole stylesheets -/

/-- In two outputs that agree, sections one after the other declare the same names. -/
theorem Succession.properties_alike {reserved reserved' taken taken' : List String}
    {cs : List Collection} {ss ss' : List Section}
    (h : Succession { o with outputMode := .fluid } reserved cat taken cs ss)
    (h' : Succession { o with outputMode := .fixed } reserved' cat taken' cs ss')
    (alike : Gate.Alike ⟨taken, reserved⟩ ⟨taken', reserved'⟩)
    (agree : ∀ c ∈ cs, c.OutputsAgree o (cat.tokensIn c.id)) (n : String) :
    n ∈ ss.flatMap Section.properties ↔ n ∈ ss'.flatMap Section.properties := by
  induction h generalizing taken' ss' with
  | nil =>
      cases h'
      rfl
  | @cons taken c s cs ss first others ih =>
      cases h' with
      | @cons _ _ s' _ ss' first' others' =>
          obtain ⟨here, there⟩ := List.forall_mem_cons.1 agree
          have same := sectionOf_properties_alike alike here first first'
          have grown : Gate.Alike ⟨taken ++ s.properties, reserved⟩
              ⟨taken' ++ s'.properties, reserved'⟩ := by
            refine ⟨fun n => ?_, alike.reserved⟩
            rw [List.mem_append, List.mem_append]
            exact or_congr (alike.taken n) (same n)
          rw [List.flatMap_cons, List.flatMap_cons, List.mem_append, List.mem_append, same n,
            ih others' grown there]

/-- Fluid and fixed output declare the same names, if every token of a collection of widths passes
the gate of both or of neither, and every proportion that passes is written in the default mode. -/
theorem outputs_declare_same_names {e e' : Emission}
    (run : Emission.ofCatalog { o with outputMode := .fluid } cat = .ok e)
    (run' : Emission.ofCatalog { o with outputMode := .fixed } cat = .ok e')
    (agree : ∀ c ∈ cat.rendered, c.OutputsAgree o (cat.tokensIn c.id)) (n : String) :
    n ∈ e.properties ↔ n ∈ e'.properties := by
  obtain ⟨names, pre, all⟩ := ofCatalog_eq_ok.1 run
  obtain ⟨names', pre', all'⟩ := ofCatalog_eq_ok.1 run'
  obtain ⟨ss, alone, rfl⟩ := foundationProperties_eq_ok.1 pre
  obtain ⟨ss', alone', rfl⟩ := foundationProperties_eq_ok.1 pre'
  have kept := alone.properties_alike alone' ⟨fun _ => Iff.rfl, fun _ => Iff.rfl⟩
    fun c mem => agree c (List.mem_of_mem_filter mem)
  exact all.properties_alike all' ⟨fun _ => Iff.rfl, kept⟩ agree n

namespace NarrowValue

/-- A text that has a value in the narrow mode only, and a proportion whose reference is broken. -/
def design : Design.Snapshot where
  collections :=
    [⟨"c", "Space - 2. Aliases", [⟨"d", "Desktop"⟩, ⟨"m", "Mobile"⟩], ["v", "u"], false⟩]
  variableRecords := [⟨"v", "gap", some "", .string, [("m", .text "narrow")]⟩,
    ⟨"u", "proportion-half", some "", .float,
      [("d", .mapping [(.text "id", .text "x"), (.text "type", .text "VARIABLE_ALIAS")])]⟩]
  textStyles := []

/-- The only collection of the design. -/
def collection : Collection where
  id := "c"
  name := "Space - 2. Aliases"
  domain := "space"
  layerName := "2. Aliases"
  layer := .aliases
  modes := [⟨"d", "Desktop", some 1680⟩, ⟨"m", "Mobile", some 480⟩]
  kind := .breakpoint
  tokenIds := ["v", "u"]

/-- A token of the collection. -/
def token (id name : String) (kind : TokenKind) (property : String)
    (values : List (String × TokenValue)) : Token where
  id := id
  name := name
  description := ""
  collectionId := collection.id
  collectionName := collection.name
  domain := collection.domain
  layer := collection.layer
  kind := kind
  values := values
  property := property

/-- The catalog of the design. -/
def catalog : Catalog where
  collections := [collection]
  tokens := [token "v" "gap" .string "--space-gap" [("m", .literal (.text "narrow"))],
    token "u" "proportion-half" .float "--space-proportion-half" [("d", .reference "x" none)]]
  broken := ["proportion-half"]

/-- Started from the narrow mode. -/
def upwards : Options := { direction := .mobileFirst }

/-- Started from the wide mode. -/
def downwards : Options := { direction := .desktopFirst }

/-- A section of the collection without further blocks. -/
def sectionWith (entries : List Css.Entry) : Section where
  title := "SPACE - 2. ALIASES"
  entries := entries
  blocks := []
  advice := []

theorem widestFirst_modes : Mode.widestFirst collection.modes = collection.modes :=
  Mode.widestFirst_of_descending (by simp [Mode.Descending, collection, Mode.px])

/-- Started from the narrow mode only fixed output declares the text, and started from the wide mode
only fixed output declares the proportion. -/
theorem outputs_may_declare_different_names :
    Catalog.ofSource design.source .default {} = .ok catalog ∧
    (∃ e e', Emission.ofCatalog { upwards with outputMode := .fluid } catalog = .ok e ∧
      Emission.ofCatalog { upwards with outputMode := .fixed } catalog = .ok e' ∧
      "--space-gap" ∉ e.properties ∧ "--space-gap" ∈ e'.properties) ∧
    ∃ e e', Emission.ofCatalog { downwards with outputMode := .fluid } catalog = .ok e ∧
      Emission.ofCatalog { downwards with outputMode := .fixed } catalog = .ok e' ∧
      "--space-proportion-half" ∉ e.properties ∧ "--space-proportion-half" ∈ e'.properties := by
  refine ⟨rfl, ⟨⟨[sectionWith []]⟩,
    ⟨[sectionWith [⟨"v", "--space-gap", .plain (.quoted "narrow")⟩]]⟩, ?_, ?_, ?_, ?_⟩,
    ⟨[sectionWith []]⟩, ⟨[sectionWith [⟨"u", "--space-proportion-half", .proportion 6⟩]]⟩,
    ?_, ?_, ?_, ?_⟩
  · refine ofCatalog_of_only rfl (by decide) rfl ?_
    rw [sectionOf, draftOf_of_isFluid (by decide), widestFirst_modes]
    rfl
  · refine ofCatalog_of_only rfl (by decide) rfl ?_
    rw [sectionOf, draftOf_of_stepped rfl (by decide), widestFirst_modes]
    rfl
  · decide
  · decide
  · refine ofCatalog_of_only rfl (by decide) rfl ?_
    rw [sectionOf, draftOf_of_isFluid (by decide), widestFirst_modes]
    rfl
  · refine ofCatalog_of_only rfl (by decide) rfl ?_
    rw [sectionOf, draftOf_of_stepped rfl (by decide), widestFirst_modes]
    rfl
  · decide
  · decide

/-- A number with a value in both modes. -/
def gap : Token :=
  token "v" "gap" .float "--space-gap"
    [("d", .literal (.number 32)), ("m", .literal (.number 16))]

/-- The catalog with that number in place of the two tokens. -/
def agreeing : Catalog where
  collections := [collection]
  tokens := [gap]

/-- Its section in fluid output, an interpolation. -/
def interpolated : Section where
  title := "SPACE - 2. ALIASES"
  entries := [⟨"v", "--space-gap", .plain (.clamp 16 (.interceptFirst 9.6 1.3333) 32 "px")⟩]
  blocks := []
  advice := ((gap.advice collection.modes).toOption).getD []

/-- Its section in fixed output, a step. -/
def stepped : Section where
  title := "SPACE - 2. ALIASES"
  entries := [⟨"v", "--space-gap", .plain (.quantity 16 "px")⟩]
  blocks := [.media ⟨.minWidth 1680, [⟨"--space-gap", .quantity 32 "px"⟩]⟩]
  advice := []

theorem agreeing_outputsAgree :
    ∀ c ∈ agreeing.rendered, c.OutputsAgree upwards (agreeing.tokensIn c.id) := by
  intro c rendered
  obtain rfl := List.mem_singleton.1 (Catalog.mem_rendered.1 rendered).1
  refine Collection.outputsAgree_of_writtenIn (List.forall_mem_singleton.2 ?_)
  exact List.forall_mem_cons.2 ⟨⟨rfl, _, rfl⟩, List.forall_mem_singleton.2 ⟨rfl, _, rfl⟩⟩

set_option maxRecDepth 2000 in
theorem fluid_run :
    Emission.ofCatalog { upwards with outputMode := .fluid } agreeing = .ok ⟨[interpolated]⟩ := by
  refine ofCatalog_of_only rfl (by decide) rfl ?_
  rw [sectionOf, draftOf_of_isFluid (by decide), widestFirst_modes]
  rfl

theorem fixed_run :
    Emission.ofCatalog { upwards with outputMode := .fixed } agreeing = .ok ⟨[stepped]⟩ := by
  refine ofCatalog_of_only rfl (by decide) rfl ?_
  rw [sectionOf, draftOf_of_stepped rfl (by decide), widestFirst_modes]
  rfl

/-- A number with a value in both modes is declared in both outputs, once as an interpolation and
once as a step. -/
theorem gap_declared_in_both :
    Emission.ofCatalog { upwards with outputMode := .fluid } agreeing = .ok ⟨[interpolated]⟩ ∧
      Emission.ofCatalog { upwards with outputMode := .fixed } agreeing = .ok ⟨[stepped]⟩ ∧
      (∀ c ∈ agreeing.rendered, c.OutputsAgree upwards (agreeing.tokensIn c.id)) ∧
      ∀ n, n ∈ (Emission.mk [interpolated]).properties ↔ n ∈ (Emission.mk [stepped]).properties :=
  ⟨fluid_run, fixed_run, agreeing_outputsAgree,
    outputs_declare_same_names fluid_run fixed_run agreeing_outputsAgree⟩

end NarrowValue

end TokenSheet
