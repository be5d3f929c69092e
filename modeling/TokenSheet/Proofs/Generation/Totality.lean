import TokenSheet.Generation.Basic
import TokenSheet.Proofs.Catalog.Totality
import TokenSheet.Viewport.Detection

/-!
Generation and detection return.

The only failures of a generation are numbers that cannot be computed: a double without an integer
part, or an integer too large for a double. Neither occurs for a design whose numbers are less than
`2 ^ a` in size under widths less than `2 ^ b`, for `a + b` up to 890, whatever else the design
holds. Beyond the range of a double a generation ends without a stylesheet.
-/

namespace TokenSheet

open Binary (IsBelow)
open Design (RawTextStyle RawVariable RawValue Snapshot Source)

variable {k b : Nat} {o : Options} {w : Widths} {cat : Catalog}

/-! ## Stylesheets -/

/-- Whether all widths are less than `2 ^ b`. -/
def Widths.Within (b : Nat) (w : Widths) : Prop :=
  ∀ d, (w.get d).px.toNat < 2 ^ b

theorem Mode.ofRaw_within (h : w.Within b) (m : Design.RawMode) : (Mode.ofRaw w m).Within b := by
  unfold Mode.ofRaw Widths.ofMode?
  cases device : Device.ofMode? m.name with
  | none => exact ⟨Int.le_refl 0, Nat.two_pow_pos b⟩
  | some d => exact ⟨Int.le_of_lt (w.get d).positive, h d⟩

theorem Collection.modes_within {s : Source} (h : w.Within b)
    {c : Collection} (mem : c ∈ s.localCollections.map (Collection.ofRaw w)) :
    ∀ m ∈ c.modes, m.Within b := by
  obtain ⟨raw, -, rfl⟩ := List.mem_map.1 mem
  exact List.forall_mem_map.2 fun m _ => Mode.ofRaw_within h m

theorem emitAll_returns (h : cat.Within k) (range : k + b ≤ 900) (reserved : List String)
    {cs : List Collection} (hm : ∀ c ∈ cs, ∀ m ∈ c.modes, m.Within b) :
    Returns (emitAll o reserved cat cs) := by
  apply Returns.foldlM
  intro c mem e
  refine Returns.ite (fun _ => returns_pure e) fun _ => ?_
  have tokens : ∀ t ∈ cat.tokensIn c.id, t.Within k := fun t inside => h t (List.mem_filter.1 inside).1
  exact (sectionOf_returns tokens (hm c mem) range).map _

theorem Emission.ofCatalog_returns (h : cat.Within k) (range : k + b ≤ 900)
    (hm : ∀ c ∈ cat.collections, ∀ m ∈ c.modes, m.Within b) :
    Returns (Emission.ofCatalog o cat) := by
  have inOrder : ∀ c ∈ cat.inOrder, ∀ m ∈ c.modes, m.Within b :=
    fun c mem => hm c (List.mem_mergeSort.1 mem)
  have foundations : Returns (foundationProperties o cat) :=
    (emitAll_returns h range [] fun c mem => inOrder c (List.mem_filter.1 mem).1).map _
  exact foundations.bind fun reserved _ => emitAll_returns h range reserved inOrder

/-! ## Text styles -/

/-- Whether the numbers of a text style are less than `2 ^ k` in size. -/
structure Design.RawTextStyle.Within (k : Nat) (s : RawTextStyle) : Prop where
  fontSize : IsBelow k s.fontSize
  lineHeight : IsBelow k s.lineHeight.value
  letterSpacing : IsBelow k s.letterSpacing.value

namespace Typography

theorem pixels_returns {x : Float} (h : IsBelow k x) (range : k ≤ 900) : Returns (pixels x) := by
  have rounded := h.roundTo (by omega : k + 4 * 2 ≤ 960)
  exact (rounded.map _).map _

theorem factorText_returns {x : Float} (h : IsBelow k x) (range : k ≤ 900) {places : Nat}
    (few : places ≤ 10) : Returns (factorText x places) := by
  have hundred : Binary.IsAtLeastOne 100.0 := by decide +kernel
  exact ((h.div hundred (by omega)).roundTo (by omega)).map _

theorem ownValue_returns {s : RawTextStyle} (h : s.Within k) (range : k ≤ 900)
    (p : StyleProperty) : Returns (ownValue s p) := by
  cases p with
  | size => exact pixels_returns h.fontSize range
  | lineHeight =>
      refine Returns.ite (fun _ => pixels_returns h.lineHeight range) fun _ => ?_
      refine Returns.ite (fun _ => ?_) fun _ => returns_ok _
      exact factorText_returns h.lineHeight range (by decide)
  | letterSpacing =>
      refine Returns.ite (fun _ => pixels_returns h.letterSpacing range) fun _ => ?_
      refine Returns.ite (fun _ => ?_) fun _ => returns_ok _
      exact (factorText_returns h.letterSpacing range (by decide)).map _
  | _ => exact returns_ok _

theorem boundValue_returns {s : RawTextStyle} (h : s.Within k) (range : k ≤ 900)
    (propertyOf? : String → Option String) (p : StyleProperty) :
    Returns (boundValue propertyOf? s p) := by
  unfold boundValue
  split
  · exact returns_ok _
  · exact ownValue_returns h range p

theorem compose_returns {styles : List RawTextStyle} (h : ∀ s ∈ styles, s.Within k)
    (range : k ≤ 900) (form : TextStyleForm) (propertyOf? : String → Option String) :
    Returns (compose form propertyOf? styles) := by
  unfold compose
  have bodies : Returns (styles.mapM (composedStyle form propertyOf?)) :=
    Returns.mapM fun s mem => (Returns.mapM fun p _ =>
      (boundValue_returns (h s mem) range propertyOf? p).map _).map _
  refine bodies.bind fun lines _ => ?_
  refine Returns.ite (fun _ => returns_pure _) fun _ => ?_
  exact Returns.ite (fun _ => returns_pure _) fun _ => returns_pure _

end Typography

/-! ## Designs -/

/-- Whether the values of all variables and the metrics of all text styles hold numbers less than
`2 ^ k` in size only. -/
structure Design.Snapshot.Within (k : Nat) (p : Snapshot) : Prop where
  values : ∀ v ∈ p.variableRecords, v.Within k
  textStyles : ∀ s ∈ p.textStyles, s.Within k

section
variable {p : Snapshot} {v : RawVariable} {id : String}

theorem Design.Snapshot.Within.lookup (h : p.Within k) (found : p.source.lookup id = .ok (some v)) :
    v.Within k := by
  have found : p.lookup? id = some v := Except.ok.inj found
  exact h.values v (List.mem_reverse.1 (List.mem_of_find?_eq_some found))

theorem generate_returns (h : p.Within k) (hw : w.Within b) (hc : o.colors.Within (k + 1))
    (range : k + 1 + b ≤ 900) (date : Option String) : Returns (generate p.source o w date) := by
  obtain ⟨cat, read, within⟩ := Catalog.ofSource_eq_ok (w := w) hc (fun _ _ => h.lookup) (by omega)
  have modes : ∀ c ∈ cat.collections, ∀ m ∈ c.modes, m.Within b := by
    intro c mem
    rw [(Catalog.ofSource_listed read).1] at mem
    exact Collection.modes_within hw mem
  have styles : Returns (textStyleLines o p.source cat) := by
    unfold textStyleLines
    refine Returns.ite (fun _ => ?_) fun _ => returns_ok []
    exact Typography.compose_returns h.textStyles (by omega) _ _
  unfold generate
  rw [read, ok_bind]
  exact (Emission.ofCatalog_returns within range modes).bind fun emission _ => styles.map _

/-! ## Detection -/

theorem lookupOrStop_snapshot (p : Snapshot) (id : String) :
    lookupOrStop p.source id = .ok (p.lookup? id) := rfl

theorem viewportVariable?_finds (p : Snapshot) (fallback : Option RawVariable) (ids : List String)
    (known : ∀ v, fallback = some v → v ∈ p.variableRecords) :
    Finds (· ∈ p.variableRecords) (viewportVariable? p.source fallback ids) := by
  induction ids generalizing fallback with
  | nil => exact ⟨fallback, rfl, known⟩
  | cons id rest ih =>
      unfold viewportVariable?
      rw [lookupOrStop_snapshot, ok_bind]
      cases found : p.lookup? id with
      | none => exact ih fallback known
      | some u =>
          have listed : u ∈ p.variableRecords :=
            List.mem_reverse.1 (List.mem_of_find?_eq_some found)
          have next : ∀ v, fallback.or (some u) = some v → v ∈ p.variableRecords := by
            intro v first
            cases fallback with
            | none => exact Option.some.inj first ▸ listed
            | some f => exact known v first
          dsimp only
          split
          · split
            · exact finds_some listed
            · exact ih _ next
          · exact ih fallback known

theorem rawValueIn_finds (h : v.Within k) (range : k ≤ 900) (modeId : String) :
    Finds (RawValue.Within (k + 1)) (rawValueIn v modeId) :=
  (h.valueIn range modeId).mapError _

theorem targetValue?_finds (h : p.Within k) (range : k ≤ 900) (target : String) :
    Finds (RawValue.Within (k + 1)) (targetValue? p.source target) := by
  unfold targetValue?
  rw [lookupOrStop_snapshot, ok_bind]
  split
  · rename_i v m found _
    have listed : v ∈ p.variableRecords := List.mem_reverse.1 (List.mem_of_find?_eq_some found)
    exact rawValueIn_finds (h.values v listed) range m.id
  · exact finds_none

theorem widthIn?_finds (h : p.Within k) (hv : v.Within k) (range : k ≤ 900) (modeId : String) :
    Finds (IsBelow (k + 1)) (widthIn? p.source v modeId) := by
  unfold widthIn?
  refine (rawValueIn_finds hv range modeId).bind finds_none fun value within => ?_
  cases value with
  | number x => exact finds_some within
  | reference target =>
      refine (targetValue?_finds h range target).bind finds_none fun value within => ?_
      cases value with
      | number x => exact finds_some within
      | _ => exact finds_none
  | _ => exact finds_none

theorem widthsOfMode_returns (h : p.Within k) (hv : v.Within k) (range : k ≤ 900)
    (m : Design.RawMode) : Returns (widthsOfMode p.source v m) := by
  unfold widthsOfMode
  refine (widthIn?_finds h hv range m.id).returns_bind (returns_pure []) fun x small => ?_
  refine Returns.ite (fun _ => returns_pure []) fun _ => Returns.mapM fun d _ => ?_
  have whole : Returns (doubleRound x) := small.round
  exact (whole.mapError DetectionError.number).map _

theorem detectIn_returns (h : p.Within k) (range : k ≤ 900) (c : Design.RawCollection) :
    Returns (detectIn p.source c) := by
  unfold detectIn
  have found := viewportVariable?_finds p none c.variableIds (by rintro _ ⟨⟩)
  refine found.returns_bind (returns_pure none) fun v listed => ?_
  exact (Returns.mapM fun m _ => widthsOfMode_returns h (h.values v listed) range m).map _

theorem detect_returns (h : p.Within k) (range : k ≤ 900) : Returns (detect p.source) := by
  unfold detect
  generalize (Source.localCollections _).filter mayHoldWidths = cs
  induction cs with
  | nil => exact returns_ok none
  | cons c rest ih =>
      unfold detectFirst
      refine (detectIn_returns h range c).bind fun detected _ => ?_
      cases detected with
      | none => exact ih
      | some d => exact returns_pure _

end

/-- Generation and detection return for every design whose numbers are less than `2 ^ a` in size and
all widths less than `2 ^ b`, as long as `a + b` is at most 890, whatever the options. Where colors
are written in polar notation, `a` is at most 140, and the machine's library keeps its bounds. -/
theorem generation_returns_within_range {a b : Nat} (p : Snapshot) (o : Options) (w : Widths)
    (date : Option String) (numbers : p.Within a) (widths : w.Within b) (range : a + b ≤ 890)
    (polar : o.colors = .oklch → a ≤ 140 ∧ Css.PolarLibrary) :
    (∃ g, generate p.source o w date = .ok g) ∧ ∃ d, detect p.source = .ok d := by
  have colors : o.colors.Within (a + 1) := by
    intro asked
    obtain ⟨narrow, library⟩ := polar asked
    exact ⟨by omega, library⟩
  exact ⟨generate_returns numbers widths colors (by omega) date, detect_returns numbers (by omega)⟩

namespace ViewportWidths

/-- A design that carries the widths of its two modes. -/
def design (desktop : Number) : Snapshot where
  collections := [⟨"c", "Dimension - 1. Foundations", [⟨"d", "Desktop"⟩, ⟨"m", "Mobile"⟩], ["v"],
    false⟩]
  variableRecords := [⟨"v", "viewport", some "", .float,
    [("d", .number desktop), ("m", .number (.int 480))]⟩]
  textStyles := []

theorem design_within {k : Nat} {desktop : Number} (h : desktop.Within k) (nine : 9 ≤ k) :
    (design desktop).Within k where
  values := by
    have mobile : (Number.int 480).Within k :=
      Number.Within.mono (by decide : (480 : Int).natAbs < 2 ^ 9) nine
    refine List.forall_mem_singleton.2 (List.forall_mem_cons.2 ⟨h, ?_⟩)
    exact List.forall_mem_singleton.2 mobile
  textStyles := by
    intro s mem
    cases mem

/-- A design with widths of the usual size. -/
theorem usual_widths_return :
    (∃ g, generate (design (.int 1680)).source {} .default none = .ok g) ∧
      ∃ d, detect (design (.int 1680)).source = .ok d := by
  have numbers : (design (.int 1680)).Within 11 :=
    design_within (by decide : (1680 : Int).natAbs < 2 ^ 11) (by decide)
  have widths : Widths.default.Within 11 := by
    intro d
    cases d <;> decide
  exact generation_returns_within_range _ {} .default none numbers widths (by decide)
    fun polar => by cases polar

end ViewportWidths

namespace HugeNumber

/-- A design with one number. -/
def design (gap : Number) : Snapshot where
  collections := [⟨"c", "Space - 2. Aliases", [⟨"m", "Value"⟩], ["v"], false⟩]
  variableRecords := [⟨"v", "gap", some "", .float, [("m", .number gap)]⟩]
  textStyles := []

/-- The double nearest to ten to the power 308. A hundred times as much is out of range. -/
def huge : Float :=
  .ofBits 0x7FE1CCF385EBC8A0

/-- The double that is read for any decimal beyond the range. -/
def infinity : Float :=
  .ofBits 0x7FF0000000000000

/-- The only collection of the design. -/
def collection : Collection where
  id := "c"
  name := "Space - 2. Aliases"
  domain := "space"
  layerName := "2. Aliases"
  layer := .aliases
  modes := [⟨"m", "Value", none⟩]
  kind := .single
  tokenIds := ["v"]

/-- The token of the number. -/
def gap : Token where
  id := "v"
  name := "gap"
  description := ""
  collectionId := collection.id
  collectionName := collection.name
  domain := collection.domain
  layer := collection.layer
  kind := .float
  values := [("m", .literal (.number huge))]
  property := "--space-gap"

/-- The catalog of the design with a huge number. -/
def catalog : Catalog where
  collections := [collection]
  tokens := [gap]

theorem ofCatalog_catalog : Emission.ofCatalog {} catalog = .error .infinite := by
  have inOrder : catalog.inOrder = [collection] := List.mergeSort_singleton _
  have foundations : foundationProperties {} catalog = .ok [] := by
    unfold foundationProperties
    rw [inOrder]
    rfl
  have rounding : emitAll {} [] catalog [collection] = .error .infinite :=
    eq_error_of_error? (by decide +kernel)
  unfold Emission.ofCatalog
  rw [foundations, ok_bind, inOrder]
  exact rounding

/-- A number that cannot be rounded and an integer that no double is near to end the generation, and
an infinite width ends the detection. -/
theorem generation_may_fail :
    generate (design (.real huge)).source {} .default none = .error .infinite ∧
      generate (design (.int (10 ^ 400))).source {} .default none = .error .tooLarge ∧
      detect (ViewportWidths.design (.real infinity)).source = .error (.number .infinite) := by
  have read : Catalog.ofSource (design (.real huge)).source .default {} = .ok catalog := rfl
  refine ⟨?_, eq_error_of_error? (by decide +kernel), rfl⟩
  unfold generate
  rw [read, ok_bind, ofCatalog_catalog]
  rfl

end HugeNumber

end TokenSheet
