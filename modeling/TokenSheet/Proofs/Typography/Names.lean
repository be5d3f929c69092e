import TokenSheet.Proofs.Stylesheet.References
import TokenSheet.Proofs.Text.Alphabets

/-!
The names that text styles declare.

As custom properties a text style declares six names, its slug with six endings. The endings tell the
properties of one style apart, and the styles of different slugs. Nothing else does: styles have no
gate as tokens have, so two styles of one slug declare the same names, a style may declare the name of
a token once more, and a property bound to a token of its own name is written as `--x: var(--x)`
(`text_styles_overwrite_nothing_iff`).
-/

namespace TokenSheet

open Css (inner declared)
open Design (Source RawTextStyle)
open Text (Over isWordChar)
open Typography (StyleProperty styleSlug)

variable {s : Source} {w : Widths} {o : Options} {cat : Catalog} {e : Emission}
  {styles : List RawTextStyle} {style other : RawTextStyle} {p q : StyleProperty}
  {propertyOf? : String → Option String} {lines : List String} {n : String}

/-! ## Names read off lines -/

namespace Css

/-- The custom property that a line inside a block declares, if it declares one. -/
def declaredName? (line : String) : Option String :=
  match line.toList with
  | ' ' :: ' ' :: '-' :: '-' :: rest =>
    if rest.contains ':' then some ("--" ++ String.ofList (rest.takeWhile (· != ':'))) else none
  | _ => none

/-- The custom properties that lines declare, in order. -/
def declaredNames (lines : List String) : List String :=
  lines.filterMap declaredName?

/-- The name of a declaration can be read off its line if it holds no colon. -/
theorem declaredName?_inner {name : String} (plain : Over (· != ':') name) (text : String) :
    declaredName? (inner (declared ("--" ++ name) text)) = some ("--" ++ name) := by
  have chars : (inner (declared ("--" ++ name) text)).toList =
      ' ' :: ' ' :: '-' :: '-' :: (name.toList ++ ':' :: ' ' :: (text.toList ++ [';'])) := by
    simp [inner, declared]
  have front : (name.toList ++ ':' :: ' ' :: (text.toList ++ [';'])).takeWhile (· != ':') =
      name.toList := by
    rw [List.takeWhile_append_of_pos plain]
    simp
  unfold declaredName?
  rw [chars]
  simp [front]

theorem inner_declared_inj {name a b : String}
    (same : inner (declared name a) = inner (declared name b)) : a = b := by
  have chars := congrArg String.toList same
  simpa [inner, declared, String.toList_inj] using chars

end Css

/-! ## Names of styles -/

namespace Typography

/-- The custom property of a property of a style. -/
def styleProperty (style : RawTextStyle) (p : StyleProperty) : String :=
  "--" ++ (styleSlug style.name ++ "-" ++ p.suffix)

/-- The custom properties of styles, in the order in which they are written. -/
def styleProperties (styles : List RawTextStyle) : List String :=
  styles.flatMap fun style => StyleProperty.all.map (styleProperty style)

theorem StyleProperty.mem_all (p : StyleProperty) : p ∈ StyleProperty.all := by
  cases p <;> decide

/-- The end of a name, with the hyphen in front. -/
def StyleProperty.ending (p : StyleProperty) : List Char :=
  '-' :: p.suffix.toList

/-- No ending of a name ends in another one. -/
theorem StyleProperty.eq_of_ending_suffix (h : p.ending <:+ q.ending) : p = q := by
  revert h
  cases p <;> cases q <;> decide

theorem toList_styleProperty :
    (styleProperty style p).toList =
      '-' :: '-' :: ((styleSlug style.name).toList ++ p.ending) := by
  simp [styleProperty, StyleProperty.ending]

/-- The name of a property tells the slug of its style and the property. -/
theorem styleProperty_inj :
    styleProperty style p = styleProperty other q ↔
      styleSlug style.name = styleSlug other.name ∧ p = q := by
  constructor
  · intro same
    have chars : (styleSlug style.name).toList ++ p.ending =
        (styleSlug other.name).toList ++ q.ending := by
      have lists := congrArg String.toList same
      rw [toList_styleProperty, toList_styleProperty] at lists
      exact List.cons.inj (List.cons.inj lists).2 |>.2
    have ends : p.ending <:+ (styleSlug other.name).toList ++ q.ending :=
      chars ▸ List.suffix_append _ _
    have ends' := List.suffix_append (styleSlug other.name).toList q.ending
    have one : p = q := by
      rcases Nat.le_total p.ending.length q.ending.length with shorter | longer
      · exact StyleProperty.eq_of_ending_suffix
          (List.suffix_of_suffix_length_le ends ends' shorter)
      · exact (StyleProperty.eq_of_ending_suffix
          (List.suffix_of_suffix_length_le ends' ends longer)).symm
    subst one
    exact ⟨String.toList_inj.1 (List.append_cancel_right chars), rfl⟩
  · rintro ⟨slugs, rfl⟩
    rw [styleProperty, styleProperty, slugs]

theorem mem_styleProperties :
    n ∈ styleProperties styles ↔ ∃ style ∈ styles, ∃ p, n = styleProperty style p := by
  simp only [styleProperties, List.mem_flatMap, List.mem_map, StyleProperty.mem_all, true_and,
    eq_comm]

/-- The names of styles are distinct exactly if their slugs are. -/
theorem styleProperties_nodup_iff :
    (styleProperties styles).Nodup ↔ (styles.map fun style => styleSlug style.name).Nodup := by
  have each : ∀ style ∈ styles, (StyleProperty.all.map (styleProperty style)).Nodup := by
    intro style _
    refine (List.nodup_map_iff_inj_on (by decide)).2 fun p _ q _ same => ?_
    exact (styleProperty_inj.1 same).2
  have apart (a b : RawTextStyle) : Function.onFun List.Disjoint
      (fun style => StyleProperty.all.map (styleProperty style)) a b ↔
        styleSlug a.name ≠ styleSlug b.name := by
    constructor
    · intro disjoint same
      refine disjoint (a := styleProperty a .size) (List.mem_map_of_mem (by decide)) ?_
      rw [styleProperty_inj.2 ⟨same, rfl⟩]
      exact List.mem_map_of_mem (by decide)
    · intro different n mem mem'
      obtain ⟨p, -, rfl⟩ := List.mem_map.1 mem
      obtain ⟨q, -, same⟩ := List.mem_map.1 mem'
      exact different (styleProperty_inj.1 same).1.symm
  rw [styleProperties, List.nodup_flatMap, List.Nodup, List.pairwise_map, ← List.Pairwise.iff apart]
  exact and_iff_right each

/-- No name of a style is the companion of a proportion: companions have an ending of their own. -/
theorem styleProperty_ne_companion : styleProperty style p ≠ Css.companion n := by
  intro same
  have lists := congrArg (fun x => x.toList.getLast?) same
  simp only [toList_styleProperty, Css.companion, String.toList_append, ← List.cons_append] at lists
  rw [List.getLast?_append_of_ne_nil _ (by simp [StyleProperty.ending]),
    List.getLast?_append_of_ne_nil _ (by decide)] at lists
  revert lists
  cases p <;> decide

/-! ## Values -/

theorem over_pixels {x : Float} {v : String} (run : pixels x = .ok v) : Over isWordChar v := by
  obtain ⟨short, run, done⟩ := bind_eq_ok.1 run
  obtain ⟨rounded, -, text⟩ := bind_eq_ok.1 run
  rw [← pure_eq_ok.1 done, ← pure_eq_ok.1 text]
  exact (Number.over_plainText rounded).word.append (by decide)

theorem over_factorText {x : Float} {places : Nat} {v : String}
    (run : factorText x places = .ok v) : Over isWordChar v := by
  obtain ⟨rounded, -, done⟩ := bind_eq_ok.1 run
  rw [← pure_eq_ok.1 done]
  exact (Number.over_fixedText rounded places).word

theorem over_lineHeightText {m : Design.Metric} {v : String} (run : lineHeightText m = .ok v) :
    Over isWordChar v := by
  unfold lineHeightText at run
  split at run
  · exact over_pixels run
  · split at run
    · exact over_factorText run
    · rw [← Except.ok.inj run]
      decide

theorem over_letterSpacingText {m : Design.Metric} {v : String}
    (run : letterSpacingText m = .ok v) : Over isWordChar v := by
  unfold letterSpacingText at run
  split at run
  · exact over_pixels run
  · split at run
    · obtain ⟨factor, run, done⟩ := bind_eq_ok.1 run
      rw [← pure_eq_ok.1 done]
      exact (over_factorText run).append (by decide)
    · rw [← Except.ok.inj run]
      decide

/-- The value that a style itself has is a word, unless it is the quoted family. -/
theorem over_ownValue {v : String} (run : ownValue style p = .ok v) (other : p ≠ .family) :
    Over isWordChar v := by
  cases p with
  | family => exact absurd rfl other
  | size => exact over_pixels run
  | style =>
      rw [← Except.ok.inj run]
      split <;> decide
  | weight =>
      rw [← Except.ok.inj run]
      exact (Number.over_natText _).word
  | lineHeight => exact over_lineHeightText run
  | letterSpacing => exact over_letterSpacingText run

/-- The value that a style itself has is no reference. -/
theorem ownValue_ne_reference {v : String} (run : ownValue style p = .ok v) :
    v ≠ "var(" ++ n ++ ")" := by
  rintro rfl
  by_cases family : p = .family
  · subst family
    have heads := congrArg (fun v => v.toList.head?) (Except.ok.inj run)
    simp at heads
  · have word := over_ownValue run family '(' (by simp)
    revert word
    decide

/-- A property is written as a reference to a name exactly if it is bound to a token of that name. -/
theorem boundValue_eq_reference_iff :
    boundValue propertyOf? style p = .ok ("var(" ++ n ++ ")") ↔
      boundProperty? propertyOf? style p = some n := by
  constructor
  · intro run
    cases bound : boundProperty? propertyOf? style p with
    | none =>
        rw [boundProperty?] at bound
        rw [boundValue, bound] at run
        exact absurd rfl (ownValue_ne_reference run)
    | some m =>
        rw [boundValue_of_bound bound] at run
        have same := congrArg String.toList (Except.ok.inj run)
        simp only [String.toList_append, List.append_cancel_right_eq,
          List.append_cancel_left_eq] at same
        rw [String.toList_inj.1 same]
  · exact boundValue_of_bound

/-- The values of a style come in the order of the properties, each by its property. -/
theorem propertyValues_eq_ok {values : List (StyleProperty × String)}
    (run : propertyValues propertyOf? style = .ok values) :
    values.map (·.1) = StyleProperty.all ∧
      ∀ v ∈ values, boundValue propertyOf? style v.1 = .ok v.2 := by
  constructor
  · have kept := mapM_map_eq (g := (·.1)) (h := id) run fun p v step => by
      obtain ⟨_, -, done⟩ := bind_eq_ok.1 step
      rw [← pure_eq_ok.1 done]
      rfl
    rwa [List.map_id] at kept
  · intro v mem
    obtain ⟨p, -, step⟩ := mem_mapM run mem
    obtain ⟨value, bound, done⟩ := bind_eq_ok.1 step
    cases pure_eq_ok.1 done
    exact bound

/-! ## Lines -/

theorem over_styleName : Over (· != ':') (styleSlug style.name ++ "-" ++ p.suffix) := by
  have word : Over isWordChar (styleSlug style.name ++ "-" ++ p.suffix) := by
    refine ((Text.over_slug _).append (by decide)).append ?_
    cases p <;> decide
  exact word.ne (by decide)

theorem declaredName?_style (text : String) :
    Css.declaredName? (inner (declared (styleProperty style p) text)) =
      some (styleProperty style p) :=
  Css.declaredName?_inner over_styleName text

/-- The declarations of a style, one for each property, and a blank line. -/
theorem composedStyle_properties (run : composedStyle .properties propertyOf? style = .ok lines) :
    ∃ values : List (StyleProperty × String),
      propertyValues propertyOf? style = .ok values ∧
        lines = values.map (fun v => inner (declared (styleProperty style v.1) v.2)) ++ [""] := by
  obtain ⟨values, read, done⟩ := bind_eq_ok.1 run
  refine ⟨values, read, ?_⟩
  rw [← pure_eq_ok.1 done]
  simp only [styleLines, styleProperty, String.append_assoc]

theorem declaredNames_composedStyle
    (run : composedStyle .properties propertyOf? style = .ok lines) :
    Css.declaredNames lines = StyleProperty.all.map (styleProperty style) := by
  obtain ⟨values, read, rfl⟩ := composedStyle_properties run
  obtain ⟨properties, -⟩ := propertyValues_eq_ok read
  have blank : Css.declaredName? "" = none := by decide
  rw [Css.declaredNames, List.filterMap_append, List.filterMap_map]
  simp [Function.comp_def, declaredName?_style, ← properties, blank]

theorem mem_composedStyle (run : composedStyle .properties propertyOf? style = .ok lines)
    {line : String} (mem : line ∈ lines) : line = "" ∨ ∃ p v,
      boundValue propertyOf? style p = .ok v ∧ line = inner (declared (styleProperty style p) v) := by
  obtain ⟨values, read, rfl⟩ := composedStyle_properties run
  rcases List.mem_append.1 mem with mem | mem
  · obtain ⟨⟨p, v⟩, value, rfl⟩ := List.mem_map.1 mem
    exact .inr ⟨p, v, (propertyValues_eq_ok read).2 _ value, rfl⟩
  · exact .inl (List.mem_singleton.1 mem)

/-- Each property of a style has its line. -/
theorem exists_line_of_composedStyle
    (run : composedStyle .properties propertyOf? style = .ok lines) (p : StyleProperty) :
    ∃ v, boundValue propertyOf? style p = .ok v ∧
      inner (declared (styleProperty style p) v) ∈ lines := by
  obtain ⟨values, read, rfl⟩ := composedStyle_properties run
  obtain ⟨properties, bound⟩ := propertyValues_eq_ok read
  obtain ⟨v, value, rfl⟩ := List.mem_map.1 (properties ▸ p.mem_all)
  exact ⟨v.2, bound v value, List.mem_append_left _ (List.mem_map.2 ⟨v, value, rfl⟩)⟩

/-- The lines around those of the styles. -/
def frontLines : List String :=
  Section.banner '-' ["TEXT STYLES — Composite typography tokens from text styles",
    "Format: " ++ formTitle .properties] ++ [Css.rootSelector ++ " \x7b"]

theorem compose_properties (run : compose .properties propertyOf? styles = .ok lines) :
    ∃ bodies, styles.mapM (composedStyle .properties propertyOf?) = .ok bodies ∧
      (styles = [] ∧ lines = [] ∨ lines = frontLines ++ bodies.flatten ++ ["\x7d"]) := by
  obtain ⟨bodies, read, run⟩ := bind_eq_ok.1 run
  refine ⟨bodies, read, ?_⟩
  dsimp only at run
  split at run
  · rename_i none
    exact .inl ⟨List.isEmpty_iff.1 none, (pure_eq_ok.1 run).symm⟩
  · exact .inr (pure_eq_ok.1 run).symm

theorem declaredName?_frontLines : ∀ line ∈ frontLines, Css.declaredName? line = none := by
  decide +kernel

/-- As custom properties, styles declare the names of their six properties and nothing else. -/
theorem declaredNames_compose (run : compose .properties propertyOf? styles = .ok lines) :
    Css.declaredNames lines = styleProperties styles := by
  obtain ⟨bodies, read, shape⟩ := compose_properties run
  have each := mapM_map_eq (g := Css.declaredNames)
    (h := fun style => StyleProperty.all.map (styleProperty style)) read
    fun style body step => declaredNames_composedStyle step
  rcases shape with ⟨rfl, rfl⟩ | rfl
  · rfl
  · have front : frontLines.filterMap Css.declaredName? = [] :=
      List.filterMap_eq_nil_iff.2 declaredName?_frontLines
    have back : Css.declaredName? "\x7d" = none := by decide
    rw [Css.declaredNames, List.filterMap_append, List.filterMap_append, front,
      List.filterMap_flatten]
    have bodies' : bodies.map (List.filterMap Css.declaredName?) =
        styles.map fun style => StyleProperty.all.map (styleProperty style) := each
    rw [bodies', styleProperties, List.flatMap_def]
    simp [back]

/-- A line that declares a property belongs to a style. -/
theorem exists_style_of_line (run : compose .properties propertyOf? styles = .ok lines)
    {line : String} (mem : line ∈ lines) (declares : Css.declaredName? line = some n) :
    ∃ style ∈ styles, ∃ p v, boundValue propertyOf? style p = .ok v ∧
      line = inner (declared (styleProperty style p) v) := by
  obtain ⟨bodies, read, ⟨-, rfl⟩ | rfl⟩ := compose_properties run
  · cases mem
  · rcases List.mem_append.1 mem with mem | mem
    · rcases List.mem_append.1 mem with mem | mem
      · rw [declaredName?_frontLines line mem] at declares
        cases declares
      · obtain ⟨body, listed, mem⟩ := List.mem_flatten.1 mem
        obtain ⟨style, listed, step⟩ := mem_mapM read listed
        rcases mem_composedStyle step mem with rfl | ⟨p, v, run, rfl⟩
        · revert declares
          exact nofun
        · exact ⟨style, listed, p, v, run, rfl⟩
    · rw [List.mem_singleton.1 mem] at declares
      revert declares
      exact nofun

/-- The name of a style is written as a reference to itself exactly if a property of that name is
bound to a token of that name. -/
theorem self_line_iff (run : compose .properties propertyOf? styles = .ok lines)
    (name : n ∈ styleProperties styles) :
    inner (declared n ("var(" ++ n ++ ")")) ∈ lines ↔
      ∃ style ∈ styles, ∃ p, styleProperty style p = n ∧
        boundProperty? propertyOf? style p = some n := by
  obtain ⟨named, -, q, rfl⟩ := mem_styleProperties.1 name
  constructor
  · intro mem
    obtain ⟨style, listed, p, v, value, same⟩ :=
      exists_style_of_line run mem (declaredName?_style _)
    have names := congrArg Css.declaredName? same
    rw [declaredName?_style, declaredName?_style] at names
    have one := Option.some.inj names
    rw [one] at same ⊢
    rw [← Css.inner_declared_inj same] at value
    exact ⟨style, listed, p, rfl, boundValue_eq_reference_iff.1 value⟩
  · rintro ⟨style, listed, p, same, bound⟩
    obtain ⟨bodies, read, shape⟩ := compose_properties run
    obtain ⟨body, inside, step⟩ := exists_of_mapM read listed
    obtain ⟨v, value, line⟩ := exists_line_of_composedStyle step p
    rw [boundValue_of_bound bound] at value
    cases value
    rw [same] at line
    rcases shape with ⟨rfl, -⟩ | rfl
    · cases listed
    · exact List.mem_append_left _ (List.mem_append_right _ (List.mem_flatten.2 ⟨body, inside, line⟩))

end Typography

/-! ## The whole stylesheet -/

/-- Whether lines of text styles leave everything else alone: they declare each name once, none that a
section declares, and none by itself. -/
structure Emission.KeptBy (e : Emission) (lines : List String) : Prop where
  once : (Css.declaredNames lines).Nodup
  fresh : ∀ n ∈ Css.declaredNames lines, ¬ ∃ sec ∈ e.sections, ∃ x ∈ sec.entries, x.Declares n
  defined : ∀ n ∈ Css.declaredNames lines, inner (declared n ("var(" ++ n ++ ")")) ∉ lines

/-- A property of a style is declared by a section exactly if a section is given its name: companions
of proportions have names of another form. -/
theorem declares_styleProperty_iff (run : Emission.ofCatalog o cat = .ok e) :
    (∃ sec ∈ e.sections, ∃ x ∈ sec.entries, x.Declares (Typography.styleProperty style p)) ↔
      cat.Grants o (Typography.styleProperty style p) := by
  rw [← mem_properties_iff_grants run]
  simp only [Emission.properties, List.mem_flatMap, Section.properties, List.mem_map]
  refine exists_congr fun sec => and_congr_right fun _ => exists_congr fun x =>
    and_congr_right fun _ => ?_
  constructor
  · rintro (same | ⟨columns, -, same⟩)
    · exact same
    · exact absurd same.symm Typography.styleProperty_ne_companion
  · exact .inl

/-- Text styles as custom properties leave everything else alone exactly if their slugs are distinct, no
section is given one of their names, and none of their properties is bound to a token of its own
name. -/
theorem text_styles_overwrite_nothing_iff (run : Emission.ofCatalog o cat = .ok e)
    (asked : o.textStyles = true) (form : o.textStyleForm = .properties)
    (styled : textStyleLines o s cat = .ok lines) :
    Css.declaredNames lines = Typography.styleProperties s.textStyles ∧
      (e.KeptBy lines ↔
        (s.textStyles.map fun style => styleSlug style.name).Nodup ∧
        ∀ style ∈ s.textStyles, ∀ p, ¬ cat.Grants o (Typography.styleProperty style p) ∧
          Typography.boundProperty? (fun id => (cat.token? id).map (·.property)) style p ≠
            some (Typography.styleProperty style p)) := by
  rw [textStyleLines, asked, if_pos rfl, form] at styled
  have names := Typography.declaredNames_compose styled
  refine ⟨names, ?_⟩
  rw [← Typography.styleProperties_nodup_iff]
  constructor
  · intro kept
    refine ⟨names ▸ kept.once, fun style listed p => ?_⟩
    have name : Typography.styleProperty style p ∈ Typography.styleProperties s.textStyles :=
      Typography.mem_styleProperties.2 ⟨style, listed, p, rfl⟩
    refine ⟨fun granted => ?_, fun own => ?_⟩
    · exact kept.fresh _ (names ▸ name) ((declares_styleProperty_iff run).2 granted)
    · exact kept.defined _ (names ▸ name)
        ((Typography.self_line_iff styled name).2 ⟨style, listed, p, rfl, own⟩)
  · rintro ⟨once, each⟩
    refine ⟨names ▸ once, fun n name => ?_, fun n name line => ?_⟩
    · obtain ⟨style, listed, p, rfl⟩ := Typography.mem_styleProperties.1 (names ▸ name)
      exact fun declared => (each style listed p).1 ((declares_styleProperty_iff run).1 declared)
    · obtain ⟨style, listed, p, rfl, own⟩ :=
        (Typography.self_line_iff styled (names ▸ name)).1 line
      exact (each style listed p).2 own

namespace TypoDesign

/-- A style of some name whose size is bound to the only variable. -/
def styleOf (name : String) : RawTextStyle where
  id := name
  name := name
  fontFamily := "Inter"
  fontStyle := "Regular"
  fontSize := 16
  lineHeight := ⟨"AUTO", 0⟩
  letterSpacing := ⟨"AUTO", 0⟩
  bindings := [("fontSize", "v")]

/-- Styles of some names beside a variable for the size of type. -/
def design (names : List String) : Design.Snapshot where
  collections := [⟨"c", "Typo - 2. Aliases", [⟨"m", "Value"⟩], ["v"], false⟩]
  variableRecords := [⟨"v", "size", some "", .string, [("m", .text "large")]⟩]
  textStyles := names.map styleOf

/-- Options that ask for text styles. -/
def options : Options := { textStyles := true }

/-- The only collection of the design. -/
def collection : Collection where
  id := "c"
  name := "Typo - 2. Aliases"
  domain := "typo"
  layerName := "2. Aliases"
  layer := .aliases
  modes := [⟨"m", "Value", none⟩]
  kind := .single
  tokenIds := ["v"]

/-- The token of the variable. -/
def size : Token where
  id := "v"
  name := "size"
  description := ""
  collectionId := "c"
  collectionName := "Typo - 2. Aliases"
  domain := "typo"
  layer := .aliases
  kind := .string
  values := [("m", .literal (.text "large"))]
  property := "--typo-size"

/-- The catalog of the design. -/
def catalog : Catalog where
  collections := [collection]
  tokens := [size]

/-- The sections of the design, `--typo-size: "large"`. -/
def sections : Emission :=
  ⟨[⟨"TYPO - 2. ALIASES", [⟨"v", "--typo-size", .plain (.quoted "large")⟩], [], []⟩]⟩

theorem catalog_of_design (names : List String) :
    Catalog.ofSource (design names).source .default options = .ok catalog := rfl

theorem sections_of_catalog : Emission.ofCatalog options catalog = .ok sections :=
  ofCatalog_of_only rfl (by decide) rfl rfl

/-- The lines of one style. -/
def linesOf (slug : String) : List String :=
  [("family", "\x22Inter\x22"), ("size", "var(--typo-size)"), ("style", "normal"), ("weight", "400"),
    ("line-height", "normal"), ("letter-spacing", "0px")].map
      (fun v => inner (declared ("--" ++ slug ++ "-" ++ v.1) v.2)) ++ [""]

/-- A style of another name leaves the token alone. -/
theorem body_overwrites_nothing :
    ∃ lines, textStyleLines options (design ["Body"]).source catalog = .ok lines ∧
      sections.KeptBy lines := by
  have styled : textStyleLines options (design ["Body"]).source catalog =
      .ok (Typography.frontLines ++ linesOf "body" ++ ["\x7d"]) := rfl
  refine ⟨_, styled, (text_styles_overwrite_nothing_iff sections_of_catalog rfl rfl styled).2.2
    ⟨by decide +kernel, fun style listed p => ?_⟩⟩
  obtain rfl := List.mem_singleton.1 listed
  rw [← mem_properties_iff_grants sections_of_catalog]
  cases p <;> exact ⟨by decide +kernel, by decide +kernel⟩

/-- Two styles of different names, but of one slug, declare the same names; one of the names belongs
to the token, and it is declared by itself. -/
theorem styles_may_overwrite :
    Catalog.ofSource (design ["sf/Typo", "lf/Typo"]).source .default options = .ok catalog ∧
      Emission.ofCatalog options catalog = .ok sections ∧
      ((design ["sf/Typo", "lf/Typo"]).textStyles.map (·.name)).Nodup ∧
      ∃ lines, textStyleLines options (design ["sf/Typo", "lf/Typo"]).source catalog = .ok lines ∧
        ¬ (Css.declaredNames lines).Nodup ∧
        (∃ n ∈ Css.declaredNames lines, n ∈ sections.properties) ∧
        inner (declared "--typo-size" "var(--typo-size)") ∈ lines := by
  have styled : textStyleLines options (design ["sf/Typo", "lf/Typo"]).source catalog =
      .ok (Typography.frontLines ++ (linesOf "typo" ++ linesOf "typo") ++ ["\x7d"]) := rfl
  exact ⟨catalog_of_design _, sections_of_catalog, by decide, _, styled, by decide +kernel,
    ⟨"--typo-size", by decide +kernel, by decide +kernel⟩, by decide +kernel⟩

end TypoDesign

end TokenSheet
