import TokenSheet.Css.Condition
import TokenSheet.Css.Value
import TokenSheet.Number.Double

/-!
Blocks of a stylesheet.

A section has one default block, whose entries declare properties, and further blocks that declare some of
them again under a condition or below a selector. `lines` writes a block; a block that follows another one
starts with a blank line.
-/

namespace TokenSheet.Css

/-! ## Declarations and entries -/

/-- A value for a property. -/
structure Declaration where
  property : String
  value : Value Float

/-- A property with a text, as declared. -/
def declared (property text : String) : String :=
  property ++ ": " ++ text ++ ";"

/-- The text of a declaration. -/
def Declaration.text (d : Declaration) : String :=
  declared d.property d.value.text

/-- How an entry of a default block is written. -/
inductive EntryForm where
  | plain (value : Value Float)
  /-- The first of several pieces of an interpolation. -/
  | piecewise (pieces : Nat) (value : Value Float)
  | viewport (value : Value Float)
  /-- A count of columns of the grid, with a companion in fractions. -/
  | proportion (columns : Nat)

/-- An entry of a default block: a token under its property. -/
structure Entry where
  id : String
  property : String
  form : EntryForm

/-- A line inside a block. -/
def inner (s : String) : String := "  " ++ s

/-- A comment on one line. -/
def comment (s : String) : String := "/* " ++ s ++ " */"

/-- A block with a header line and indented lines. -/
def braced (header : String) (body : List String) : List String :=
  (header ++ " \x7b") :: body.map inner ++ ["\x7d"]

/-- The property that carries the fractions of a proportion. -/
def companion (property : String) : String := property ++ "--fr"

namespace Entry

/-- The comment that explains an entry, and what the entry declares. -/
def parts (gridColumns : Nat) (e : Entry) : Option String × List String :=
  match e.form with
  | .plain v => (none, [declared e.property v.text])
  | .piecewise n v =>
    (some ("Piecewise clamp: non-linear scaling (" ++ toString n ++ " segments)"),
      [declared e.property v.text])
  | .viewport v =>
    (some "Viewport-relative: uses min() instead of clamp()", [declared e.property v.text])
  | .proportion n =>
    (some ("Proportion: " ++ toString n ++ "/" ++ toString gridColumns ++
        " columns (flex/grid-ready)"),
      [declared e.property (toString n), declared (companion e.property) (toString n ++ "fr")])

/-- The lines of an entry. With `ids` a comment with the id of the token stands in front of its
declaration, or in front of the explanation of a proportion. -/
def lines (gridColumns : Nat) (ids : Bool) (e : Entry) : List String :=
  let idLine := if ids then [comment e.id] else []
  let (note, declarations) := e.parts gridColumns
  let noteLine := (note.map comment).toList
  match e.form with
  | .proportion _ => idLine ++ noteLine ++ declarations
  | _ => noteLine ++ idLine ++ declarations

end Entry

/-! ## Blocks -/

/-- Declarations under a media condition. -/
structure MediaBlock where
  condition : Condition
  declarations : List Declaration

/-- Declarations for a theme, given by the text that names it. -/
structure ThemeBlock where
  theme : String
  declarations : List Declaration

/-- A block after the default one. -/
inductive Block where
  /-- The values of a mode under the condition of its width. -/
  | media (block : MediaBlock)
  /-- Pieces of interpolations that share a condition. -/
  | pieces (label : String) (block : MediaBlock)
  /-- The values of a theme under a color scheme of the system. -/
  | scheme (block : ThemeBlock)
  /-- The values of the themes that can be chosen in place of the scheme. -/
  | chosenThemes (blocks : List ThemeBlock)
  /-- The values of a further theme. -/
  | furtherTheme (block : ThemeBlock)
  /-- Values mode by mode, for browsers that know no interpolation. -/
  | fallback (blocks : List MediaBlock)

/-- The default selector. -/
def rootSelector : String := ":root"

/-- Declarations below a selector. -/
def ruleLines (selector : String) (ds : List Declaration) : List String :=
  braced selector (ds.map Declaration.text)

/-- Declarations under a media condition. -/
def mediaLines (condition : String) (ds : List Declaration) : List String :=
  braced ("@media " ++ condition) (ruleLines rootSelector ds)

/-- The lines of a media block. -/
def MediaBlock.lines (b : MediaBlock) : List String :=
  mediaLines b.condition.text b.declarations

/-- The selector of a theme that the page has chosen. -/
def themeSelector (theme : String) : String :=
  "[data-theme=\x22" ++ theme ++ "\x22]"

/-- The lines of a theme that the page may choose. -/
def ThemeBlock.ruleLines (b : ThemeBlock) : List String :=
  Css.ruleLines (themeSelector b.theme) b.declarations

/-- The lines of a theme under the color scheme of its name. -/
def ThemeBlock.schemeLines (b : ThemeBlock) : List String :=
  mediaLines ("(prefers-color-scheme: " ++ b.theme ++ ")") b.declarations

/-- The condition that holds in browsers without interpolation. -/
def withoutClamp : String := "@supports not (width: clamp(1px, 1vw, 2px))"

/-- What explains the themes that the page may choose. -/
def themeNote : List String := [
  "/* Explicit theme selectors - These override system preferences",
  "   and enable manual theme switching via JavaScript */"]

/-- Groups of lines with a blank line between them. -/
def separated : List (List String) → List String
  | [] => []
  | [g] => g
  | g :: rest => g ++ "" :: separated rest

/-- The lines of a block without the blank line in front of it. -/
def Block.body : Block → List String
  | .media b => b.lines
  | .pieces label b => comment ("Piecewise clamp: " ++ label ++ " segment") :: b.lines
  | .scheme b => b.schemeLines
  | .chosenThemes bs => themeNote ++ separated (bs.map ThemeBlock.ruleLines)
  | .furtherTheme b => b.ruleLines
  | .fallback bs =>
    comment "Fallback for older browsers" :: braced withoutClamp (bs.flatMap MediaBlock.lines)

/-- The lines of a block. -/
def Block.lines (b : Block) : List String :=
  "" :: b.body

end TokenSheet.Css
