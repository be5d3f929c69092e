import TokenSheet.Design.Basic
import TokenSheet.Text.Blank
import TokenSheet.Text.Case
import TokenSheet.Text.Slug

/-!
Properties of a text style.

Each of the six properties has a value of its own, computed from the style. The weight follows from the name of
the font style (`fontWeight`): compound words are looked for before the words that they contain.
-/

namespace TokenSheet.Typography

open Design (RawTextStyle Metric)
open Text (lower mentions)

/-- The properties of a text style. -/
inductive StyleProperty where
  | family
  | size
  | style
  | weight
  | lineHeight
  | letterSpacing
deriving DecidableEq, Repr

namespace StyleProperty

/-- All properties in the order in which they are written. -/
def all : List StyleProperty :=
  [.family, .size, .style, .weight, .lineHeight, .letterSpacing]

/-- The name of a property in a design. -/
def key : StyleProperty → String
  | .family => "fontFamily"
  | .size => "fontSize"
  | .style => "fontStyle"
  | .weight => "fontWeight"
  | .lineHeight => "lineHeight"
  | .letterSpacing => "letterSpacing"

/-- The end of the name of a custom property. -/
def suffix : StyleProperty → String
  | .family => "family"
  | .size => "size"
  | .style => "style"
  | .weight => "weight"
  | .lineHeight => "line-height"
  | .letterSpacing => "letter-spacing"

/-- The name of the property in a rule. -/
def cssName : StyleProperty → String
  | .family => "font-family"
  | .size => "font-size"
  | .style => "font-style"
  | .weight => "font-weight"
  | .lineHeight => "line-height"
  | .letterSpacing => "letter-spacing"

/-- The property with a name in a design. -/
def ofKey? (s : String) : Option StyleProperty :=
  all.find? fun p => p.key == s

end StyleProperty

/-- The words for weights, the first match counting. -/
def weightWords : List (String × Nat) := [
  ("thin", 100), ("hairline", 100), ("extralight", 200), ("ultralight", 200), ("light", 300),
  ("medium", 500), ("semibold", 600), ("demibold", 600), ("extrabold", 800), ("ultrabold", 800),
  ("bold", 700), ("black", 900), ("heavy", 900)]

/-- The weight that a font style names; 400 if it names none. Spaces and hyphens do not count. -/
def fontWeight (fontStyle : String) : Nat :=
  let compact := String.ofList ((lower fontStyle).toList.filter fun c => c != ' ' && c != '-')
  ((weightWords.find? fun w => mentions compact w.1).map (·.2)).getD 400

/-- A length in pixels. -/
def pixels (x : Float) : Except NumberError String := do
  return (← Scalar.shortText x) ++ "px"

/-- A percentage as a factor with a count of decimal places. -/
def factorText (percent : Float) (places : Nat) : Except NumberError String := do
  return Number.fixedText (← Scalar.roundTo (percent / 100.0) places) places

/-- The text of a line height. -/
def lineHeightText (m : Metric) : Except NumberError String :=
  if m.unit = "PIXELS" then pixels m.value
  else if m.unit = "PERCENT" then factorText m.value 2
  else .ok "normal"

/-- The text of a letter spacing. -/
def letterSpacingText (m : Metric) : Except NumberError String :=
  if m.unit = "PIXELS" then pixels m.value
  else if m.unit = "PERCENT" then do return (← factorText m.value 3) ++ "em"
  else .ok "0px"

/-- The value that a text style itself has for a property. -/
def ownValue (s : RawTextStyle) : StyleProperty → Except NumberError String
  | .family => .ok ("\x22" ++ s.fontFamily ++ "\x22")
  | .size => pixels s.fontSize
  | .style => .ok (if mentions (lower s.fontStyle) "italic" then "italic" else "normal")
  | .weight => .ok (toString (fontWeight s.fontStyle))
  | .lineHeight => lineHeightText s.lineHeight
  | .letterSpacing => letterSpacingText s.letterSpacing

/-! ## Names -/

/-- The words that may stand for a namespace folder. -/
def namespaceWords : List String := ["short-form", "long-form", "sf", "lf"]

/-- The letter that a character counts as in a namespace word; the long s counts as an s. -/
def namespaceLetter (c : Char) : Char :=
  if c.toNat = 0x17F then 's' else c.toLower

/-- The rest of a name after a namespace word and a slash, with blanks around the slash. -/
def dropNamespace? (name : List Char) (word : String) : Option (List Char) :=
  let size := word.toList.length
  if (name.take size).map namespaceLetter = word.toList then
    match (name.drop size).dropWhile Text.isBlank with
    | '/' :: rest => some (rest.dropWhile Text.isBlank)
    | _ => none
  else none

/-- The slug of a text style, without its namespace folder. -/
def styleSlug (name : String) : String :=
  let short := (namespaceWords.findSome? (dropNamespace? name.toList)).getD name.toList
  Text.slug (String.ofList short)

end TokenSheet.Typography
