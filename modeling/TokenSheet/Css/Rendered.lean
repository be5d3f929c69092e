import TokenSheet.Css.PropertyName
import TokenSheet.Css.Value
import TokenSheet.Export.Options
import TokenSheet.Number.Double

/-!
The values of tokens as values of custom properties.

A reference is written only while references are preserved and the property of its target is known. Numbers
of a number token are rounded to two places and get the unit that the name asks for; texts are quoted
unless they are keywords of a font style.
-/

namespace TokenSheet

open Css (Value)

/-- The keywords of a font style. -/
def fontStyleWords : List String := ["italic", "oblique", "normal"]

/-- A text in lowercase, without the blanks at its ends. -/
def keywordForm (s : String) : String :=
  Text.trim (Text.lower s)

/-- Whether a text is a font style, perhaps an oblique one with an angle. -/
def isFontStyle (s : String) : Bool :=
  let word := keywordForm s
  fontStyleWords.contains word || "oblique ".toList.isPrefixOf word.toList

/-- A literal in plain form. -/
def Literal.plain : Literal → String
  | .number x => Number.exactText x
  | .flag b => if b then "1" else "0"
  | .text s => s

namespace Token

/-- The unit of the numbers of a token. -/
def unit (t : Token) : String :=
  Css.unitOf t.name t.property

/-- The value that a literal is written as. -/
def renderLiteral (t : Token) (l : Literal) : Except NumberError (Value Float) :=
  match t.kind, l with
  | .float, .number x => do return .quantity (← Scalar.roundTo x 2) t.unit
  | .float, .flag b => do return .quantity (← Scalar.roundTo (if b then 1.0 else 0.0) 2) t.unit
  | .string, .text s => .ok (if isFontStyle s then .verbatim (keywordForm s) else .quoted s)
  | _, l => .ok (.verbatim l.plain)

/-- The value that a token value is written as, if it is written at all. -/
def render (o : Options) (t : Token) : TokenValue → Except NumberError (Option (Value Float))
  | .reference _ none => .ok none
  | .reference _ (some property) =>
    .ok (if o.references = .preserved ∧ property ≠ "" then some (.reference property) else none)
  | .literal l => do return some (← t.renderLiteral l)

/-- The value that a token is written as in a mode. -/
def rendered (o : Options) (t : Token) (modeId : String) :
    Except NumberError (Option (Value Float)) :=
  match t.valueIn modeId with
  | some v => t.render o v
  | none => .ok none

/-- The text that a token is written as in a mode. -/
def renderedText (o : Options) (t : Token) (modeId : String) : Except NumberError (Option String) := do
  return (← t.rendered o modeId).map Value.text

/-! ## Variation over modes -/

/-- Whether a mode with a value has another text than the given one. -/
def differsFrom (o : Options) (t : Token) (text : Option String) :
    List Mode → Except NumberError Bool
  | [] => .ok false
  | m :: rest =>
    if (t.valueIn m.id).isNone then differsFrom o t text rest
    else do
      if (← t.renderedText o m.id) = text then differsFrom o t text rest else return true

/-- Whether a token is written differently in some mode than in the first one. -/
def varies (o : Options) (t : Token) : List Mode → Except NumberError Bool
  | [] => .ok false
  | [_] => .ok false
  | first :: rest => do t.differsFrom o (← t.renderedText o first.id) rest

/-- Whether a token refers to another one in some of the modes. -/
def refersIn (t : Token) (modes : List Mode) : Bool :=
  modes.any fun m => ((t.valueIn m.id).map TokenValue.isReference).getD false

/-- Whether the values must be given mode by mode: they vary and cannot be interpolated. -/
def isStepped (o : Options) (t : Token) (modes : List Mode) : Except NumberError Bool := do
  return (← t.varies o modes) && (t.kind != .float || t.refersIn modes)

/-- Whether a token is a number that scales with the viewport. -/
def isScaling (o : Options) (t : Token) (modes : List Mode) : Except NumberError Bool :=
  if t.kind = .float ∧ t.hasReference = false then t.varies o modes else .ok false

end Token

end TokenSheet
