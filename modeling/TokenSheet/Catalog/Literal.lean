import TokenSheet.Css.Color
import TokenSheet.Design.Basic
import TokenSheet.Export.Options

/-!
Literals of a design as literals of a token.

A value counts only if it fits the type that the token is declared with. A flag may also be given as a number,
and a color becomes text in the notation of the export.
-/

namespace TokenSheet

open Design (RawValue)

/-- The opacity of a color as written. -/
def alphaOf : Number → Css.Alpha Float
  | .int n => .whole n
  | .real x => .part x

/-- A color in a notation. -/
def colorText (colors : ColorNotation) (red green blue : Float) (alpha : Option Number) :
    Except NumberError String :=
  match colors with
  | .hex => Css.hexColor red green blue (alpha.map alphaOf)
  | .oklch => Css.polarColor red green blue (alpha.map alphaOf)

/-- The literal that a value stands for in a token of a type; nothing if the value does not fit. -/
def literalOf? (colors : ColorNotation) (kind : TokenKind) (value : RawValue) :
    Except NumberError (Option Literal) :=
  match kind, value with
  | .color, .color r g b alpha => do return some (.text (← colorText colors r g b alpha))
  | .float, .number x => .ok (some (.number x))
  | .string, .text s => .ok (some (.text s))
  | .boolean, .flag b => .ok (some (.flag b))
  | .boolean, .number x => .ok (some (.flag (!(x == 0))))
  | _, _ => .ok none

end TokenSheet
