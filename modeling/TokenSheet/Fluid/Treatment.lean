import TokenSheet.Css.Condition
import TokenSheet.Css.Rendered
import TokenSheet.Fluid.Interpolation

/-!
How a scaling token is written in a fluid stylesheet.

By default it is one interpolation from the widest to the narrowest mode. On request it is as wide as the
viewport up to its widest value, or it is interpolated piece by piece between neighbouring modes.
-/

namespace TokenSheet

namespace Options

/-- Whether a property is to be written relative to the viewport. -/
def wantsViewport (o : Options) (property : String) : Bool :=
  o.viewportRelative.contains property

/-- Whether a property is to be interpolated piece by piece. -/
def wantsPieces (o : Options) (property : String) : Bool :=
  o.piecewise.contains property

end Options

namespace Fluid

open Css (Value)

/-- The number of a token in a mode at the width of the mode. -/
def sampleIn (t : Token) (m : Mode) : Option (Sample Float) :=
  (t.numberIn m.id).map fun x => ⟨m.px, x⟩

/-- The form that a scaling token takes. -/
inductive Form where
  | clamp
  | viewport
  | still
deriving DecidableEq, Repr

/-- The name of a form. -/
def Form.label : Form → String
  | .clamp => "clamp"
  | .viewport => "viewport"
  | .still => "static"

/-- The form and the value of a token over a range of modes, from two points at its ends. -/
def endToEnd (o : Options) (t : Token) (wide narrow : Sample Float) :
    Except NumberError (Form × Value Float) :=
  if o.wantsViewport t.property then do
    return (.viewport, ← viewportCapped wide.value t.unit)
  else if t.unit.isEmpty && wide.value == narrow.value then do
    return (.still, .quantity (← Scalar.roundTo wide.value 2) "")
  else do
    return (.clamp, ← linearClamp wide narrow t.unit)

/-- The value of a token over modes in order from the widest to the narrowest; nothing if there is no
number at one of the ends. -/
def fluidValue? (o : Options) (t : Token) (modes : List Mode) :
    Except NumberError (Option (Form × Value Float)) :=
  match modes.head?.bind (sampleIn t), modes.getLast?.bind (sampleIn t) with
  | some wide, some narrow => do return some (← endToEnd o t wide narrow)
  | _, _ => .ok none

/-- One piece of a piecewise interpolation, with the condition under which it applies. The piece that
belongs to the default block has none. -/
structure Piece where
  condition? : Option Css.Condition
  label : String
  value : Value Float

/-- The name of a piece between two modes. -/
def pieceLabel (first last : Mode) : String :=
  first.name ++ " → " ++ last.name

/-- The pieces between neighbouring modes, with the condition that each of them starts under. -/
def piecesFrom (condition : Mode → Css.Condition) (t : Token) :
    Option Css.Condition → List Mode → Except NumberError (List Piece)
  | condition?, first :: last :: rest => do
    let piece ← match sampleIn t first, sampleIn t last with
      | some p, some q => do
        pure [⟨condition?, pieceLabel first last, ← linearClamp p q t.unit⟩]
      | _, _ => pure []
    return piece ++ (← piecesFrom condition t (some (condition last)) (last :: rest))
  | _, _ => .ok []

/-- The pieces of a token over modes in order from the widest to the narrowest, starting at the default
end of the range. -/
def pieces (desktopFirst : Bool) (t : Token) (modes : List Mode) : Except NumberError (List Piece) :=
  if desktopFirst then piecesFrom Mode.below t none modes
  else piecesFrom Mode.upwards t none modes.reverse

end Fluid

end TokenSheet
