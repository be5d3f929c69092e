import TokenSheet.Token.Basic

/-!
Width conditions of media queries, and the order of modes along the width.

Modes are put in order from the widest to the narrowest; modes of one width keep their order, and a mode
without a width counts as zero. When the widest mode is the default, each narrower one takes over one pixel
below its neighbour; otherwise each wider one takes over at its own width (`transitions`).
-/

namespace TokenSheet

namespace Css

/-- A condition on the width of the viewport, in pixels. -/
inductive Condition where
  | maxWidth (px : Int)
  | minWidth (px : Int)
deriving DecidableEq, Repr

/-- The text of a condition. -/
def Condition.text : Condition → String
  | .maxWidth px => "(max-width: " ++ toString px ++ "px)"
  | .minWidth px => "(min-width: " ++ toString px ++ "px)"

/-- Whether a viewport of a width satisfies a condition. -/
def Condition.holds (width : Int) : Condition → Prop
  | .maxWidth px => width ≤ px
  | .minWidth px => px ≤ width

instance (width : Int) (c : Condition) : Decidable (c.holds width) :=
  match c with
  | .maxWidth px => inferInstanceAs (Decidable (width ≤ px))
  | .minWidth px => inferInstanceAs (Decidable (px ≤ width))

end Css

namespace Mode

/-- The modes from the widest to the narrowest. -/
def widestFirst (modes : List Mode) : List Mode :=
  modes.mergeSort fun a b => b.px ≤ a.px

/-- The condition under which the modes narrower than this one apply. -/
def below (m : Mode) : Css.Condition :=
  .maxWidth (m.px - 1)

/-- The condition under which a mode and the wider ones apply. -/
def upwards (m : Mode) : Css.Condition :=
  .minWidth m.px

/-- Each mode but the default one with the condition under which it takes over, for modes in order from the
widest to the narrowest. -/
def transitions (desktopFirst : Bool) (modes : List Mode) : List (Css.Condition × Mode) :=
  if desktopFirst then (modes.zip modes.tail).map fun p => (p.1.below, p.2)
  else modes.reverse.tail.map fun m => (m.upwards, m)

/-- The default mode of modes in order from the widest to the narrowest. -/
def default? (desktopFirst : Bool) (modes : List Mode) : Option Mode :=
  if desktopFirst then modes.head? else modes.getLast?

end Mode

end TokenSheet
