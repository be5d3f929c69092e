import TokenSheet.Number.Basic

/-!
Values of custom properties.

A value keeps its structure until it is written: a number with a unit, an interpolation between two
limits, a reference, a quoted text, or text that is written as it is. Numbers in a value have been
rounded already; writing one only chooses its digits.
-/

namespace TokenSheet.Css

/-- The middle term of an interpolation: a fixed part and a part that grows with the viewport. A negative
fixed part is subtracted, so `offset` is never negative. -/
inductive Preferred (α : Type) where
  | interceptFirst (intercept slope : α)
  | slopeFirst (slope offset : α)

/-- The value of a custom property. -/
inductive Value (α : Type) where
  | quantity (number : α) (unit : String)
  | clamp (lower : α) (preferred : Preferred α) (upper : α) (unit : String)
  /-- As wide as the viewport, up to a limit. -/
  | viewportCapped (limit : α) (unit : String)
  | reference (property : String)
  | quoted (text : String)
  | verbatim (text : String)

variable {α : Type} [Scalar α]

/-- The text of a middle term. -/
def Preferred.text (unit : String) : Preferred α → String
  | .interceptFirst intercept slope =>
    Scalar.text intercept ++ unit ++ " + " ++ Scalar.text slope ++ "vw"
  | .slopeFirst slope offset => Scalar.text slope ++ "vw - " ++ Scalar.text offset ++ unit

/-- The text of a value. -/
def Value.text : Value α → String
  | .quantity number unit => Scalar.text number ++ unit
  | .clamp lower preferred upper unit =>
    "clamp(" ++ Scalar.text lower ++ unit ++ ", calc(" ++ preferred.text unit ++ "), " ++
      Scalar.text upper ++ unit ++ ")"
  | .viewportCapped limit unit => "min(100vw, " ++ Scalar.text limit ++ unit ++ ")"
  | .reference property => "var(" ++ property ++ ")"
  | .quoted s => "\x22" ++ s ++ "\x22"
  | .verbatim s => s

end TokenSheet.Css
