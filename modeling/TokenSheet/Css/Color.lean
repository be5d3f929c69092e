import TokenSheet.Number.Double

/-!
Colors in the notations of a stylesheet.

Channels run from zero to one. In hexadecimal notation a channel is the nearest byte, a half going up
(`channelByte`), written with two digits; the polar notation gives lightness, chroma and hue. Opacity is
written only if it is below one.
-/

namespace TokenSheet.Css

open Scalar

/-! ## Hexadecimal notation -/

/-- The opacity of a color: an integer of any size, or a number of the same type as the channels. -/
inductive Alpha (α : Type) where
  | whole (value : Int)
  | part (value : α)

namespace Alpha

variable {α : Type} [Scalar α]

/-- Whether something shines through. -/
def isTranslucent : Alpha α → Bool
  | .whole n => n < 1
  | .part x => below x (quotient 1 1)

/-- The opacity measured in units of one part in `k`, rounded; a half goes up. -/
def inUnits (k : Int) : Alpha α → Except NumberError Int
  | .whole n => do floor ((← ofInt (n * k)) + half : α)
  | .part x => do floor (x * (← ofInt k) + half)

end Alpha

/-- The byte of a channel: 255 times the channel, rounded; a half goes up. -/
def channelByte {α : Type} [Scalar α] (x : α) : Except NumberError Int :=
  Alpha.inUnits 255 (.part x)

/-- The digits of a byte: at least two places, the sign included. -/
def byteText (n : Int) : String :=
  let digits := Nat.toDigits 16 n.natAbs
  if n < 0 then String.ofList ('-' :: digits)
  else String.ofList (List.replicate (2 - digits.length) '0' ++ digits)

/-- A color in hexadecimal notation. -/
def hexColor {α : Type} [Scalar α] (red green blue : α) (alpha : Option (Alpha α)) :
    Except NumberError String := do
  let r ← channelByte red
  let g ← channelByte green
  let b ← channelByte blue
  let opaqueText := "#" ++ byteText r ++ byteText g ++ byteText b
  match alpha.filter Alpha.isTranslucent with
  | none => return opaqueText
  | some a => return opaqueText ++ byteText (← a.inUnits 255)

/-! ## Polar notation -/

/-- A power with a finite base that must stay finite. -/
def powerOf (x y : Float) : Except NumberError Float :=
  let p := Float.pow x y
  if Binary.isFinite x && !Binary.isFinite p then .error .powerOverflow else .ok p

/-- The linear intensity of a channel. -/
def linearChannel (c : Float) : Except NumberError Float :=
  if c ≤ 0.04045 then .ok (c / 12.92) else powerOf ((c + 0.055) / 1.055) 2.4

/-- The cube root of the size of a number, with its sign. -/
def signedCubeRoot (y : Float) : Float :=
  let root := Float.pow y.abs (1.0 / 3.0)
  if y.toBits.toNat / Nat.pow 2 63 % 2 = 1 then -root else root

/-- The circle constant, rounded to a double. -/
def circleConstant : Float := 3.141592653589793

/-- The angle of a point in degrees, from zero up to a full turn. -/
def hueOf (x z : Float) : Float :=
  let turned := Float.atan2 z x * (180.0 / circleConstant) + 360.0
  if turned ≥ 360.0 then turned - 360.0 else turned

/-- Lightness, chroma and hue of a color, rounded to two places, three places and whole degrees. -/
def polar (red green blue : Float) : Except NumberError (Float × Float × Float) := do
  let r ← linearChannel red
  let g ← linearChannel green
  let b ← linearChannel blue
  let x := 0.4124564 * r + 0.3575761 * g + 0.1804375 * b
  let y := 0.2126729 * r + 0.7151522 * g + 0.0721750 * b
  let z := 0.0193339 * r + 0.1191920 * g + 0.9503041 * b
  let lightness ← roundTo (signedCubeRoot y) 2
  let chroma ← roundTo (Float.sqrt (x * x + z * z) * 0.4) 3
  let hue ← roundTo (hueOf x z) 0
  return (lightness, chroma, hue)

/-- A color in polar notation. -/
def polarColor (red green blue : Float) (alpha : Option (Alpha Float)) :
    Except NumberError String := do
  let (lightness, chroma, hue) ← polar red green blue
  let body := text lightness ++ " " ++ text chroma ++ " " ++ text hue
  match alpha.filter Alpha.isTranslucent with
  | none => return "oklch(" ++ body ++ ")"
  | some a => return "oklch(" ++ body ++ " / " ++ toString (← a.inUnits 100) ++ "%)"

end TokenSheet.Css
